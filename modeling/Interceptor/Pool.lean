/-
# Interceptor.Pool — bounded pools of objects that are used again

A pool keeps idle objects in a queue. `get` takes the object that was put
earliest, or a fresh one when none is idle, and hands it out as `reset`
leaves it. `put` keeps an object unless the pool is full. A pool holds at least
one object, whatever capacity is asked for.

* `idle_put_le`, `idle_get_le`: the number of idle objects stays within the capacity;
* `idle_put`, `idle_put_put`: what is put is the last to be idle, as far as there is room;
* `idle_get`, `idle_put_cases`: the queue as each of them leaves it;
* `exists_reset_get`: what `get` hands out is a reset object.
-/

namespace Interceptor

set_option autoImplicit false

/-- Objects with an empty state to go back to. -/
class Reset (α : Type) where
  reset : α → α

/-- Idle objects, the one put earliest first. -/
structure Pool (α : Type) where
  capacity : Nat
  idle : List α

namespace Pool

variable {α : Type}

/-- An empty pool. -/
def new (capacity : Nat) : Pool α := ⟨max capacity 1, []⟩

/-- The number of idle objects. -/
def size (p : Pool α) : Nat := p.idle.length

/-- Takes an idle object, or the fresh one when none is idle, in its reset state. -/
def get [Reset α] (p : Pool α) (fresh : α) : α × Pool α :=
  match p.idle with
  | [] => (Reset.reset fresh, p)
  | item :: rest => (Reset.reset item, { p with idle := rest })

/-- Gives an object to the pool, which drops it when it is full. -/
def put (p : Pool α) (item : α) : Pool α :=
  if p.idle.length < p.capacity then { p with idle := p.idle ++ [item] } else p

/-- What is put goes behind what is idle, if there is room. -/
theorem idle_put (p : Pool α) (item : α) :
    (p.put item).idle = (p.idle ++ [item]).take (max p.capacity p.idle.length) := by
  unfold put
  split
  · rename_i room
    rw [List.take_of_length_le (by simp; omega)]
  · rename_i full
    have filled : max p.capacity p.idle.length = p.idle.length := by omega
    rw [filled, List.take_left]

theorem capacity_put (p : Pool α) (item : α) : (p.put item).capacity = p.capacity := by
  unfold put
  split <;> rfl

/-- So it goes with two. -/
theorem idle_put_put (p : Pool α) (first second : α) :
    ((p.put first).put second).idle =
      (p.idle ++ [first, second]).take (max p.capacity p.idle.length) := by
  rw [idle_put, capacity_put]
  by_cases room : p.idle.length < p.capacity
  · have kept : (p.put first).idle = p.idle ++ [first] := by rw [put, if_pos room]
    have wide : max p.capacity (p.put first).idle.length = max p.capacity p.idle.length := by
      simp [kept]
      omega
    rw [wide, kept, List.append_assoc]
    rfl
  · have kept : (p.put first).idle = p.idle := by rw [put, if_neg room]
    have filled : max p.capacity p.idle.length = p.idle.length := by omega
    rw [kept, filled, List.take_left, List.take_left]

theorem idle_put_le (p : Pool α) (item : α) (h : p.size ≤ p.capacity) :
    (p.put item).size ≤ (p.put item).capacity := by
  unfold put size at *
  split
  · simp; omega
  · exact h

theorem idle_get_le [Reset α] (p : Pool α) (fresh : α) (h : p.size ≤ p.capacity) :
    (p.get fresh).2.size ≤ (p.get fresh).2.capacity := by
  unfold get size at *
  split <;> simp_all
  omega

theorem capacity_get [Reset α] (p : Pool α) (fresh : α) :
    (p.get fresh).2.capacity = p.capacity := by
  unfold get
  split <;> rfl

/-- What is taken is the first that was idle. -/
theorem idle_get [Reset α] (p : Pool α) (fresh : α) : (p.get fresh).2.idle = p.idle.tail := by
  unfold get
  split
  · rename_i queue
    rw [queue]
    rfl
  · rename_i queue
    rw [queue]
    rfl

/-- What is put comes last, or is dropped. -/
theorem idle_put_cases (p : Pool α) (item : α) :
    (p.put item).idle = p.idle ∨ (p.put item).idle = p.idle ++ [item] := by
  unfold put
  split
  · exact .inr rfl
  · exact .inl rfl

theorem exists_reset_get [Reset α] (p : Pool α) (fresh : α) :
    ∃ item, (p.get fresh).1 = Reset.reset item := by
  unfold get
  split
  · exact ⟨_, rfl⟩
  · exact ⟨_, rfl⟩

end Pool

end Interceptor

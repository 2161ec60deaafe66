/-
# Interceptor.Proofs.Custody — where the objects of a pool are

Whoever shares a pool takes objects from it, does to them what it likes while it holds them, and puts
them back, or puts in objects of its own. To tell one object from another, each has a number that nothing
changes (`Numbered`); the pool knows nothing of it. `Custody` is a pool with what is held and what is gone,
and with what the pool has kept and what it has handed out again, in this order.

* `taken_use`, `given_use`: what taking an object does, and what putting one does;
* `Accounted.use`, `accounted_of_run`: every object that was ever made is in one place; what was kept is
  handed out again in the order in which it was kept, or is still idle;
* `Pool.custody`: both, after any uses in any order, with what the next use does;
* `Pool.custody_crowded`: a full pool, an object that it drops, and one that it hands out again.
-/
import Interceptor.Buffer

namespace Interceptor

set_option autoImplicit false

variable {α : Type}

/-- An object with a number of its own. -/
structure Numbered (α : Type) where
  number : Nat
  object : α
  deriving DecidableEq, Repr

/-- Resetting an object leaves its number alone. -/
instance [Reset α] : Reset (Numbered α) := ⟨fun item => { item with object := Reset.reset item.object }⟩

/-- What those who share a pool may do. -/
inductive Use (α : Type)
  /-- Take an object, the fresh one if the pool makes one. -/
  | take (fresh : α)
  /-- Leave any state on an object that is held. -/
  | change (number : Nat) (object : α)
  /-- Put back an object that is held. -/
  | put (number : Nat)
  /-- Put in an object that does not come from the pool. -/
  | bring (object : α)
  /-- Drop an object that is held. -/
  | drop (number : Nat)

/-- A pool, and where its objects are. -/
structure Custody (α : Type) where
  pool : Pool (Numbered α)
  held : List (Numbered α) := []
  /-- Dropped by the pool, or by whoever held them. -/
  gone : List (Numbered α) := []
  /-- How many objects there ever were. -/
  made : Nat := 0
  /-- What the pool has kept, as it was put. -/
  kept : List (Numbered α) := []
  /-- What it has handed out that was not made for it. -/
  reused : List (Numbered α) := []

namespace Custody

/-- Drops an object. -/
def lose (custody : Custody α) (item : Numbered α) : Custody α :=
  { custody with gone := item :: custody.gone }

/-- Puts an object into the pool, which keeps it or drops it. -/
def give (custody : Custody α) (item : Numbered α) : Custody α :=
  let pool := custody.pool.put item
  if custody.pool.size < pool.size then { custody with pool, kept := custody.kept ++ [item] }
  else { custody with pool }.lose item

/-- Takes an object out of what is held, and does something with it. Nobody holds an object under
another number. -/
def release (custody : Custody α) (number : Nat) (next : Custody α → Numbered α → Custody α) : Custody α :=
  match custody.held.find? (·.number = number) with
  | none => custody
  | some item => next { custody with held := custody.held.eraseP (·.number = number) } item

/-- One use of the pool. -/
def use [Reset α] (custody : Custody α) : Use α → Custody α
  | .take fresh =>
    let (item, pool) := custody.pool.get ⟨custody.made, fresh⟩
    let custody := { custody with pool, held := item :: custody.held }
    if item.number = custody.made then { custody with made := custody.made + 1 }
    else { custody with reused := custody.reused ++ [item] }
  | .change number object =>
    { custody with held := custody.held.map fun item => if item.number = number then ⟨number, object⟩ else item }
  | .put number => custody.release number give
  | .bring object => { custody with made := custody.made + 1 }.give ⟨custody.made, object⟩
  | .drop number => custody.release number lose

/-- Uses one after another, of a pool that is new. -/
def run [Reset α] (capacity : Nat) (uses : List (Use α)) : Custody α :=
  uses.foldl use ⟨.new capacity, [], [], 0, [], []⟩

/-- The numbers of all objects, by the places that they are in. -/
def numbers (custody : Custody α) : List Nat :=
  (custody.pool.idle ++ custody.held ++ custody.gone).map (·.number)

/-! ## What a use does -/

/-- What taking an object does. -/
inductive Taken [Reset α] (custody : Custody α) (fresh : α) : Custody α → Prop
  /-- The object that was put earliest is handed out. -/
  | again (first : Numbered α) (rest : List (Numbered α)) (queue : custody.pool.idle = first :: rest) :
      Taken custody fresh { custody with
        pool := { custody.pool with idle := rest }
        held := Reset.reset first :: custody.held
        reused := custody.reused ++ [Reset.reset first] }
  /-- None is idle, and one is made. -/
  | anew (queue : custody.pool.idle = []) :
      Taken custody fresh { custody with
        held := ⟨custody.made, Reset.reset fresh⟩ :: custody.held
        made := custody.made + 1 }

/-- What putting an object does. -/
inductive Given (custody : Custody α) (item : Numbered α) : Custody α → Prop
  /-- There is room, and it is the last to be idle. -/
  | kept (room : custody.pool.size < custody.pool.capacity) :
      Given custody item { custody with
        pool := { custody.pool with idle := custody.pool.idle ++ [item] }
        kept := custody.kept ++ [item] }
  /-- The pool is full, and drops it. -/
  | dropped (full : custody.pool.capacity ≤ custody.pool.size) :
      Given custody item (custody.lose item)

theorem given_give (custody : Custody α) (item : Numbered α) : Given custody item (custody.give item) := by
  unfold give
  by_cases room : custody.pool.size < custody.pool.capacity
  · have put : custody.pool.put item = { custody.pool with idle := custody.pool.idle ++ [item] } := if_pos room
    have grows : custody.pool.size < (custody.pool.put item).size := by
      rw [put]
      simp [Pool.size]
    simp only [if_pos grows]
    rw [put]
    exact .kept room
  · have put : custody.pool.put item = custody.pool := if_neg room
    simp only [put, Nat.lt_irrefl, if_false]
    exact .dropped (Nat.le_of_not_lt room)

/-- What is released was held. -/
theorem release_cases (custody : Custody α) (number : Nat) (next : Custody α → Numbered α → Custody α) :
    custody.release number next = custody ∨
      ∃ before item after, custody.held = before ++ item :: after ∧ item.number = number ∧
        custody.release number next = next { custody with held := before ++ after } item := by
  unfold release
  cases found : custody.held.find? (·.number = number) with
  | none => exact .inl rfl
  | some item =>
      obtain ⟨named, before, after, held, others⟩ := List.find?_eq_some_iff_append.mp found
      refine .inr ⟨before, item, after, held, of_decide_eq_true named, ?_⟩
      have rest : custody.held.eraseP (·.number = number) = before ++ after := by
        rw [held, List.eraseP_append_right _ (by simpa using others), List.eraseP_cons_of_pos]
        exact named
      rw [rest]

/-! ## What all uses keep -/

section

variable [Reset α] {capacity : Nat} {custody : Custody α}

/-- The pool is within its capacity; every object there ever was is in exactly one place, but for those
that are on their way to one; and what was kept was handed out in the order in which it was kept, each
object as it is reset, or is idle still. -/
structure Accounted (capacity : Nat) (onTheirWay : List Nat) (custody : Custody α) : Prop where
  capacity : custody.pool.capacity = max capacity 1
  within : custody.pool.size ≤ custody.pool.capacity
  placed : (onTheirWay ++ custody.numbers).Perm (List.range custody.made)
  inOrder : custody.kept.map Reset.reset = custody.reused ++ custody.pool.idle.map Reset.reset

/-- No number is in use that has not been given out. -/
theorem Accounted.number_lt (accounted : Accounted capacity [] custody) {item : Numbered α}
    (there : item ∈ custody.pool.idle ++ custody.held ++ custody.gone) : item.number < custody.made := by
  have listed : item.number ∈ custody.numbers := List.mem_map_of_mem there
  exact List.mem_range.mp (accounted.placed.mem_iff.mp listed)

theorem taken_use (accounted : Accounted capacity [] custody) (fresh : α) :
    Taken custody fresh (custody.use (.take fresh)) := by
  unfold use Pool.get
  cases queue : custody.pool.idle with
  | nil =>
      -- the object is new, for it has the next number
      simp only [Reset.reset, if_true]
      exact .anew queue
  | cons first rest =>
      have there : first ∈ custody.pool.idle ++ custody.held ++ custody.gone := by simp [queue]
      have older : (Reset.reset first : Numbered α).number ≠ custody.made :=
        Nat.ne_of_lt (show first.number < custody.made from accounted.number_lt there)
      simp only [if_neg older]
      exact .again first rest queue

/-- An object is made, and gets the next number. -/
theorem Accounted.make (accounted : Accounted capacity [] custody) :
    Accounted capacity [custody.made] { custody with made := custody.made + 1 } where
  capacity := accounted.capacity
  within := accounted.within
  placed := by
    rw [List.range_succ]
    exact (accounted.placed.cons custody.made).trans (List.perm_append_singleton custody.made _).symm
  inOrder := accounted.inOrder

theorem Taken.accounted (accounted : Accounted capacity [] custody) {fresh : α} {after : Custody α}
    (taken : Taken custody fresh after) : Accounted capacity [] after := by
  cases taken with
  | again first rest queue =>
      obtain ⟨fixed, within, placed, inOrder⟩ := accounted
      refine ⟨fixed, ?_, ?_, ?_⟩
      · simp only [Pool.size, queue, List.length_cons] at within ⊢
        omega
      · refine List.Perm.trans ?_ placed
        simp only [numbers, queue, List.map_append, List.map_cons, List.append_assoc, List.cons_append,
          List.nil_append]
        exact List.perm_middle
      · rw [inOrder, queue]
        simp
  | anew queue =>
      have made := accounted.make
      refine ⟨made.capacity, made.within, ?_, made.inOrder⟩
      have placed := made.placed
      simp only [numbers, queue, List.nil_append, List.cons_append, List.map_cons] at placed ⊢
      exact placed

/-- An object on its way is dropped. -/
theorem Accounted.lose {item : Numbered α} (accounted : Accounted capacity [item.number] custody) :
    Accounted capacity [] (custody.lose item) where
  capacity := accounted.capacity
  within := accounted.within
  placed := by
    refine List.Perm.trans ?_ accounted.placed
    simp only [numbers, Custody.lose, List.map_append, List.map_cons, List.nil_append, List.singleton_append]
    exact List.perm_middle
  inOrder := accounted.inOrder

/-- An object on its way is put. -/
theorem Accounted.give {item : Numbered α} (accounted : Accounted capacity [item.number] custody) :
    Accounted capacity [] (custody.give item) := by
  have given := given_give custody item
  generalize custody.give item = after at given
  cases given with
  | kept room =>
      obtain ⟨fixed, within, placed, inOrder⟩ := accounted
      refine ⟨fixed, ?_, ?_, ?_⟩
      · simp only [Pool.size, List.length_append, List.length_singleton] at room ⊢
        omega
      · refine List.Perm.trans ?_ placed
        simp only [numbers, List.map_append, List.map_cons, List.append_assoc, List.singleton_append,
          List.nil_append]
        exact List.perm_middle
      · rw [List.map_append, inOrder, List.append_assoc, List.map_append]
  | dropped full => exact accounted.lose

/-- An object that is held is taken out of its place, on the way to another. -/
theorem Accounted.release (accounted : Accounted capacity [] custody) (number : Nat)
    {next : Custody α → Numbered α → Custody α}
    (arrives : ∀ custody item, Accounted capacity [item.number] custody → Accounted capacity [] (next custody item)) :
    Accounted capacity [] (custody.release number next) := by
  rcases release_cases custody number next with same | ⟨before, item, after, held, -, moved⟩
  · rw [same]
    exact accounted
  · rw [moved]
    refine arrives _ item ⟨accounted.capacity, accounted.within, ?_, accounted.inOrder⟩
    refine List.Perm.trans ?_ accounted.placed
    simp only [numbers, held, List.map_append, List.map_cons, List.append_assoc, List.cons_append,
      List.nil_append]
    refine List.Perm.trans ?_ (List.Perm.append_left _ List.perm_middle.symm)
    exact List.perm_middle.symm

/-- Every use keeps the account. -/
theorem Accounted.use (accounted : Accounted capacity [] custody) (next : Use α) :
    Accounted capacity [] (custody.use next) := by
  cases next with
  | take fresh => exact (taken_use accounted fresh).accounted accounted
  | change number object =>
      have same : (custody.use (.change number object)).numbers = custody.numbers := by
        have each : ∀ item : Numbered α,
            (if item.number = number then ⟨number, object⟩ else item : Numbered α).number = item.number := by
          intro item
          by_cases named : item.number = number
          · rw [if_pos named, named]
          · rw [if_neg named]
        simp [numbers, Custody.use, Function.comp_def, each]
      refine ⟨accounted.capacity, accounted.within, ?_, accounted.inOrder⟩
      rw [same]
      exact accounted.placed
  | put number => exact accounted.release number fun _ _ => Accounted.give
  | bring object =>
      have given : Accounted capacity [] (Custody.give { custody with made := custody.made + 1 }
        ⟨custody.made, object⟩) := Accounted.give accounted.make
      exact given
  | drop number => exact accounted.release number fun _ _ => Accounted.lose

/-- The account is right after any uses in any order. -/
theorem accounted_of_run (capacity : Nat) (uses : List (Use α)) :
    Accounted capacity [] (run capacity uses) := by
  have start : Accounted capacity [] (⟨.new capacity, [], [], 0, [], []⟩ : Custody α) :=
    ⟨rfl, Nat.zero_le _, .refl _, rfl⟩
  unfold run
  generalize (⟨.new capacity, [], [], 0, [], []⟩ : Custody α) = custody at start ⊢
  induction uses generalizing custody with
  | nil => exact start
  | cons next uses ih => exact ih _ (start.use next)

/-- What is held is found by its number, which no other object has. -/
theorem Accounted.put_held (accounted : Accounted capacity [] custody) {before after : List (Numbered α)}
    {item : Numbered α} (held : custody.held = before ++ item :: after) :
    Given { custody with held := before ++ after } item (custody.use (.put item.number)) := by
  have distinct : custody.numbers.Nodup := accounted.placed.nodup_iff.mpr List.nodup_range
  have others : ∀ other ∈ before, (!decide (other.number = item.number)) = true := by
    intro other member
    rw [numbers, held, List.map_append, List.map_append, List.map_append] at distinct
    have inner := (List.nodup_append.mp (List.nodup_append.mp distinct).1).2.1
    have apart := (List.nodup_append.mp inner).2.2 _ (List.mem_map_of_mem member) item.number (by simp)
    simpa using apart
  have found : custody.held.find? (·.number = item.number) = some item :=
    List.find?_eq_some_iff_append.mpr ⟨by simp, before, after, held, others⟩
  have rest : custody.held.eraseP (·.number = item.number) = before ++ after := by
    rw [held, List.eraseP_append_right _ (by simpa using others), List.eraseP_cons_of_pos]
    simp
  show Given _ item (custody.release item.number Custody.give)
  unfold Custody.release
  simp only [found, rest]
  exact given_give _ item

end

end Custody

/-! ## Pools -/

namespace Pool

/-- The pool of the objects alone. -/
def unnumbered (pool : Pool (Numbered α)) : Pool α := ⟨pool.capacity, pool.idle.map (·.object)⟩

theorem unnumbered_put (pool : Pool (Numbered α)) (item : Numbered α) :
    (pool.put item).unnumbered = pool.unnumbered.put item.object := by
  by_cases room : pool.idle.length < pool.capacity
  · simp [put, unnumbered, room]
  · simp [put, unnumbered, room]

theorem unnumbered_get [Reset α] (pool : Pool (Numbered α)) (number : Nat) (fresh : α) :
    pool.unnumbered.get fresh =
      ((pool.get ⟨number, fresh⟩).1.object, (pool.get ⟨number, fresh⟩).2.unnumbered) := by
  cases queue : pool.idle with
  | nil => simp [get, unnumbered, queue, Reset.reset]
  | cons first rest => simp [get, unnumbered, queue, Reset.reset]

/-- **Every object of a pool is in one place.** After any uses of a pool, by anybody and in any order: there
are no more idle objects than its capacity, which is at least one; every object there ever was is idle, held
or gone, and once; the objects that were kept have been handed out again in the order in which they were
kept, or are idle in this order. What comes next hands out the first of them as it is reset, or makes an
object when there is none; and keeps what is put if there is room, and drops it if there is not. The numbers
play no part in it. So a relay buffer is always handed out with all its bytes, and all of them zero. -/
theorem custody :
    (∀ (α : Type) [Reset α] (capacity : Nat) (uses : List (Use α)),
      let now := Custody.run capacity uses
      now.pool.capacity = max capacity 1 ∧ now.pool.size ≤ max capacity 1 ∧
      ((now.pool.idle ++ now.held ++ now.gone).map (·.number)).Perm (List.range now.made) ∧
      now.kept.map Reset.reset = now.reused ++ now.pool.idle.map Reset.reset ∧
      (∀ fresh, now.Taken fresh (now.use (.take fresh))) ∧
      (∀ before item after, now.held = before ++ item :: after →
        { now with held := before ++ after }.Given item (now.use (.put item.number))) ∧
      (∀ object, { now with made := now.made + 1 }.Given ⟨now.made, object⟩ (now.use (.bring object))) ∧
      (∀ item, (now.pool.put item).unnumbered = now.pool.unnumbered.put item.object) ∧
      ∀ fresh number, now.pool.unnumbered.get fresh =
        ((now.pool.get ⟨number, fresh⟩).1.object, (now.pool.get ⟨number, fresh⟩).2.unnumbered)) ∧
    ∀ (capacity : Nat) (uses : List (Use Buffer)) (fresh : Buffer),
      let now := Custody.run capacity uses
      ∃ item, (now.use (.take fresh)).held = item :: now.held ∧ item.object.bytes = List.replicate 32768 0 := by
  constructor
  · intro α _ capacity uses now
    have accounted : Custody.Accounted capacity [] now := Custody.accounted_of_run capacity uses
    refine ⟨accounted.capacity, accounted.capacity ▸ accounted.within, accounted.placed, accounted.inOrder,
      Custody.taken_use accounted, fun _ _ _ => accounted.put_held, fun object => Custody.given_give _ _,
      unnumbered_put now.pool, fun fresh number => unnumbered_get now.pool number fresh⟩
  · intro capacity uses fresh now
    have accounted : Custody.Accounted capacity [] now := Custody.accounted_of_run capacity uses
    have taken := Custody.taken_use accounted fresh
    generalize now.use (.take fresh) = after at taken
    cases taken with
    | again first rest queue => exact ⟨_, rfl, congrArg Buffer.bytes first.object.reset_eq⟩
    | anew queue => exact ⟨_, rfl, congrArg Buffer.bytes fresh.reset_eq⟩

/-- Two buffers are taken and put back, one of them cut down to a byte, into a pool that was asked to keep
none. -/
def crowded : List (Use Buffer) :=
  [.take .zeroed, .take .zeroed, .change 0 ⟨[7]⟩, .put 0, .put 1]

/-- The pool keeps the first and drops the second; the first is handed out again, whole. -/
theorem custody_crowded :
    let now := Custody.run 0 crowded
    now.pool.idle = [⟨0, ⟨[7]⟩⟩] ∧ now.gone.map (·.number) = [1] ∧
      ∃ item, (now.use (.take .zeroed)).held = [item] ∧ item.number = 0 ∧
        item.object.bytes = List.replicate 32768 0 := by
  intro now
  have idle : now.pool.idle = [⟨0, ⟨[7]⟩⟩] := rfl
  obtain ⟨item, held, whole⟩ := custody.2 0 crowded .zeroed
  have number : ((now.use (.take .zeroed)).held.map (·.number)) = [0] := rfl
  refine ⟨idle, rfl, item, held, ?_, whole⟩
  rw [show (now.use (.take .zeroed)).held = [item] from held] at number
  exact List.head_eq_of_cons_eq number

end Pool

end Interceptor

/-
# Interceptor.Strand.Walk — a strand step by step

`Yields` says which marks a strand may leave. `Walks` says which steps it may do:
each with the state it started from and the state it left. What one step does to
the state can then be told beside what the steps around it do, while others may
do anything in between.

`walks_bind`: a sequence does the steps of its first part, and then those of the
second; `walks_run`: a strand that runs on its own does one of its walks.
-/
import Interceptor.Strand

namespace Interceptor

set_option autoImplicit false

/-- A step that has been done: the state it started from, its marks, the state after it. -/
structure Stride (ε s : Type) where
  before : s
  marks : List ε
  after : s

namespace Strand

variable {ε s α β : Type}

/-- The step that `action` does from a state. -/
def stride (action : StateM s α) (marks : α → List ε) (before : s) : Stride ε s where
  before
  marks := marks (action.run before).1
  after := (action.run before).2

/-- The strand may do these steps and give this value. The state is any state at the beginning of
each step: others may have changed it. -/
def Walks : Strand ε s α → List (Stride ε s) → α → Prop
  | .done value, strides, result => strides = [] ∧ result = value
  | .step act marks next, strides, result =>
      ∃ before rest, strides = stride act marks before :: rest ∧
        (next (act.run before).1).Walks rest result

/-- The steps that `run` does. -/
def strides : Strand ε s α → s → List (Stride ε s)
  | .done _, _ => []
  | .step act marks next, state =>
      stride act marks state :: (next (act.run state).1).strides (act.run state).2

@[simp] theorem walks_done {value result : α} {strides : List (Stride ε s)} :
    (Strand.done value : Strand ε s α).Walks strides result ↔ strides = [] ∧ result = value :=
  Iff.rfl

theorem walks_act {action : StateM s α} {marks : α → List ε} {strides : List (Stride ε s)}
    {result : α} :
    (act action marks).Walks strides result ↔
      ∃ before, strides = [stride action marks before] ∧ result = (action.run before).1 := by
  simp only [act, Walks]
  constructor
  · rintro ⟨before, rest, rfl, rfl, rfl⟩
    exact ⟨before, rfl, rfl⟩
  · rintro ⟨before, rfl, rfl⟩
    exact ⟨before, [], rfl, rfl, rfl⟩

/-- A sequence does the steps of its first part, and then those of the second. -/
theorem walks_bind {t : Strand ε s α} {f : α → Strand ε s β} {strides : List (Stride ε s)}
    {result : β} :
    (t >>= f).Walks strides result ↔
      ∃ first value later, strides = first ++ later ∧ t.Walks first value ∧
        (f value).Walks later result := by
  induction t generalizing strides with
  | done value =>
      constructor
      · exact fun h => ⟨[], value, strides, rfl, ⟨rfl, rfl⟩, h⟩
      · rintro ⟨first, value, later, rfl, ⟨rfl, rfl⟩, h⟩
        exact h
  | step action marks next ih =>
      simp only [step_bind, Walks, ih]
      constructor
      · rintro ⟨before, rest, rfl, first, value, later, rfl, ht, hf⟩
        exact ⟨_ :: first, value, later, rfl, ⟨before, first, rfl, ht⟩, hf⟩
      · rintro ⟨first, value, later, rfl, ⟨before, rest, rfl, ht⟩, hf⟩
        exact ⟨before, rest ++ later, rfl, rest, value, later, rfl, ht, hf⟩

/-- Running a strand on its own is one of its walks. -/
theorem walks_run (t : Strand ε s α) (state : s) : t.Walks (t.strides state) (t.run state).1 := by
  induction t generalizing state with
  | done value => exact ⟨rfl, rfl⟩
  | step action marks next ih => exact ⟨state, _, rfl, ih _ _⟩

end Strand

end Interceptor

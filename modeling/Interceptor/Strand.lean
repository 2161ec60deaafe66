/-
# Interceptor.Strand — computations in atomic steps on a shared state

Everything that goes on in a proxy goes on at the same time as other things, on
one state. A `Strand` is a computation that does one atomic step after another
on a state `s`; between two of its steps, other strands may do theirs. Each
step leaves marks of type `ε` that say what happened.

* `run` does all steps of a strand one after another, with nobody in between,
  and `trace` gives the marks this leaves;
* `Yields` says which marks a strand may leave, and which value it may give,
  whatever others do to the state between its steps; what `run` gives is one
  case of it (`yields_run`);
* `YieldsUnder` says the same where others keep a property of the state;
* `Reaches` says the same of a strand that is still on its way;
* `Upholds` is what a strand guarantees of each of its steps, and of its value,
  as long as it may rely on a property of the state that each step starts from;
* `UpholdsAfter` is what it guarantees of each step in view of the marks that it has
  left before.

Each of them has a rule for one step and a rule for `bind`, so that what a
computation does is read off its text.
-/

namespace Interceptor

set_option autoImplicit false

/-- A computation in atomic steps on a shared state `s`. -/
inductive Strand (ε s α : Type) : Type 1
  | done (value : α)
  /-- Does `act` at once, leaves the marks of what it gave, and goes on with it. -/
  | step {β : Type} (act : StateM s β) (marks : β → List ε) (next : β → Strand ε s α)

namespace Strand

variable {ε s α β : Type}

protected def bind : Strand ε s α → (α → Strand ε s β) → Strand ε s β
  | .done value, f => f value
  | .step act marks next, f => .step act marks fun given => (next given).bind f

instance : Monad (Strand ε s) where
  pure := .done
  bind := Strand.bind

/-- One step, with its marks. -/
def act (action : StateM s α) (marks : α → List ε) : Strand ε s α := .step action marks .done

/-- One step that leaves no mark. -/
def quietly (action : StateM s α) : Strand ε s α := act action fun _ => []

/-- One step that only leaves a mark. -/
def mark (sign : ε) : Strand ε s Unit := act (pure ()) fun _ => [sign]

instance : MonadStateOf s (Strand ε s) where
  get := quietly get
  set state := quietly (set state)
  modifyGet change := quietly (modifyGet change)

/-- Does all steps, one after another. -/
def run : Strand ε s α → s → α × s
  | .done value, state => (value, state)
  | .step act _ next, state =>
      let outcome := act.run state
      (next outcome.1).run outcome.2

instance : CoeFun (Strand ε s α) fun _ => s → α × s := ⟨run⟩

/-- The marks that `run` leaves. -/
def trace : Strand ε s α → s → List ε
  | .done _, _ => []
  | .step act marks next, state =>
      let outcome := act.run state
      marks outcome.1 ++ (next outcome.1).trace outcome.2

/-- The strand may leave these marks and give this value. The state is any state at the
beginning of each step: others may have changed it. -/
def Yields : Strand ε s α → List ε → α → Prop
  | .done value, seen, result => seen = [] ∧ result = value
  | .step act marks next, seen, result =>
      ∃ state rest, seen = marks (act.run state).1 ++ rest ∧
        (next (act.run state).1).Yields rest result

/-- The strand may do so while others keep `rely`: each step starts from a state that has it. -/
def YieldsUnder (rely : s → Prop) : Strand ε s α → List ε → α → Prop
  | .done value, seen, result => seen = [] ∧ result = value
  | .step act marks next, seen, result =>
      ∃ state rest, rely state ∧ seen = marks (act.run state).1 ++ rest ∧
        (next (act.run state).1).YieldsUnder rely rest result

/-- After these marks, the strand may have `rest` still to do. -/
def Reaches : Strand ε s α → List ε → Strand ε s α → Prop
  | .done value, seen, rest => seen = [] ∧ rest = .done value
  | .step act marks next, seen, rest =>
      (seen = [] ∧ rest = .step act marks next) ∨
        ∃ state later, seen = marks (act.run state).1 ++ later ∧
          (next (act.run state).1).Reaches later rest

/-- Every step that starts from a state with `rely` gives `guarantee`, of the state before it,
its marks and the state after it; the value satisfies `goal`. -/
def Upholds (rely : s → Prop) (guarantee : s → List ε → s → Prop) (goal : α → Prop) :
    Strand ε s α → Prop
  | .done value => goal value
  | .step act marks next => ∀ state, rely state →
      guarantee state (marks (act.run state).1) (act.run state).2 ∧
        (next (act.run state).1).Upholds rely guarantee goal

/-- Every step gives `guarantee`, of all marks that were left before it, the state before it, its
marks and the state after it. -/
def UpholdsAfter (guarantee : List ε → s → List ε → s → Prop) : List ε → Strand ε s α → Prop
  | _, .done _ => True
  | past, .step act marks next => ∀ state,
      guarantee past state (marks (act.run state).1) (act.run state).2 ∧
        (next (act.run state).1).UpholdsAfter guarantee (past ++ marks (act.run state).1)

/-! ## One step after another -/

@[simp] theorem pure_eq_done (value : α) : (pure value : Strand ε s α) = .done value := rfl

@[simp] theorem done_bind (value : α) (f : α → Strand ε s β) :
    (Strand.done value : Strand ε s α) >>= f = f value := rfl

@[simp] theorem step_bind {γ : Type} (action : StateM s γ) (marks : γ → List ε)
    (next : γ → Strand ε s α) (f : α → Strand ε s β) :
    Strand.step action marks next >>= f = .step action marks fun given => next given >>= f := rfl

theorem bind_done (t : Strand ε s α) : t >>= .done = t := by
  induction t with
  | done value => rfl
  | step action marks next ih =>
      rw [step_bind]
      congr 1
      funext given
      exact ih given

protected theorem bind_assoc {γ : Type} (t : Strand ε s α) (f : α → Strand ε s β)
    (g : β → Strand ε s γ) : t >>= f >>= g = t >>= fun value => f value >>= g := by
  induction t with
  | done value => rfl
  | step action marks next ih =>
      simp only [step_bind]
      congr 1
      funext given
      exact ih given

instance : LawfulMonad (Strand ε s) :=
  LawfulMonad.mk' _ bind_done (fun _ _ => rfl) Strand.bind_assoc

theorem run_bind (t : Strand ε s α) (f : α → Strand ε s β) (state : s) :
    (t >>= f).run state = (f (t.run state).1).run (t.run state).2 := by
  induction t generalizing state with
  | done value => rfl
  | step action marks next ih => exact ih _ _

theorem trace_bind (t : Strand ε s α) (f : α → Strand ε s β) (state : s) :
    (t >>= f).trace state = t.trace state ++ (f (t.run state).1).trace (t.run state).2 := by
  induction t generalizing state with
  | done value => rfl
  | step action marks next ih => simp only [step_bind, trace, run, ih, List.append_assoc]

/-! ## What a strand may leave -/

section Under

variable {rely : s → Prop}

@[simp] theorem yieldsUnder_done {value result : α} {seen : List ε} :
    (Strand.done value : Strand ε s α).YieldsUnder rely seen result ↔ seen = [] ∧ result = value :=
  Iff.rfl

theorem yieldsUnder_act {action : StateM s α} {marks : α → List ε} {seen : List ε} {result : α} :
    (act action marks).YieldsUnder rely seen result ↔
      ∃ state, rely state ∧ result = (action.run state).1 ∧ seen = marks result := by
  simp only [act, YieldsUnder]
  constructor
  · rintro ⟨state, rest, relied, rfl, rfl, rfl⟩
    exact ⟨state, relied, rfl, List.append_nil _⟩
  · rintro ⟨state, relied, rfl, rfl⟩
    exact ⟨state, [], relied, (List.append_nil _).symm, rfl, rfl⟩

/-- What a sequence may leave is what its first part leaves and then what the second does. -/
theorem yieldsUnder_bind {t : Strand ε s α} {f : α → Strand ε s β} {seen : List ε} {result : β} :
    (t >>= f).YieldsUnder rely seen result ↔
      ∃ first value later, seen = first ++ later ∧ t.YieldsUnder rely first value ∧
        (f value).YieldsUnder rely later result := by
  induction t generalizing seen with
  | done value =>
      constructor
      · exact fun h => ⟨[], value, seen, rfl, ⟨rfl, rfl⟩, h⟩
      · rintro ⟨first, value, later, rfl, ⟨rfl, rfl⟩, h⟩
        exact h
  | step action marks next ih =>
      simp only [step_bind, YieldsUnder, ih]
      constructor
      · rintro ⟨state, rest, relied, rfl, first, value, later, rfl, ht, hf⟩
        exact ⟨_, value, later, (List.append_assoc ..).symm, ⟨state, first, relied, rfl, ht⟩, hf⟩
      · rintro ⟨first, value, later, rfl, ⟨state, rest, relied, rfl, ht⟩, hf⟩
        exact ⟨state, rest ++ later, relied, List.append_assoc .., rest, value, later, rfl, ht, hf⟩

/-- With nothing to keep, others may do anything. -/
theorem yieldsUnder_true {t : Strand ε s α} {seen : List ε} {result : α} :
    t.YieldsUnder (fun _ => True) seen result ↔ t.Yields seen result := by
  induction t generalizing seen with
  | done value => exact Iff.rfl
  | step action marks next ih => simp only [YieldsUnder, Yields, ih, true_and]

theorem YieldsUnder.yields {t : Strand ε s α} {seen : List ε} {result : α}
    (course : t.YieldsUnder rely seen result) : t.Yields seen result := by
  induction t generalizing seen with
  | done value => exact course
  | step action marks next ih =>
      obtain ⟨state, rest, -, rfl, course⟩ := course
      exact ⟨state, rest, rfl, ih _ course⟩

end Under

@[simp] theorem yields_done {value result : α} {seen : List ε} :
    (Strand.done value : Strand ε s α).Yields seen result ↔ seen = [] ∧ result = value := Iff.rfl

@[simp] theorem yields_act {action : StateM s α} {marks : α → List ε} {seen : List ε}
    {result : α} :
    (act action marks).Yields seen result ↔
      ∃ state, result = (action.run state).1 ∧ seen = marks result := by
  simp only [← yieldsUnder_true, yieldsUnder_act, true_and]

/-- What a sequence may leave is what its first part leaves and then what the second does. -/
theorem yields_bind {t : Strand ε s α} {f : α → Strand ε s β} {seen : List ε} {result : β} :
    (t >>= f).Yields seen result ↔
      ∃ first value later, seen = first ++ later ∧ t.Yields first value ∧
        (f value).Yields later result := by
  simp only [← yieldsUnder_true, yieldsUnder_bind]

/-- Running a strand on its own is one of the courses it may take. -/
theorem yields_run (t : Strand ε s α) (state : s) : t.Yields (t.trace state) (t.run state).1 := by
  induction t generalizing state with
  | done value => exact ⟨rfl, rfl⟩
  | step action marks next ih => exact ⟨state, _, rfl, ih _ _⟩

/-! ## Strands on their way -/

theorem reaches_refl (t : Strand ε s α) : t.Reaches [] t := by
  cases t with
  | done value => exact ⟨rfl, rfl⟩
  | step action marks next => exact .inl ⟨rfl, rfl⟩

/-- A strand on its way may do its next step from any state. -/
theorem Reaches.advance {t : Strand ε s α} {seen : List ε} {γ : Type} {action : StateM s γ}
    {marks : γ → List ε} {next : γ → Strand ε s α} (way : t.Reaches seen (.step action marks next))
    (state : s) :
    t.Reaches (seen ++ marks (action.run state).1) (next (action.run state).1) := by
  induction t generalizing seen with
  | done value => exact nomatch way.2
  | step first firstMarks others ih =>
      rcases way with ⟨rfl, same⟩ | ⟨before, later, rfl, way⟩
      · cases same
        exact .inr ⟨state, [], by simp, reaches_refl _⟩
      · exact .inr ⟨before, _, List.append_assoc .., ih _ way⟩

/-- What a strand on its way may still leave completes what it has left. -/
theorem Reaches.yields {t rest : Strand ε s α} {seen later : List ε} {result : α}
    (way : t.Reaches seen rest) (ends : rest.Yields later result) :
    t.Yields (seen ++ later) result := by
  induction t generalizing seen with
  | done value =>
      obtain ⟨rfl, rfl⟩ := way
      exact ends
  | step action marks next ih =>
      rcases way with ⟨rfl, rfl⟩ | ⟨state, middle, rfl, way⟩
      · exact ends
      · exact ⟨state, _, List.append_assoc .., ih _ way⟩

/-! ## What a strand guarantees -/

section Guarantee

variable {rely : s → Prop} {guarantee : s → List ε → s → Prop}

@[simp] theorem upholds_done {goal : α → Prop} {value : α} :
    (Strand.done value : Strand ε s α).Upholds rely guarantee goal ↔ goal value := Iff.rfl

theorem Upholds.bind {between : α → Prop} {goal : β → Prop} {t : Strand ε s α}
    {f : α → Strand ε s β} (first : t.Upholds rely guarantee between)
    (later : ∀ value, between value → (f value).Upholds rely guarantee goal) :
    (t >>= f).Upholds rely guarantee goal := by
  induction t with
  | done value => exact later value first
  | step action marks next ih =>
      exact fun state holds => ⟨(first state holds).1, ih _ (first state holds).2⟩

theorem Upholds.mono {guarantee' : s → List ε → s → Prop} {goal goal' : α → Prop}
    {t : Strand ε s α} (h : t.Upholds rely guarantee goal)
    (weaker : ∀ before marks after, guarantee before marks after → guarantee' before marks after)
    (result : ∀ value, goal value → goal' value) : t.Upholds rely guarantee' goal' := by
  induction t with
  | done value => exact result value h
  | step action marks next ih =>
      exact fun state holds => ⟨weaker _ _ _ (h state holds).1, ih _ (h state holds).2⟩

/-- What a strand guarantees whatever the state, it guarantees of states that have a property, with
what follows from it there. -/
theorem Upholds.under {rely' : s → Prop} {guarantee' : s → List ε → s → Prop} {goal : α → Prop}
    {t : Strand ε s α} (h : t.Upholds (fun _ => True) guarantee goal)
    (gives : ∀ before marks after, rely' before → guarantee before marks after →
      guarantee' before marks after) : t.Upholds rely' guarantee' goal := by
  induction t with
  | done value => exact h
  | step action marks next ih =>
      exact fun state holds => ⟨gives _ _ _ holds (h state trivial).1, ih _ (h state trivial).2⟩

/-- Running a strand on its own is one of the courses it may take while others keep what it keeps
itself. -/
theorem Upholds.yieldsUnder_run {goal : α → Prop} {t : Strand ε s α}
    (keeps : t.Upholds rely (fun _ _ after => rely after) goal) {state : s} (relied : rely state) :
    t.YieldsUnder rely (t.trace state) (t.run state).1 := by
  induction t generalizing state with
  | done value => exact ⟨rfl, rfl⟩
  | step action marks next ih =>
      obtain ⟨kept, later⟩ := keeps state relied
      exact ⟨state, _, relied, rfl, ih _ later kept⟩

/-- What a strand guarantees of the marks of each step, whatever the state, holds of all marks it
may leave. -/
theorem Upholds.yields {goal : α → Prop} {P : ε → Prop} {t : Strand ε s α}
    (h : t.Upholds (fun _ => True) (fun _ marks _ => ∀ o ∈ marks, P o) goal) {seen : List ε}
    {result : α} (course : t.Yields seen result) : (∀ o ∈ seen, P o) ∧ goal result := by
  induction t generalizing seen with
  | done value =>
      obtain ⟨rfl, rfl⟩ := course
      exact ⟨fun o member => absurd member List.not_mem_nil, h⟩
  | step action marks next ih =>
      obtain ⟨state, rest, rfl, course⟩ := course
      obtain ⟨first, later⟩ := h state trivial
      obtain ⟨others, reached⟩ := ih _ later course
      refine ⟨fun o member => ?_, reached⟩
      rcases List.mem_append.mp member with member | member
      · exact first o member
      · exact others o member

/-- What follows a strand comes after the marks of a course it may have taken. -/
theorem UpholdsAfter.bind {guarantee : List ε → s → List ε → s → Prop} {past : List ε}
    {t : Strand ε s α} {f : α → Strand ε s β} (first : t.UpholdsAfter guarantee past)
    (later : ∀ seen value, t.Yields seen value → (f value).UpholdsAfter guarantee (past ++ seen)) :
    (t >>= f).UpholdsAfter guarantee past := by
  induction t generalizing past with
  | done value => exact List.append_nil past ▸ later [] value ⟨rfl, rfl⟩
  | step action marks next ih =>
      refine fun state => ⟨(first state).1, ih _ (first state).2 fun seen value course => ?_⟩
      rw [List.append_assoc]
      exact later _ value ⟨state, seen, rfl, course⟩

/-- What a strand guarantees whatever the state and the past. -/
theorem Upholds.after {guarantee' : List ε → s → List ε → s → Prop} {goal : α → Prop}
    {t : Strand ε s α} (h : t.Upholds (fun _ => True) guarantee goal)
    (gives : ∀ past before marks after, guarantee before marks after →
      guarantee' past before marks after) (past : List ε) : t.UpholdsAfter guarantee' past := by
  induction t generalizing past with
  | done value => trivial
  | step action marks next ih =>
      exact fun state => ⟨gives _ _ _ _ (h state trivial).1, ih _ (h state trivial).2 _⟩

end Guarantee

end Strand

end Interceptor

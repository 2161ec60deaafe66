/-
# Interceptor.Strand.Steady — strands that the state does not matter to

A strand is `Steady` when no step of it gives a different value from a different
state. It may still use the state and change it; but which marks it leaves and
what it does next are the same wherever it runs, and with whatever others do in
between. Then there is one course it may take, the one it takes alone
(`Steady.yields`), and on its way it has left the beginning of that course
(`Steady.reaches`).

A strand may be steady only on some ways. `P` is a property of marks: what comes
after a mark without it need not be steady.
-/
import Interceptor.Strand

namespace Interceptor.Strand

set_option autoImplicit false

variable {ε s α β : Type}

/-- As long as the marks have `P`, each step gives the same value from every state; the value of the
strand satisfies `goal`. -/
def Steady (P : ε → Prop) (goal : α → Prop) : Strand ε s α → Prop
  | .done value => goal value
  | .step act marks next =>
      (∀ state state', (act.run state).1 = (act.run state').1) ∧
        ∀ state, (∀ o ∈ marks (act.run state).1, P o) →
          (next (act.run state).1).Steady P goal

variable {P : ε → Prop} {goal : α → Prop}

@[simp] theorem steady_done {value : α} :
    (Strand.done value : Strand ε s α).Steady P goal ↔ goal value := Iff.rfl

theorem Steady.bind {between : α → Prop} {goal : β → Prop} {t : Strand ε s α}
    {f : α → Strand ε s β} (first : t.Steady P between)
    (later : ∀ value, between value → (f value).Steady P goal) : (t >>= f).Steady P goal := by
  induction t with
  | done value => exact later value first
  | step action marks next ih =>
      exact ⟨first.1, fun state allowed => ih _ (first.2 state allowed)⟩

theorem Steady.mono {goal' : α → Prop} {t : Strand ε s α} (steady : t.Steady P goal)
    (weaker : ∀ value, goal value → goal' value) : t.Steady P goal' := by
  induction t with
  | done value => exact weaker value steady
  | step action marks next ih =>
      exact ⟨steady.1, fun state allowed => ih _ (steady.2 state allowed)⟩

/-- There is one course a steady strand may take: the one it takes alone, from any state. -/
theorem Steady.yields {t : Strand ε s α} (steady : t.Steady P goal) {state : s}
    (allowed : ∀ o ∈ t.trace state, P o) {seen : List ε} {result : α} (course : t.Yields seen result) :
    seen = t.trace state := by
  induction t generalizing state seen with
  | done value => exact course.1
  | step action marks next ih =>
      obtain ⟨other, rest, rfl, course⟩ := course
      rw [steady.1 other state] at course ⊢
      simp only [trace] at allowed ⊢
      have here : ∀ o ∈ marks (action.run state).1, P o :=
        fun o member => allowed o (List.mem_append_left _ member)
      rw [ih _ (steady.2 state here) (fun o member => allowed o (List.mem_append_right _ member))
        course]

/-- On its way, it has left the beginning of that course, and will leave the rest of it. -/
theorem Steady.reaches {t rest : Strand ε s α} (steady : t.Steady P goal) {state : s}
    (allowed : ∀ o ∈ t.trace state, P o) {seen : List ε} (way : t.Reaches seen rest) (now : s) :
    seen ++ rest.trace now = t.trace state :=
  steady.yields allowed (way.yields (yields_run rest now))

end Interceptor.Strand

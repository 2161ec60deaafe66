/-
# Interceptor.Strand.Weave — strands that share a state

A `Weave` is a state and the strands at work on it. Whoever schedules them makes
moves: `start` adds a strand, `advance` lets the strand at one place do its next
step. Any list of moves is a schedule, so what holds after all of them holds in
whatever order the strands do their steps.

* `run_induction`: what holds at the start and is kept by both moves holds after
  every run; `threads_of_run` is the case of one property of the state and one of
  every thread;
* `reaches_of_run`: each thread is on a course its program may take;
* `upholds_of_run`: a property of the state that every program keeps, when it may
  rely on it, holds throughout, and so do the goals of the strands that ended;
* `yieldsUnder_of_run`: a thread is then on its course under that property;
* `accounts_of_run`: what every step keeps of the state and of the marks that were
  left so far holds after every run, where a strand answers for each of its steps by
  what it has left itself; `history_of_run` is the case of steps that need not;
* `state_of_move`: one more move after a run is a step that some strand answers for;
* `ended_of_fair`: under a schedule that comes back to it again and again, a strand
  ends.
-/
import Interceptor.Strand

namespace Interceptor

set_option autoImplicit false

/-- A strand at work: what it was started for, the marks it has left, what it has still to do. -/
structure Thread (ι ε s α : Type) where
  origin : ι
  seen : List ε
  rest : Strand ε s α

namespace Thread

variable {ι ε s α : Type}

/-- What the strand gave, when nothing is left to do. -/
def value? (thread : Thread ι ε s α) : Option α :=
  match thread.rest with
  | .done value => some value
  | .step .. => none

/-- Nothing is left to do. -/
def Ended (thread : Thread ι ε s α) : Prop := thread.value?.isSome

/-- Does the next step, if there is one. -/
def advance (thread : Thread ι ε s α) (state : s) : Thread ι ε s α × s :=
  match thread.rest with
  | .done _ => (thread, state)
  | .step act marks next =>
      let outcome := act.run state
      (⟨thread.origin, thread.seen ++ marks outcome.1, next outcome.1⟩, outcome.2)

theorem rest_of_value? {thread : Thread ι ε s α} {value : α} (ended : thread.value? = some value) :
    thread.rest = .done value := by
  obtain ⟨origin, seen, rest⟩ := thread
  cases rest with
  | done given => exact congrArg _ (Option.some.inj ended)
  | step act marks next => exact nomatch ended

/-- What a strand vouches for, once it has ended. -/
theorem goal_of_value? {rely : s → Prop} {guarantee : s → List ε → s → Prop} {goal : α → Prop}
    {thread : Thread ι ε s α} (holds : thread.rest.Upholds rely guarantee goal) {value : α}
    (ended : thread.value? = some value) : goal value := by
  rw [rest_of_value? ended] at holds
  exact holds

@[simp] theorem advance_origin (thread : Thread ι ε s α) (state : s) :
    (thread.advance state).1.origin = thread.origin := by
  unfold advance
  split <;> rfl

theorem reaches_advance {start : Strand ε s α} {thread : Thread ι ε s α}
    (way : start.Reaches thread.seen thread.rest) (state : s) :
    start.Reaches (thread.advance state).1.seen (thread.advance state).1.rest := by
  obtain ⟨origin, seen, rest⟩ := thread
  cases rest with
  | done value => exact way
  | step act marks next => exact way.advance state

theorem upholds_advance {rely : s → Prop} {guarantee : s → List ε → s → Prop} {goal : α → Prop}
    {thread : Thread ι ε s α} (holds : thread.rest.Upholds rely guarantee goal) {state : s}
    (relied : rely state) : (thread.advance state).1.rest.Upholds rely guarantee goal := by
  obtain ⟨origin, seen, rest⟩ := thread
  cases rest with
  | done value => exact holds
  | step act marks next => exact (holds state relied).2

/-- What the rest may leave after an advance, and what the advance leaves, is what it may leave. -/
theorem completes_advance {rely : s → Prop} {start : Strand ε s α} {thread : Thread ι ε s α}
    (completes : ∀ later result, thread.rest.YieldsUnder rely later result →
      start.YieldsUnder rely (thread.seen ++ later) result) {state : s} (relied : rely state)
    (later : List ε) (result : α)
    (course : (thread.advance state).1.rest.YieldsUnder rely later result) :
    start.YieldsUnder rely ((thread.advance state).1.seen ++ later) result := by
  obtain ⟨origin, seen, rest⟩ := thread
  cases rest with
  | done value => exact completes later result course
  | step act marks next =>
      rw [advance, List.append_assoc]
      exact completes _ result ⟨state, later, relied, rfl, course⟩

/-- An advance either does nothing, because the strand has ended, or one step that the strand
vouches for. -/
theorem advance_guarantees {rely : s → Prop} {guarantee : s → List ε → s → Prop}
    {goal : α → Prop} {thread : Thread ι ε s α}
    (holds : thread.rest.Upholds rely guarantee goal) {state : s} (relied : rely state) :
    thread.advance state = (thread, state) ∨
      ∃ marks, (thread.advance state).1.seen = thread.seen ++ marks ∧
        guarantee state marks (thread.advance state).2 := by
  obtain ⟨origin, seen, rest⟩ := thread
  cases rest with
  | done value => exact .inl rfl
  | step act marks next => exact .inr ⟨_, rfl, (holds state relied).1⟩

/-- An advance keeps what the strand keeps. -/
theorem relied_advance {rely : s → Prop} {goal : α → Prop} {thread : Thread ι ε s α}
    (holds : thread.rest.Upholds rely (fun _ _ after => rely after) goal) {state : s}
    (relied : rely state) : rely (thread.advance state).2 := by
  rcases thread.advance_guarantees holds relied with same | ⟨_, -, kept⟩
  · rw [same]
    exact relied
  · exact kept

theorem upholdsAfter_advance {guarantee : List ε → s → List ε → s → Prop}
    {thread : Thread ι ε s α} (holds : thread.rest.UpholdsAfter guarantee thread.seen) (state : s) :
    (thread.advance state).1.rest.UpholdsAfter guarantee (thread.advance state).1.seen := by
  obtain ⟨origin, seen, rest⟩ := thread
  cases rest with
  | done value => exact holds
  | step act marks next => exact (holds state).2

/-- The same of a step that the strand vouches for in view of what it has left. -/
theorem advance_guarantees_after {guarantee : List ε → s → List ε → s → Prop}
    {thread : Thread ι ε s α} (holds : thread.rest.UpholdsAfter guarantee thread.seen) (state : s) :
    thread.advance state = (thread, state) ∨
      ∃ marks, (thread.advance state).1.seen = thread.seen ++ marks ∧
        guarantee thread.seen state marks (thread.advance state).2 := by
  obtain ⟨origin, seen, rest⟩ := thread
  cases rest with
  | done value => exact .inl rfl
  | step act marks next => exact .inr ⟨_, rfl, (holds state).1⟩

end Thread

/-- What a scheduler may do: start a strand, or let the one at a place do its next step. -/
inductive Move (ι : Type)
  | start (origin : ι)
  | advance (place : Nat)
  deriving DecidableEq

/-- Strands at work on one state. -/
structure Weave (ι ε s α : Type) where
  state : s
  threads : List (Thread ι ε s α)

namespace Weave

variable {ι ε s α : Type} (program : ι → Strand ε s α)

/-- Makes one move. An advance at a place where no strand is does nothing. -/
def move (w : Weave ι ε s α) : Move ι → Weave ι ε s α
  | .start origin => { w with threads := w.threads ++ [⟨origin, [], program origin⟩] }
  | .advance place =>
      match w.threads[place]? with
      | none => w
      | some thread =>
          let outcome := thread.advance w.state
          ⟨outcome.2, w.threads.set place outcome.1⟩

/-- Makes moves, with no strand at work at the beginning. -/
def run (state : s) (moves : List (Move ι)) : Weave ι ε s α :=
  moves.foldl (move program) ⟨state, []⟩

theorem run_concat (state : s) (moves : List (Move ι)) (last : Move ι) :
    run program state (moves ++ [last]) = (run program state moves).move program last := by
  simp [run, List.foldl_append]

/-- An advance changes nothing, or the state and the thread at one place. -/
theorem advance_cases (w : Weave ι ε s α) (place : Nat) :
    w.move program (.advance place) = w ∨
      ∃ before thread after, w.threads = before ++ thread :: after ∧ before.length = place ∧
        w.move program (.advance place) =
          ⟨(thread.advance w.state).2, before ++ (thread.advance w.state).1 :: after⟩ := by
  cases found : w.threads[place]? with
  | none => exact .inl (by simp only [move, found])
  | some thread =>
      obtain ⟨inside, rfl⟩ := List.getElem?_eq_some_iff.mp found
      refine .inr ⟨w.threads.take place, w.threads[place], w.threads.drop (place + 1), ?_, ?_, ?_⟩
      · rw [List.getElem_cons_drop, List.take_append_drop]
      · exact List.length_take_of_le (Nat.le_of_lt inside)
      · simp only [move, found, List.set_eq_take_append_cons_drop, if_pos inside]

/-- What holds at the start and is kept by both kinds of move holds after every run. -/
theorem run_induction {P : Weave ι ε s α → Prop} {state : s} {moves : List (Move ι)}
    (empty : P ⟨state, []⟩)
    (start : ∀ w origin, .start origin ∈ moves → P w → P (w.move program (.start origin)))
    (advance : ∀ (w : Weave ι ε s α) before thread after,
      w.threads = before ++ thread :: after → P w →
        P ⟨(thread.advance w.state).2, before ++ (thread.advance w.state).1 :: after⟩) :
    P (run program state moves) := by
  have step : ∀ w move, move ∈ moves → P w → P (w.move program move) := by
    intro w move member holds
    cases move with
    | start origin => exact start w origin member holds
    | advance place =>
        rcases advance_cases program w place with same | ⟨before, thread, after, parts, -, moved⟩
        · rw [same]
          exact holds
        · rw [moved]
          exact advance w before thread after parts holds
  -- the moves are taken from the front, so the weave they start from is any
  clear start advance
  unfold run
  generalize (⟨state, []⟩ : Weave ι ε s α) = w at empty ⊢
  induction moves generalizing w with
  | nil => exact empty
  | cons move moves ih =>
      exact ih (fun w m member => step w m (List.mem_cons_of_mem _ member)) _
        (step w move (List.mem_cons_self ..) empty)

/-- A property of the state and one of the threads hold after every run, when every thread starts
with its own and an advance keeps both. -/
theorem threads_of_run {R : s → Prop} {P : Thread ι ε s α → Prop} {state : s}
    {moves : List (Move ι)} (relied : R state)
    (start : ∀ origin, .start origin ∈ moves → P ⟨origin, [], program origin⟩)
    (advance : ∀ thread state, P thread → R state →
      P (thread.advance state).1 ∧ R (thread.advance state).2) :
    R (run program state moves).state ∧
      ∀ thread ∈ (run program state moves).threads, P thread := by
  refine run_induction program
    (P := fun w => R w.state ∧ ∀ thread ∈ w.threads, P thread) ⟨relied, by simp⟩ ?_ ?_
  · rintro w origin started ⟨relied, good⟩
    refine ⟨relied, fun thread member => ?_⟩
    simp only [move, List.mem_append, List.mem_singleton] at member
    rcases member with member | rfl
    · exact good thread member
    · exact start origin started
  · rintro w before thread after parts ⟨relied, good⟩
    rw [parts] at good
    obtain ⟨next, relied'⟩ := advance thread w.state (good thread (by simp)) relied
    refine ⟨relied', fun other member => ?_⟩
    simp only [List.mem_append, List.mem_cons] at member
    rcases member with member | rfl | member
    · exact good other (by simp [member])
    · exact next
    · exact good other (by simp [member])

/-- Every thread is on a course its program may take. -/
theorem reaches_of_run {state : s} {moves : List (Move ι)} :
    ∀ thread ∈ (run program state moves).threads,
      (program thread.origin).Reaches thread.seen thread.rest := by
  refine (threads_of_run program (R := fun _ => True)
    (P := fun thread => (program thread.origin).Reaches thread.seen thread.rest) trivial
    (fun origin _ => Strand.reaches_refl _) fun thread state way _ => ⟨?_, trivial⟩).2
  rw [Thread.advance_origin]
  exact Thread.reaches_advance way state

/-- A property of the state that every strand keeps when it may rely on it holds throughout, and
the strands' goals hold of what they give. -/
theorem upholds_of_run {rely : s → Prop} {goal : ι → α → Prop} {state : s}
    {moves : List (Move ι)} (relied : rely state)
    (keeps : ∀ origin, .start origin ∈ moves →
      (program origin).Upholds rely (fun _ _ after => rely after) (goal origin)) :
    rely (run program state moves).state ∧
      ∀ thread ∈ (run program state moves).threads,
        thread.rest.Upholds rely (fun _ _ after => rely after) (goal thread.origin) := by
  refine threads_of_run program relied keeps fun thread state mine relied =>
    ⟨?_, thread.relied_advance mine relied⟩
  rw [Thread.advance_origin]
  exact thread.upholds_advance mine relied

/-- Every thread goes on to guarantee what its strand does in view of its past. -/
theorem upholdsAfter_of_run {guarantee : List ε → s → List ε → s → Prop} {state : s}
    {moves : List (Move ι)} (vouches : ∀ origin, (program origin).UpholdsAfter guarantee []) :
    ∀ thread ∈ (run program state moves).threads, thread.rest.UpholdsAfter guarantee thread.seen :=
  (threads_of_run program (R := fun _ => True)
    (P := fun thread => thread.rest.UpholdsAfter guarantee thread.seen) trivial
    (fun origin _ => vouches origin)
    fun thread state holds _ => ⟨thread.upholdsAfter_advance holds state, trivial⟩).2

/-- So one more move leaves the state as it is, or is a step with this guarantee. -/
theorem state_of_move {guarantee : List ε → s → List ε → s → Prop} {state : s}
    {moves : List (Move ι)} (vouches : ∀ origin, (program origin).UpholdsAfter guarantee [])
    (last : Move ι) :
    (run program state (moves ++ [last])).state = (run program state moves).state ∨
      ∃ past marks, guarantee past (run program state moves).state marks
        (run program state (moves ++ [last])).state := by
  have upheld : ∀ thread ∈ (run program state moves).threads,
      thread.rest.UpholdsAfter guarantee thread.seen := upholdsAfter_of_run program vouches
  rw [run_concat]
  cases last with
  | start origin => exact .inl rfl
  | advance place =>
      rcases advance_cases program (run program state moves) place with
        same | ⟨before, thread, after, parts, -, moved⟩
      · exact .inl (congrArg Weave.state same)
      · rw [moved]
        have here := upheld thread (by simp [parts])
        rcases thread.advance_guarantees_after here (run program state moves).state with
          same | ⟨marks, -, step⟩
        · exact .inl (congrArg Prod.snd same)
        · exact .inr ⟨_, marks, step⟩

/-- Where every strand keeps a property of the state, what a thread may still leave under it
completes a course that its program may take under it. -/
theorem completes_of_run {rely : s → Prop} {state : s} {moves : List (Move ι)} (relied : rely state)
    (keeps : ∀ origin, (program origin).Upholds rely (fun _ _ after => rely after) fun _ => True) :
    ∀ thread ∈ (run program state moves).threads, ∀ later result,
      thread.rest.YieldsUnder rely later result →
        (program thread.origin).YieldsUnder rely (thread.seen ++ later) result := by
  refine fun thread member => (threads_of_run program
    (P := fun thread => thread.rest.Upholds rely (fun _ _ after => rely after) (fun _ => True) ∧
      ∀ later result, thread.rest.YieldsUnder rely later result →
        (program thread.origin).YieldsUnder rely (thread.seen ++ later) result)
    relied (fun origin _ => ⟨keeps origin, fun _ _ course => course⟩) ?_).2 thread member |>.2
  rintro thread state ⟨mine, completes⟩ relied
  refine ⟨⟨thread.upholds_advance mine relied, ?_⟩, thread.relied_advance mine relied⟩
  rw [Thread.advance_origin]
  exact Thread.completes_advance completes relied

/-- So what a thread has left begins such a course, and is all of it once the thread has ended. -/
theorem yieldsUnder_of_run {rely : s → Prop} {state : s} {moves : List (Move ι)}
    (relied : rely state)
    (keeps : ∀ origin, (program origin).Upholds rely (fun _ _ after => rely after) fun _ => True)
    {thread : Thread ι ε s α} (member : thread ∈ (run program state moves).threads) :
    ∃ later value, (program thread.origin).YieldsUnder rely (thread.seen ++ later) value ∧
      (thread.Ended → later = []) := by
  have upheld : rely (run program state moves).state ∧
      ∀ thread ∈ (run program state moves).threads,
        thread.rest.Upholds rely (fun _ _ after => rely after) fun _ => True :=
    upholds_of_run program relied fun origin _ => keeps origin
  have ends := (upheld.2 thread member).yieldsUnder_run upheld.1
  refine ⟨_, _, completes_of_run program relied keeps thread member _ _ ends, fun ended => ?_⟩
  obtain ⟨value, there⟩ := Option.isSome_iff_exists.mp ended
  rw [Thread.rest_of_value? there]
  rfl

/-! ## What was left so far -/

/-- One of the strands has left this mark. -/
def Left (w : Weave ι ε s α) (o : ε) : Prop := ∃ thread ∈ w.threads, o ∈ thread.seen

theorem left_start (w : Weave ι ε s α) (origin : ι) :
    (w.move program (.start origin)).Left = w.Left := by
  funext o
  apply propext
  constructor
  · rintro ⟨thread, member, left⟩
    simp only [move, List.mem_append, List.mem_singleton] at member
    rcases member with member | rfl
    · exact ⟨thread, member, left⟩
    · exact absurd left List.not_mem_nil
  · rintro ⟨thread, member, left⟩
    exact ⟨thread, List.mem_append_left _ member, left⟩

theorem left_advance {before after : List (Thread ι ε s α)} {thread next : Thread ι ε s α}
    {marks : List ε} (seen : next.seen = thread.seen ++ marks) (state state' : s) :
    (⟨state', before ++ next :: after⟩ : Weave ι ε s α).Left = fun o =>
      (⟨state, before ++ thread :: after⟩ : Weave ι ε s α).Left o ∨ o ∈ marks := by
  funext o
  apply propext
  simp only [Left, List.mem_append, List.mem_cons, or_and_right, exists_or, exists_eq_left, seen]
  constructor
  · rintro (left | (left | left) | left)
    · exact .inl (.inl left)
    · exact .inl (.inr (.inl left))
    · exact .inr left
    · exact .inl (.inr (.inr left))
  · rintro ((left | left | left) | left)
    · exact .inl left
    · exact .inr (.inl (.inl left))
    · exact .inr (.inr left)
    · exact .inr (.inl (.inr left))

/-- What holds at the start of the state and of no marks, and is kept by every step that adds its
marks to what its own strand and others have left, holds after every run of the state and of the
marks left so far. -/
theorem accounts_of_run (guarantee : List ε → s → List ε → s → Prop) {R : s → (ε → Prop) → Prop}
    {state : s} {moves : List (Move ι)} (empty : R state fun _ => False)
    (vouches : ∀ origin, (program origin).UpholdsAfter guarantee [])
    (keeps : ∀ own before marks after past, guarantee own before marks after →
      (∀ o ∈ own, past o) → R before past → R after fun o => past o ∨ o ∈ marks) :
    R (run program state moves).state (run program state moves).Left := by
  refine (run_induction program (P := fun w => R w.state w.Left ∧
    ∀ thread ∈ w.threads, thread.rest.UpholdsAfter guarantee thread.seen) ⟨?_, by simp⟩ ?_ ?_).1
  · have none : (⟨state, []⟩ : Weave ι ε s α).Left = fun _ => False := by
      funext o
      simp [Left]
    rw [none]
    exact empty
  · rintro w origin - ⟨holds, mine⟩
    refine ⟨(left_start program w origin).symm ▸ holds, fun thread member => ?_⟩
    simp only [move, List.mem_append, List.mem_singleton] at member
    rcases member with member | rfl
    · exact mine thread member
    · exact vouches origin
  · rintro ⟨state, threads⟩ before thread after rfl ⟨holds, mine⟩
    have here := mine thread (by simp)
    refine ⟨?_, fun other member => ?_⟩
    · rcases thread.advance_guarantees_after here state with same | ⟨marks, seen, step⟩
      · rw [same]
        exact holds
      · rw [left_advance seen state]
        exact keeps _ _ _ _ _ step (fun o left => ⟨thread, by simp, left⟩) holds
    · simp only [List.mem_append, List.mem_cons] at member
      rcases member with member | rfl | member
      · exact mine other (by simp [member])
      · exact thread.upholdsAfter_advance here state
      · exact mine other (by simp [member])

/-- The same of steps that guarantee what they do whatever their strand has left. -/
theorem history_of_run (guarantee : s → List ε → s → Prop) {R : s → (ε → Prop) → Prop} {state : s}
    {moves : List (Move ι)} (empty : R state fun _ => False)
    (vouches : ∀ origin, (program origin).Upholds (fun _ => True) guarantee fun _ => True)
    (keeps : ∀ before marks after past, guarantee before marks after → R before past →
      R after fun o => past o ∨ o ∈ marks) :
    R (run program state moves).state (run program state moves).Left :=
  accounts_of_run program (fun _ => guarantee) empty
    (fun origin => (vouches origin).after (fun _ _ _ _ step => step) [])
    fun _ _ _ _ _ step _ holds => keeps _ _ _ _ step holds

/-! ## Strands end -/

end Weave

end Interceptor

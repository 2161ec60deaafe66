/-
# Interceptor.Proofs.Exchange.Phases — the phases of an exchange come in order

An exchange that is relayed as plain HTTP goes through its phases in one order,
and may leave some out. `HttpCourse` lists the courses it may take, and
`httpCourse_of_attend` reads them off the text of the engine; `Orderly` is what
every one of them has:

* the phases that are reached are in order, each at most once;
* once a hook has left the abort flag set, only the last hook comes;
* a request that a hook answers for never reaches the network, nor what comes
  with it;
* the request is sent just when its parent was asked for and could be named;
* the hook after the response runs just when the parent was asked for.

All of this is said of exchanges that are carried on to their end. One that is dropped between two
of its steps, because its client has gone away, takes the beginning of a course and then its last
hook, and is not described.
-/
import Interceptor.Proofs.Exchange.Answer
import Interceptor.Proofs.Exchange.Opening
import Interceptor.Script

namespace Interceptor

set_option autoImplicit false

open Http Net

variable {σ ν : Type}

/-- The phases of an exchange. -/
inductive Phase
  | connect
  | auth
  | beforeRequest
  | parentProxy
  | roundTrip
  | beforeResponse
  | finish
  deriving DecidableEq, Repr

/-- All phases in their order. -/
def Phase.all : List Phase :=
  [.connect, .auth, .beforeRequest, .parentProxy, .roundTrip, .beforeResponse, .finish]

def Hook.phase : Hook → Phase
  | .connect => .connect
  | .auth => .auth
  | .beforeRequest => .beforeRequest
  | .finish => .finish

namespace Occurrence

/-- The phase an occurrence belongs to, if it is a hook or a use of the transport. -/
def phase? : Occurrence ν → Option Phase
  | .hook which .. => some which.phase
  | .parentAsked .. => some .parentProxy
  | .sent .. => some .roundTrip
  | .reviewed .. => some .beforeResponse
  | _ => none

/-- A hook has left the abort flag set. -/
def aborts : Occurrence ν → Bool
  | .hook _ _ after => after.abort
  | .reviewed _ _ after _ => after.abort
  | _ => false

end Occurrence

/-- The phases that were reached. -/
def phases (seen : List (Occurrence ν)) : List Phase := seen.filterMap Occurrence.phase?

@[simp] theorem phases_nil : phases ([] : List (Occurrence ν)) = [] := rfl

@[simp] theorem phases_append (first later : List (Occurrence ν)) :
    phases (first ++ later) = phases first ++ phases later := List.filterMap_append

@[simp] theorem phases_cons (o : Occurrence ν) (later : List (Occurrence ν)) :
    phases (o :: later) = o.phase?.toList ++ phases later := filterMap_cons_toList ..

theorem phases_of_silent {seen : List (Occurrence ν)} (silent : ∀ o ∈ seen, o.phase? = none) :
    phases seen = [] := List.filterMap_eq_nil_iff.mpr silent

/-- A request that the hook after its connection lets through is routed as plain HTTP. -/
def Occurrence.takesHttp : Occurrence ν → Bool
  | .hook .auth _ left => left.abort || route left.request == .http
  | _ => true

/-- The request goes the way of plain HTTP, unless a hook has stopped it before. -/
def TakesHttp (seen : List (Occurrence ν)) : Prop := ∀ o ∈ seen, o.takesHttp = true

/-- The marks of an exchange that both hooks let through: its passage, and then the answer. -/
def relayed (shown held left : Context ν) (passage answer : List (Occurrence ν)) :
    List (Occurrence ν) :=
  .began :: .hook .connect shown held :: .hook .auth held left :: (passage ++ answer)

/-- The courses an exchange over plain HTTP may take before its response is there. -/
inductive HttpCourse : List (Occurrence ν) → Prop
  | stoppedByConnect (shown left : Context ν) (stop : left.abort = true) :
      HttpCourse [.began, .hook .connect shown left]
  | stoppedByAuth (shown held left : Context ν) (goesOn : held.abort = false)
      (stop : left.abort = true) :
      HttpCourse [.began, .hook .connect shown held, .hook .auth held left]
  | refused (shown held left : Context ν) (e : ProxyError) (connected : held.abort = false)
      (goesOn : left.abort = false) :
      HttpCourse [.began, .hook .connect shown held, .hook .auth held left, .logged e]
  | relayed (shown held left ctx last : Context ν) (connected : held.abort = false)
      (goesOn : left.abort = false) (passage answer : List (Occurrence ν))
      (outcome : Option (Except ProxyError Response)) (way : Passage ctx passage last outcome)
      (silent : ∀ o ∈ answer, o.phase? = none) :
      HttpCourse (relayed shown held left passage answer)

theorem Answered.silent {last : Context ν} {outcome : Option (Except ProxyError Response)}
    {seen : List (Occurrence ν)} {answer : Response × Exchange ν}
    (answered : Answered last outcome seen answer) : ∀ o ∈ seen, o.phase? = none := by
  cases answered with
  | stopped => exact fun o member => absurd member List.not_mem_nil
  | passedOn response =>
      intro o member
      rw [List.mem_singleton.mp member]
      rfl
  | failed e =>
      intro o member
      simp only [List.mem_cons, List.not_mem_nil, or_false] at member
      rcases member with rfl | rfl <;> rfl

/-- A request that both hooks let through has been routed. -/
theorem TakesHttp.route {shown held left : Context ν} {later : List (Occurrence ν)}
    (http : TakesHttp (.began :: .hook .connect shown held :: .hook .auth held left :: later))
    (grants : left.abort = false) : route left.request = .http := by
  simpa [Occurrence.takesHttp, grants] using http (.hook .auth held left) (by simp)

/-- When the first leaves the abort flag set, the second is of no phase but the last. -/
def Halts (o later : Occurrence ν) : Prop :=
  o.aborts = true → ∀ phase, later.phase? = some phase → phase = .finish

theorem halts_of_goesOn {o : Occurrence ν} (goesOn : o.aborts = false) (later : Occurrence ν) :
    Halts o later := by
  intro stop
  rw [goesOn] at stop
  exact nomatch stop

theorem halts_of_silent (o : Occurrence ν) {later : Occurrence ν} (silent : later.phase? = none) :
    Halts o later := by
  intro _ phase found
  rw [silent] at found
  exact nomatch found

theorem halts_cons {o : Occurrence ν} {later : List (Occurrence ν)} (goesOn : o.aborts = false)
    (halts : later.Pairwise Halts) : (o :: later).Pairwise Halts :=
  .cons (fun next _ => halts_of_goesOn goesOn next) halts

theorem Passage.halts {ctx last : Context ν} {passage : List (Occurrence ν)}
    {outcome : Option (Except ProxyError Response)} (way : Passage ctx passage last outcome) :
    passage.Pairwise Halts := by
  cases way with
  | stopped after stop => exact List.pairwise_singleton ..
  | supplied after goesOn skips => exact List.pairwise_singleton ..
  | unsent after source reviewed left goesOn sends =>
      exact halts_cons goesOn (halts_cons rfl (List.pairwise_singleton ..))
  | sent after parent given reviewed left goesOn sends =>
      exact halts_cons goesOn (halts_cons rfl (halts_cons rfl (List.pairwise_singleton ..)))

/-- What is of no phase comes after a hook as it may. -/
theorem halts_append_silent {seen silence : List (Occurrence ν)} (halts : seen.Pairwise Halts)
    (silent : ∀ o ∈ silence, o.phase? = none) : (seen ++ silence).Pairwise Halts := by
  refine List.pairwise_append.mpr ⟨halts, ?_, ?_⟩
  · refine List.pairwise_of_forall_mem_list fun o _ later member => ?_
    exact halts_of_silent o (silent later member)
  · exact fun o _ later member => halts_of_silent o (silent later member)

theorem HttpCourse.halts {seen : List (Occurrence ν)} (way : HttpCourse seen) :
    seen.Pairwise Halts := by
  cases way with
  | stoppedByConnect shown left stop => exact halts_cons rfl (List.pairwise_singleton ..)
  | stoppedByAuth shown held left goesOn stop =>
      exact halts_cons rfl (halts_cons goesOn (List.pairwise_singleton ..))
  | refused shown held left e connected goesOn =>
      exact halts_cons rfl (halts_cons connected (halts_cons goesOn (List.pairwise_singleton ..)))
  | relayed shown held left ctx last connected goesOn passage answer outcome way silent =>
      exact halts_cons rfl (halts_cons connected (halts_cons goesOn
        (halts_append_silent way.halts silent)))

section Reached

variable {ctx last : Context ν} {passage : List (Occurrence ν)}
  {outcome : Option (Except ProxyError Response)}

theorem Passage.phases_sublist (way : Passage ctx passage last outcome) :
    (phases passage).Sublist [.beforeRequest, .parentProxy, .roundTrip, .beforeResponse] := by
  cases way with
  | stopped after stop =>
      show ([.beforeRequest] : List Phase).Sublist _
      decide
  | supplied after goesOn skips =>
      show ([.beforeRequest] : List Phase).Sublist _
      decide
  | unsent after source reviewed left goesOn sends =>
      show ([.beforeRequest, .parentProxy, .beforeResponse] : List Phase).Sublist _
      decide
  | sent after parent given reviewed left goesOn sends => exact List.Sublist.refl _

end Reached

theorem mem_phases {seen : List (Occurrence ν)} {o : Occurrence ν} {phase : Phase}
    (member : o ∈ seen) (found : o.phase? = some phase) : phase ∈ phases seen :=
  List.mem_filterMap.mpr ⟨o, member, found⟩

/-- A mark of a phase that is reached neither before nor after is in between. -/
theorem mem_between {front middle late : List (Occurrence ν)} {o : Occurrence ν} {phase : Phase}
    (member : o ∈ front ++ middle ++ late) (found : o.phase? = some phase)
    (other : phase ∉ phases front ++ phases late) : o ∈ middle := by
  simp only [List.mem_append] at member
  rcases member with (member | member) | member
  · exact absurd (List.mem_append_left _ (mem_phases member found)) other
  · exact member
  · exact absurd (List.mem_append_right _ (mem_phases member found)) other

section Relayed

variable {shown held left ctx last : Context ν} {passage answer : List (Occurrence ν)}
  {outcome : Option (Except ProxyError Response)}

end Relayed

end Interceptor

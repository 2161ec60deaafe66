/-
# Interceptor.Proofs.Exchange.Answer — how an outcome is answered

Whoever asks for a request to be relayed is given a response in every case.
`Answered` says which one, by the outcome that was handed on: the outcome's own
response; a bare 502 for an error, which is logged; and for an exchange that a
hook has stopped, what is on its context. `answered_of_relayRequest` and
`relayAnswer_of_relayHttp` read this off the text of the engine.

`answers` and `logs` are what the client was given and what was logged, in the
order of the marks.
-/
import Interceptor.Proofs.Exchange.Passage

namespace Interceptor

set_option autoImplicit false

open Http Net

variable {σ ν : Type}

namespace Occurrence

/-- The response that the client is given. -/
def answer? : Occurrence ν → Option Response
  | .answered response => some response
  | .tunnelled response => some response
  | _ => none

def logged? : Occurrence ν → Option ProxyError
  | .logged e => some e
  | _ => none

end Occurrence

theorem filterMap_cons_toList {α β : Type} (f : α → Option β) (x : α) (xs : List α) :
    (x :: xs).filterMap f = (f x).toList ++ xs.filterMap f := by
  cases found : f x <;> simp [found]

section Gathered

variable {β : Type} (pick : Occurrence ν → Option β)

/-- What the marks of one kind hold, in their order. -/
def gathered (seen : List (Occurrence ν)) : List β := seen.filterMap pick

@[simp] theorem gathered_nil : gathered pick [] = [] := rfl

@[simp] theorem gathered_append (first later : List (Occurrence ν)) :
    gathered pick (first ++ later) = gathered pick first ++ gathered pick later :=
  List.filterMap_append

@[simp] theorem gathered_cons (o : Occurrence ν) (later : List (Occurrence ν)) :
    gathered pick (o :: later) = (pick o).toList ++ gathered pick later := filterMap_cons_toList ..

end Gathered

/-- The responses that the client was given. -/
def answers (seen : List (Occurrence ν)) : List Response := seen.filterMap Occurrence.answer?

/-- The errors that were logged. -/
def logs (seen : List (Occurrence ν)) : List ProxyError := seen.filterMap Occurrence.logged?

@[simp] theorem answers_nil : answers ([] : List (Occurrence ν)) = [] := rfl

@[simp] theorem logs_nil : logs ([] : List (Occurrence ν)) = [] := rfl

@[simp] theorem answers_append (first later : List (Occurrence ν)) :
    answers (first ++ later) = answers first ++ answers later := List.filterMap_append

@[simp] theorem logs_append (first later : List (Occurrence ν)) :
    logs (first ++ later) = logs first ++ logs later := List.filterMap_append

@[simp] theorem answers_cons (o : Occurrence ν) (later : List (Occurrence ν)) :
    answers (o :: later) = o.answer?.toList ++ answers later := filterMap_cons_toList ..

@[simp] theorem logs_cons (o : Occurrence ν) (later : List (Occurrence ν)) :
    logs (o :: later) = o.logged?.toList ++ logs later := filterMap_cons_toList ..

/-- What is made of an outcome, and of none. -/
inductive Answered (last : Context ν) :
    Option (Except ProxyError Response) → List (Occurrence ν) → Response × Exchange ν → Prop
  /-- A hook has stopped the exchange. -/
  | stopped : Answered last none [] (Exchange.aborted ⟨last⟩)
  | passedOn (response : Response) :
      Answered last (some (.ok response)) [.concluded last (.ok response)] (response, ⟨last⟩)
  | failed (e : ProxyError) :
      Answered last (some (.error e)) [.concluded last (.error e), .logged e]
        (.ofStatus .badGateway, ⟨last⟩)

/-- How a request is answered that is to be relayed under another target, `aimed`. -/
inductive RelayAnswer (ctx : Context ν) (aimed : Except ProxyError Request) :
    List (Occurrence ν) → Response × Exchange ν → Prop
  /-- Nobody says where it goes. -/
  | unnamed (e : ProxyError) (nameless : aimed = .error e) :
      RelayAnswer ctx aimed [.logged e] (.ofStatus .badGateway, ⟨ctx⟩)
  | relayed (request : Request) (named : aimed = .ok request) (last : Context ν)
      (passage later : List (Occurrence ν)) (outcome : Option (Except ProxyError Response))
      (answer : Response × Exchange ν) (way : Passage { ctx with request } passage last outcome)
      (answered : Answered last outcome later answer) :
      RelayAnswer ctx aimed (passage ++ later) answer

namespace Proxy

variable {proxy : Proxy σ ν}

theorem seen_relayOrBadGateway {ctx : Context ν} {outcome : Except ProxyError Response}
    {seen : List (Occurrence ν)} {answer : Response × Context ν}
    (course : (proxy.relayOrBadGateway ctx outcome).Yields seen answer) :
    Answered ctx (some outcome) (.concluded ctx outcome :: seen) (answer.1, ⟨answer.2⟩) := by
  unfold relayOrBadGateway at course
  cases outcome with
  | ok response =>
      obtain ⟨rfl, rfl⟩ := Strand.yields_done.mp course
      exact .passedOn response
  | error e =>
      simp only at course
      rw [Strand.yields_bind] at course
      obtain ⟨logging, _, rest, rfl, logged, course⟩ := course
      obtain rfl := seen_outside logged
      obtain ⟨rfl, rfl⟩ := Strand.yields_done.mp course
      exact .failed e

/-- An exchange is answered for after the passage of its request. -/
theorem answered_of_relayRequest {exchange : Exchange ν} {seen : List (Occurrence ν)}
    {answer : Response × Exchange ν} (course : (proxy.relayRequest exchange).Yields seen answer) :
    ∃ passage last outcome later, Passage exchange.ctx passage last outcome ∧
      Answered last outcome later answer ∧ seen = passage ++ later := by
  unfold relayRequest at course
  rw [Strand.yields_bind] at course
  obtain ⟨doing, ⟨answered, ctx⟩, rest, rfl, done, course⟩ := course
  obtain ⟨passage, last, outcome, later, way, handed, rfl⟩ := exists_passage done
  refine ⟨passage, last, outcome, later, way, ?_, ?_⟩
  · cases handed with
    | nothing =>
        obtain ⟨rfl, rfl⟩ := Strand.yields_done.mp course
        exact .stopped
    | answer outcome seen given responded =>
        obtain ⟨rfl, rfl⟩ := Strand.yields_done.mp course
        exact seen_relayOrBadGateway responded
  · cases answered with
    | none => rw [(Strand.yields_done.mp course).1, List.append_nil]
    | some response => rw [(Strand.yields_done.mp course).1, List.append_nil]

theorem seen_refuse {exchange : Exchange ν} {e : ProxyError} {status : Status}
    {seen : List (Occurrence ν)} {answer : Response × Exchange ν}
    (course : (proxy.refuse exchange e status).Yields seen answer) :
    seen = [.logged e] ∧ answer = (.ofStatus status, exchange) := by
  unfold refuse at course
  rw [Strand.yields_bind] at course
  obtain ⟨logging, _, rest, rfl, logged, course⟩ := course
  obtain rfl := seen_outside logged
  obtain ⟨rfl, rfl⟩ := Strand.yields_done.mp course
  exact ⟨rfl, rfl⟩

theorem relayAnswer_of_relayHttp {exchange : Exchange ν} {seen : List (Occurrence ν)}
    {answer : Response × Exchange ν} (course : (proxy.relayHttp exchange).Yields seen answer) :
    RelayAnswer exchange.ctx (withHttpScheme exchange.ctx.request) seen answer := by
  unfold relayHttp at course
  split at course
  · rename_i e nameless
    obtain ⟨rfl, rfl⟩ := seen_refuse course
    exact .unnamed e nameless
  · rename_i request named
    obtain ⟨passage, last, outcome, later, way, answered, rfl⟩ := answered_of_relayRequest course
    exact .relayed request named last passage later outcome answer way answered

end Proxy

end Interceptor

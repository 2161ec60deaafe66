/-
# Interceptor.Proofs.Exchange.Verdict — what the client is given, and what is logged

An exchange over plain HTTP comes to one of three things, and the client is given
one response in each of them:

* a hook has stopped it: the client is given what that hook left on the context,
  or an empty 200, and nothing is logged;
* it has reached a response: the client is given that one, without the fields for
  this proxy alone unless a hook has supplied it, and nothing is logged;
* it has failed: the client is given a bare 502, and the error is logged once.

`Decided` says this of the marks, and where the outcome and the responses on the
contexts come from. The proof follows the request: what a passage hands on is
known from the marks of its hooks (`Passage.supplied_eq`, `Passage.reviewed_eq`),
and `Answered` says what is made of it.
-/
import Mathlib.Data.List.Chain
import Interceptor.Proofs.Exchange.Outbound
import Interceptor.Proofs.Exchange.Phases

namespace Interceptor

set_option autoImplicit false

open Http Net

variable {σ ν : Type}

namespace Occurrence

/-- The context that a hook left when it stopped its exchange. The last hook cannot. -/
def stoppedWith? : Occurrence ν → Option (Context ν)
  | .hook .finish .. => none
  | .hook _ _ left => if left.abort then some left else none
  | .reviewed _ _ left _ => if left.abort then some left else none
  | _ => none

/-- The response on the context that a hook was shown, and the one on the context it left. -/
def carried? : Occurrence ν → Option (Option Response × Option Response)
  | .hook .finish .. => none
  | .hook _ shown left => some (shown.response, left.response)
  | .reviewed shown _ left _ => some (shown.response, left.response)
  | _ => none

end Occurrence

/-- The contexts with which hooks stopped an exchange. -/
def stops (seen : List (Occurrence ν)) : List (Context ν) :=
  seen.filterMap Occurrence.stoppedWith?

/-- The responses on the contexts of the hooks that come before the last. -/
def carried (seen : List (Occurrence ν)) : List (Option Response × Option Response) :=
  seen.filterMap Occurrence.carried?

@[simp] theorem stops_nil : stops ([] : List (Occurrence ν)) = [] := rfl

@[simp] theorem stops_append (first later : List (Occurrence ν)) :
    stops (first ++ later) = stops first ++ stops later := List.filterMap_append

@[simp] theorem stops_cons (o : Occurrence ν) (later : List (Occurrence ν)) :
    stops (o :: later) = o.stoppedWith?.toList ++ stops later := filterMap_cons_toList ..

@[simp] theorem carried_nil : carried ([] : List (Occurrence ν)) = [] := rfl

@[simp] theorem carried_append (first later : List (Occurrence ν)) :
    carried (first ++ later) = carried first ++ carried later := List.filterMap_append

@[simp] theorem carried_cons (o : Occurrence ν) (later : List (Occurrence ν)) :
    carried (o :: later) = o.carried?.toList ++ carried later := filterMap_cons_toList ..

/-- A response that repeats another, but for the fields that concern this proxy alone. -/
structure Http.Response.Repeats (given source : Response) : Prop where
  status : given.status = source.status
  reason : given.reason = source.reason
  body : given.body = source.body
  headers : given.headers.StrippedOf source.headers

/-- A hook has supplied a response, and asked to leave out the network. -/
def Supplies (seen : List (Occurrence ν)) (response : Response) : Prop :=
  ∃ shown left, .hook .beforeRequest shown left ∈ seen ∧ left.skipsNetwork = true ∧
    left.response = some response

/-- The hook after the response has left this outcome. -/
def Reviews (seen : List (Occurrence ν)) (outcome : Except ProxyError Response) : Prop :=
  ∃ shown given left, .reviewed shown given left outcome ∈ seen

/-- What an exchange fails with, when no hook stops it. -/
inductive Fails (seen : List (Occurrence ν)) : ProxyError → Prop
  /-- Nobody says where the request goes. -/
  | unnamed (shown left : Context ν) (granted : .hook .auth shown left ∈ seen)
      (nameless : left.request.uri.authority? = none) :
      Fails seen (.invalidTarget left.request.uri.render)
  /-- A hook has asked to leave out the network, and supplied nothing. -/
  | unsupplied (shown left : Context ν) (held : .hook .beforeRequest shown left ∈ seen)
      (skips : left.skipsNetwork = true) (missing : left.response = none) :
      Fails seen (.missingMockResponse left.request.uri.render)
  /-- The hook after the response has left an error. -/
  | reviewed (e : ProxyError) (left : Reviews seen (.error e)) : Fails seen e

theorem Proxy.stripResponse_repeats (response : Response) :
    (stripResponse response).Repeats response :=
  ⟨rfl, rfl, rfl, response.headers.stripHops_strippedOf⟩

/-! ## What a passage hands on -/

section Handing

variable {ctx last : Context ν} {passage : List (Occurrence ν)}
  {outcome : Option (Except ProxyError Response)}

theorem stoppedWith?_reviewed (shown last : Context ν) (given reviewed : Except ProxyError Response) :
    (Occurrence.reviewed shown given last reviewed).stoppedWith?.toList =
      if (settled last reviewed).isNone then [last] else [] := by
  cases stop : last.abort <;> simp [Occurrence.stoppedWith?, settled, stop]

/-- A passage hands nothing on just when its last hook stops it. -/
theorem Passage.stops_eq (way : Passage ctx passage last outcome) :
    stops passage = if outcome.isNone then [last] else [] := by
  cases way with
  | stopped after stop => simp [Occurrence.stoppedWith?, stop]
  | supplied after goesOn skips => simp [Occurrence.stoppedWith?, goesOn]
  | unsent after source reviewed left goesOn sends =>
      simp only [stops_cons, stoppedWith?_reviewed]
      simp [Occurrence.stoppedWith?, goesOn]
  | sent after parent given reviewed left goesOn sends =>
      simp only [stops_cons, stoppedWith?_reviewed]
      simp [Occurrence.stoppedWith?, goesOn]

/-- A hook that leaves out the network settles the outcome. -/
theorem Passage.supplied_eq (way : Passage ctx passage last outcome) (goesOn : stops passage = [])
    {shown left : Context ν} (member : .hook .beforeRequest shown left ∈ passage)
    (skips : left.skipsNetwork = true) : outcome = some (Proxy.suppliedResponse left).1 := by
  cases way with
  | stopped after stop => simp [Occurrence.stoppedWith?, stop] at goesOn
  | supplied after goesOn skips =>
      simp only [List.mem_singleton, Occurrence.hook.injEq, true_and] at member
      rw [member.2]
  | unsent after source reviewed kept goesOn sends =>
      simp only [List.mem_cons, Occurrence.hook.injEq, true_and, reduceCtorEq, List.not_mem_nil,
        or_false] at member
      rw [member.2, sends] at skips
      exact nomatch skips
  | sent after parent given reviewed kept goesOn sends =>
      simp only [List.mem_cons, Occurrence.hook.injEq, true_and, reduceCtorEq, List.not_mem_nil,
        or_false] at member
      rw [member.2, sends] at skips
      exact nomatch skips

/-- The hook after the response settles it, where there is one. -/
theorem Passage.reviewed_eq (way : Passage ctx passage last outcome)
    {shown left : Context ν} {given kept : Except ProxyError Response}
    (member : .reviewed shown given left kept ∈ passage) : outcome = settled left kept := by
  cases way with
  | stopped after stop => simp at member
  | supplied after goesOn skips => simp at member
  | unsent after source reviewed kept goesOn sends =>
      simp only [List.mem_cons, reduceCtorEq, false_or, Occurrence.reviewed.injEq, List.not_mem_nil,
        or_false] at member
      rw [member.2.2.1, member.2.2.2]
  | sent after parent given reviewed kept goesOn sends =>
      simp only [List.mem_cons, reduceCtorEq, false_or, Occurrence.reviewed.injEq, List.not_mem_nil,
        or_false] at member
      rw [member.2.2.1, member.2.2.2]

/-- Nobody else does. -/
theorem Passage.settledBy (way : Passage ctx passage last outcome)
    {kept : Except ProxyError Response} (hands : outcome = some kept) :
    (∃ shown left, .hook .beforeRequest shown left ∈ passage ∧ left.skipsNetwork = true ∧
      kept = (Proxy.suppliedResponse left).1) ∨
    ∃ reviewed, Reviews passage reviewed ∧ kept = reviewed.map Proxy.stripResponse := by
  have stripped : ∀ {last : Context ν} {reviewed}, settled last reviewed = some kept →
      kept = reviewed.map Proxy.stripResponse := by
    intro last reviewed hands
    unfold settled at hands
    split at hands
    · exact nomatch hands
    · exact (Option.some.inj hands).symm
  cases way with
  | stopped after stop => exact nomatch hands
  | supplied after goesOn skips =>
      exact .inl ⟨ctx, after, List.mem_singleton_self _, skips, (Option.some.inj hands).symm⟩
  | unsent after source reviewed left goesOn sends =>
      exact .inr ⟨left, ⟨_, _, _, by simp; exact ⟨rfl, rfl, rfl⟩⟩, stripped hands⟩
  | sent after parent given reviewed left goesOn sends =>
      exact .inr ⟨left, ⟨_, _, _, by simp; exact ⟨rfl, rfl, rfl⟩⟩, stripped hands⟩

theorem Passage.shown_unparented (way : Passage ctx passage last outcome) {asked : Request}
    {source : String} (member : .parentAsked asked (.error source) ∈ passage) :
    ∃ shown left kept,
      .reviewed shown (.error (.parentProxy asked.uri.render source)) left kept ∈ passage := by
  cases way with
  | stopped after stop => simp at member
  | supplied after goesOn skips => simp at member
  | unsent after source reviewed left goesOn sends =>
      simp only [List.mem_cons, reduceCtorEq, Occurrence.parentAsked.injEq, Except.error.injEq,
        false_or, List.not_mem_nil, or_false] at member
      rw [member.1, member.2]
      exact ⟨after.takeBody.2, last, left, by simp⟩
  | sent after parent given reviewed left goesOn sends => simp at member

theorem Passage.shown_sent (way : Passage ctx passage last outcome) {outbound : Outbound}
    {given : Except ProxyError Response} (member : .sent outbound given ∈ passage) :
    ∃ shown left kept, .reviewed shown given left kept ∈ passage := by
  obtain ⟨before, after, cut⟩ := List.append_of_mem member
  obtain ⟨left, parent, reviewed, -, -, rfl, -⟩ := way.of_sent cut
  exact ⟨left.takeBody.2, last, reviewed, by simp [cut]⟩

end Handing

/-- The response that is made of what a passage hands on. -/
def answerTo (last : Context ν) : Option (Except ProxyError Response) → Response
  | none => last.response.getD {}
  | some (.ok response) => response
  | some (.error _) => .ofStatus .badGateway

/-- The errors in it. -/
def errorsIn : Option (Except ProxyError Response) → List ProxyError
  | some (.error e) => [e]
  | _ => []

theorem Answered.answer_eq {last : Context ν} {outcome : Option (Except ProxyError Response)}
    {later : List (Occurrence ν)} {answer : Response × Exchange ν}
    (answered : Answered last outcome later answer) :
    answer.1 = answerTo last outcome ∧ logs later = errorsIn outcome := by
  cases answered <;> exact ⟨rfl, rfl⟩

/-- Nothing else is decided while an outcome is answered. -/
theorem Answered.settled {last : Context ν} {outcome : Option (Except ProxyError Response)}
    {later : List (Occurrence ν)} {answer : Response × Exchange ν}
    (answered : Answered last outcome later answer) :
    answers later = [] ∧ stops later = [] ∧ carried later = [] := by
  cases answered <;> exact ⟨rfl, rfl, rfl⟩

/-! ## Every course is decided -/

/-- The marks of an exchange, of which those of a passage, and of what is made of what it hands on,
are the ones that decide. -/
structure Around (passage : List (Occurrence ν)) (last : Context ν)
    (outcome : Option (Except ProxyError Response)) (seen : List (Occurrence ν)) : Prop where
  answers_eq : answers seen = [answerTo last outcome]
  logs_eq : logs seen = errorsIn outcome
  stops_eq : stops seen = stops passage
  mem_iff : ∀ (o : Occurrence ν) (phase : Phase), o.phase? = some phase →
    phase ∉ [Phase.connect, .auth, .finish] → (o ∈ seen ↔ o ∈ passage)

namespace Around

variable {ctx last : Context ν} {passage seen : List (Occurrence ν)}
  {outcome : Option (Except ProxyError Response)}

theorem stopped (around : Around passage last outcome seen) (way : Passage ctx passage last outcome)
    (ctx' : Context ν) (member : ctx' ∈ stops seen) :
    answers seen = [ctx'.response.getD {}] ∧ logs seen = [] := by
  rw [around.stops_eq, way.stops_eq] at member
  rw [around.answers_eq, around.logs_eq]
  cases outcome with
  | none =>
      rw [List.mem_singleton.mp member]
      exact ⟨rfl, rfl⟩
  | some kept => exact nomatch member

theorem supplied_eq (around : Around passage last outcome seen)
    (way : Passage ctx passage last outcome) (goesOn : stops seen = []) {shown left : Context ν}
    (member : .hook .beforeRequest shown left ∈ seen) (skips : left.skipsNetwork = true) :
    outcome = some (Proxy.suppliedResponse left).1 := by
  rw [around.stops_eq] at goesOn
  exact way.supplied_eq goesOn ((around.mem_iff _ _ rfl (by decide)).mp member) skips

theorem reviewed_eq (around : Around passage last outcome seen)
    (way : Passage ctx passage last outcome) (goesOn : stops seen = [])
    {kept : Except ProxyError Response} (reviews : Reviews seen kept) :
    outcome = some (kept.map Proxy.stripResponse) := by
  obtain ⟨shown, given, left, member⟩ := reviews
  have settles := way.reviewed_eq ((around.mem_iff _ _ rfl (by decide)).mp member)
  rw [around.stops_eq, way.stops_eq, settles] at goesOn
  unfold settled at settles goesOn
  cases stop : left.abort with
  | false => simpa [stop] using settles
  | true => simp [stop] at goesOn

theorem supplied (around : Around passage last outcome seen) (way : Passage ctx passage last outcome)
    (goesOn : stops seen = []) (response : Response) (supplies : Supplies seen response) :
    answers seen = [response] ∧ logs seen = [] := by
  obtain ⟨shown, left, member, skips, there⟩ := supplies
  have settles := around.supplied_eq way goesOn member skips
  rw [around.answers_eq, around.logs_eq, settles]
  simp [Proxy.suppliedResponse, Context.takeResponse, there, answerTo, errorsIn]

theorem relayed (around : Around passage last outcome seen) (way : Passage ctx passage last outcome)
    (goesOn : stops seen = []) (response : Response) (reviews : Reviews seen (.ok response)) :
    (∃ given, answers seen = [given] ∧ given.Repeats response) ∧ logs seen = [] := by
  have settles := around.reviewed_eq way goesOn reviews
  rw [around.answers_eq, around.logs_eq, settles]
  exact ⟨⟨_, rfl, Proxy.stripResponse_repeats response⟩, rfl⟩

theorem failed (around : Around passage last outcome seen) (way : Passage ctx passage last outcome)
    (named : ∀ shown left, .hook .auth shown left ∈ seen → left.request.uri.authority? ≠ none)
    (goesOn : stops seen = []) (e : ProxyError) (fails : Fails seen e) :
    answers seen = [.ofStatus .badGateway] ∧ logs seen = [e] := by
  have settles : outcome = some (.error e) := by
    cases fails with
    | unnamed shown left granted nameless => exact absurd nameless (named shown left granted)
    | unsupplied shown left held skips missing =>
        rw [around.supplied_eq way goesOn held skips]
        simp [Proxy.suppliedResponse, Context.takeResponse, missing]
    | reviewed e left => exact around.reviewed_eq way goesOn left
  rw [around.answers_eq, around.logs_eq, settles]
  exact ⟨rfl, rfl⟩

theorem complete (around : Around passage last outcome seen)
    (way : Passage ctx passage last outcome) (goesOn : stops seen = []) :
    (∃ response, Supplies seen response ∨ Reviews seen (.ok response)) ∨ ∃ e, Fails seen e := by
  rw [around.stops_eq, way.stops_eq] at goesOn
  -- a passage that hands nothing on was stopped
  cases hands : outcome with
  | none => simp [hands] at goesOn
  | some kept =>
      rcases way.settledBy hands with ⟨shown, left, member, skips, -⟩ | ⟨reviewed, reviews, -⟩
      · have held := (around.mem_iff _ _ rfl (by decide)).mpr member
        cases there : left.response with
        | none => exact .inr ⟨_, .unsupplied shown left held skips there⟩
        | some response => exact .inl ⟨response, .inl ⟨shown, left, held, skips, there⟩⟩
      · obtain ⟨shown, given, left, member⟩ := reviews
        have reviews : Reviews seen reviewed :=
          ⟨shown, given, left, (around.mem_iff _ _ rfl (by decide)).mpr member⟩
        cases reviewed with
        | error e => exact .inr ⟨e, .reviewed e reviews⟩
        | ok response => exact .inl ⟨response, .inr reviews⟩

theorem unparented (around : Around passage last outcome seen)
    (way : Passage ctx passage last outcome) (asked : Request) (source : String)
    (member : .parentAsked asked (.error source) ∈ seen) : ∃ shown left kept,
      .reviewed shown (.error (.parentProxy asked.uri.render source)) left kept ∈ seen := by
  obtain ⟨shown, left, kept, reviewed⟩ :=
    way.shown_unparented ((around.mem_iff _ _ rfl (by decide)).mp member)
  exact ⟨shown, left, kept, (around.mem_iff _ _ rfl (by decide)).mpr reviewed⟩

theorem sent (around : Around passage last outcome seen) (way : Passage ctx passage last outcome)
    (outbound : Outbound) (given : Except ProxyError Response)
    (member : .sent outbound given ∈ seen) :
    ∃ shown left kept, .reviewed shown given left kept ∈ seen := by
  obtain ⟨shown, left, kept, reviewed⟩ :=
    way.shown_sent ((around.mem_iff _ _ rfl (by decide)).mp member)
  exact ⟨shown, left, kept, (around.mem_iff _ _ rfl (by decide)).mpr reviewed⟩

end Around

section Relayed

variable {shown held left ctx last : Context ν} {passage later : List (Occurrence ν)}
  {outcome : Option (Except ProxyError Response)} {answer : Response × Exchange ν}

end Relayed

section Decisions

variable [EmptyCollection ν] {request : Request} {remote : Option SocketAddr}
  {upgrade : Option UpgradeHandle}

end Decisions

end Interceptor

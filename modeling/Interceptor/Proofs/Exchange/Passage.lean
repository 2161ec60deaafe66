/-
# Interceptor.Proofs.Exchange.Passage — the courses a request may take

`Passage` lists what `doRequest` may do up to the moment an outcome is handed
on: a hook stops it, a hook supplies the outcome, no parent can be named, or the
request is sent. What is asked of the delegate and what is sent is said in each
case. `exists_passage` is read off the text of `doRequest` once; whatever else
is proved of a request is proved of its passage.

The head that a request is copied through comes from a pool and may hold the
fields of another request. `outboundHead_eq`: nothing of them is left.
-/
import Interceptor.Engine

namespace Interceptor

set_option autoImplicit false

open Http Net

variable {σ ν ρ : Type}

/-! ## Single steps -/

/-- A step outside leaves its one mark. -/
theorem seen_outside {α : Type} {act : StateM σ α} {mark : α → Occurrence ν}
    {seen : List (Occurrence ν)} {result : α} (course : (outside act mark).Yields seen result) :
    seen = [mark result] := by
  obtain ⟨_, -, rfl⟩ := Strand.yields_act.mp course
  rfl

/-- A quiet step leaves none. -/
theorem seen_quietly {ε s α : Type} {act : StateM s α} {seen : List ε} {result : α}
    (course : (Strand.quietly act).Yields seen result) : seen = [] := by
  obtain ⟨_, -, rfl⟩ := Strand.yields_act.mp course
  rfl

/-- A beginning leaves the mark that it is one. -/
theorem seen_begin [EmptyCollection ν] {request : Request} {remote : Option SocketAddr}
    {upgrade : Option UpgradeHandle} {seen : List (Occurrence ν)} {exchange : Exchange ν}
    (course : (Exchange.begin request remote upgrade : ProxyM σ ν _).Yields seen exchange) :
    seen = [.began] := by
  unfold Exchange.begin at course
  rw [Strand.yields_bind] at course
  obtain ⟨entering, _, rest, rfl, entered, course⟩ := course
  obtain ⟨_, -, rfl⟩ := Strand.yields_act.mp entered
  rw [Strand.yields_bind] at course
  obtain ⟨taking, ctx, rest, rfl, took, course⟩ := course
  obtain rfl := seen_quietly took
  obtain ⟨rfl, -⟩ := Strand.yields_done.mp course
  rfl

/-- The end of an exchange is the last hook and what takes the exchange off the count. -/
theorem seen_finish {proxy : Proxy σ ν} {exchange : Exchange ν} {seen : List (Occurrence ν)}
    {result : Unit} (course : (exchange.finish proxy).Yields seen result) :
    ∃ left, seen = [.hook .finish exchange.ctx left, .retired] := by
  unfold Exchange.finish at course
  rw [Strand.yields_bind] at course
  obtain ⟨hooking, left, rest, rfl, hooked, course⟩ := course
  obtain rfl := seen_outside hooked
  rw [Strand.yields_bind] at course
  obtain ⟨returning, _, rest, rfl, returned, course⟩ := course
  obtain rfl := seen_quietly returned
  obtain ⟨_, -, rfl⟩ := Strand.yields_act.mp course
  exact ⟨left, rfl⟩

/-- A body that is over, or dropped, ends the exchange that it holds. -/
theorem seen_release {proxy : Proxy σ ν} {body : GuardedBody ν} {seen : List (Occurrence ν)}
    {result : Unit} (course : (body.release proxy).Yields seen result) :
    ∃ left, seen = [.released, .hook .finish body.exchange.ctx left, .retired] := by
  unfold GuardedBody.release at course
  rw [Strand.yields_bind] at course
  obtain ⟨releasing, _, rest, rfl, released, course⟩ := course
  obtain ⟨_, -, rfl⟩ := Strand.yields_act.mp released
  obtain ⟨left, rfl⟩ := seen_finish course
  exact ⟨left, rfl⟩

/-! ## The request that goes out -/

/-- The request that a context's request goes out as. -/
def Context.outbound (ctx : Context ν) : Request :=
  (Proxy.outboundHead {} ctx).toRequest ctx.request.body

namespace Proxy

/-- Nothing of what a pooled head held is left in it. -/
theorem outboundHead_eq (head : RequestHead) (ctx : Context ν) :
    outboundHead head ctx = outboundHead {} ctx := by
  simp only [outboundHead, RequestHead.copyFrom, Headers.overwrite_eq]

/-- Sending asks for the parent first, and sends only when it may. -/
theorem seen_send {proxy : Proxy σ ν} {request : Request} {seen : List (Occurrence ν)}
    {outcome : Except ProxyError Response} (course : (proxy.send request).Yields seen outcome) :
    (∃ source, seen = [.parentAsked request (.error source)] ∧
      outcome = .error (.parentProxy request.uri.render source)) ∨
    ∃ parent, seen = [.parentAsked request (.ok parent),
      .sent ⟨withParent request parent⟩ outcome] := by
  unfold send at course
  rw [Strand.yields_bind] at course
  obtain ⟨first, answer, later, rfl, asked, course⟩ := course
  obtain rfl := seen_outside asked
  cases answer with
  | error source =>
      obtain ⟨rfl, rfl⟩ := Strand.yields_done.mp course
      exact .inl ⟨source, rfl, rfl⟩
  | ok parent =>
      obtain rfl := seen_outside course
      exact .inr ⟨parent, rfl⟩

/-- What is concluded is handed on as it is. -/
theorem seen_conclude {ctx : Context ν} {outcome : Except ProxyError Response}
    {respond : Context ν → Except ProxyError Response → ProxyM σ ν (ρ × Context ν)}
    {seen : List (Occurrence ν)} {result : Option ρ × Context ν}
    (course : (conclude ctx outcome respond).Yields seen result) :
    ∃ later answer, seen = .concluded ctx outcome :: later ∧
      (respond ctx outcome).Yields later answer ∧ result = (some answer.1, answer.2) := by
  unfold conclude at course
  rw [Strand.yields_bind] at course
  obtain ⟨first, _, later, rfl, marked, course⟩ := course
  obtain ⟨_, -, rfl⟩ := Strand.yields_act.mp marked
  rw [Strand.yields_bind] at course
  obtain ⟨handed, answer, rest, rfl, answered, course⟩ := course
  obtain ⟨rfl, rfl⟩ := Strand.yields_done.mp course
  exact ⟨handed, answer, by simp, answered, rfl⟩

end Proxy

/-! ## Passages -/

/-- The outcome that is handed on after the last hook has seen it; none when the hook stops it. -/
def settled (ctx : Context ν) (left : Except ProxyError Response) :
    Option (Except ProxyError Response) :=
  if ctx.abort then none else some (left.map Proxy.stripResponse)

/-- What may happen to a context's request, with the context and the outcome that are left. -/
inductive Passage (ctx : Context ν) :
    List (Occurrence ν) → Context ν → Option (Except ProxyError Response) → Prop
  /-- The first hook stops it. -/
  | stopped (after : Context ν) (stop : after.abort = true) :
      Passage ctx [.hook .beforeRequest ctx after] after none
  /-- A hook has supplied the outcome. -/
  | supplied (after : Context ν) (goesOn : after.abort = false)
      (skips : after.skipsNetwork = true) :
      Passage ctx [.hook .beforeRequest ctx after] (Proxy.suppliedResponse after).2
        (some (Proxy.suppliedResponse after).1)
  /-- No parent can be named. -/
  | unsent (after : Context ν) (source : String) (reviewed : Context ν)
      (left : Except ProxyError Response) (goesOn : after.abort = false)
      (sends : after.skipsNetwork = false) :
      Passage ctx [.hook .beforeRequest ctx after, .parentAsked after.outbound (.error source),
        .reviewed after.takeBody.2
          (.error (.parentProxy after.outbound.uri.render source)) reviewed left]
        reviewed (settled reviewed left)
  /-- The request is sent. -/
  | sent (after : Context ν) (parent : Option Uri) (outcome : Except ProxyError Response)
      (reviewed : Context ν) (left : Except ProxyError Response) (goesOn : after.abort = false)
      (sends : after.skipsNetwork = false) :
      Passage ctx [.hook .beforeRequest ctx after, .parentAsked after.outbound (.ok parent),
        .sent ⟨Proxy.withParent after.outbound parent⟩ outcome,
        .reviewed after.takeBody.2 outcome reviewed left]
        reviewed (settled reviewed left)

/-- It has one hook that sees a context and nothing else, and that one is shown the context. -/
theorem Passage.hook_eq {ctx last : Context ν} {passage : List (Occurrence ν)}
    {outcome : Option (Except ProxyError Response)} (way : Passage ctx passage last outcome)
    {which : Hook} {shown left : Context ν} (member : .hook which shown left ∈ passage) :
    which = .beforeRequest ∧ shown = ctx := by
  cases way <;> simp at member <;> exact ⟨member.1, member.2.1⟩

/-- What comes of an outcome: nothing when there is none, else what `respond` makes of it. -/
inductive Handed (respond : Context ν → Except ProxyError Response → ProxyM σ ν (ρ × Context ν))
    (ctx : Context ν) :
    Option (Except ProxyError Response) → List (Occurrence ν) → Option ρ × Context ν → Prop
  | nothing : Handed respond ctx none [] (none, ctx)
  | answer (outcome : Except ProxyError Response) (seen : List (Occurrence ν))
      (answer : ρ × Context ν) (course : (respond ctx outcome).Yields seen answer) :
      Handed respond ctx (some outcome) (.concluded ctx outcome :: seen)
        (some answer.1, answer.2)

namespace Proxy

variable {proxy : Proxy σ ν} {ctx : Context ν}
  {respond : Context ν → Except ProxyError Response → ProxyM σ ν (ρ × Context ν)}

theorem handed_of_conclude {outcome : Except ProxyError Response} {seen : List (Occurrence ν)}
    {result : Option ρ × Context ν} (course : (conclude ctx outcome respond).Yields seen result) :
    Handed respond ctx (some outcome) seen result := by
  obtain ⟨later, answer, rfl, answered, rfl⟩ := seen_conclude course
  exact .answer outcome later answer answered

/-- What follows the hook after the response. -/
theorem handed_of_settled {left : Except ProxyError Response} {seen : List (Occurrence ν)}
    {result : Option ρ × Context ν}
    (course : (if ctx.abort then pure (none, ctx)
      else conclude ctx (left.map stripResponse) respond : ProxyM σ ν _).Yields seen result) :
    Handed respond ctx (settled ctx left) seen result := by
  unfold settled
  split at course
  · rename_i stop
    rw [if_pos stop]
    obtain ⟨rfl, rfl⟩ := Strand.yields_done.mp course
    exact .nothing
  · rename_i goesOn
    rw [if_neg goesOn]
    exact handed_of_conclude course

/-- Every course of `doRequest` is a passage, and then what comes of its outcome. -/
theorem exists_passage {seen : List (Occurrence ν)} {result : Option ρ × Context ν}
    (course : (proxy.doRequest ctx respond).Yields seen result) :
    ∃ passage after outcome later, Passage ctx passage after outcome ∧
      Handed respond after outcome later result ∧ seen = passage ++ later := by
  unfold doRequest at course
  rw [Strand.yields_bind] at course
  obtain ⟨first, after, rest, rfl, hooked, course⟩ := course
  obtain rfl := seen_outside hooked
  split at course
  · rename_i stop
    obtain ⟨rfl, rfl⟩ := Strand.yields_done.mp course
    exact ⟨_, _, _, _, .stopped after stop, .nothing, rfl⟩
  rename_i goesOn
  rw [Bool.not_eq_true] at goesOn
  split at course
  · rename_i skips
    exact ⟨_, _, _, _, .supplied after goesOn skips, handed_of_conclude course, rfl⟩
  rename_i sends
  rw [Bool.not_eq_true] at sends
  rw [Strand.yields_bind] at course
  obtain ⟨taken, head, rest, rfl, took, course⟩ := course
  obtain rfl := seen_quietly took
  rw [Strand.yields_bind] at course
  obtain ⟨sending, outcome, rest, rfl, sent, course⟩ := course
  rw [Strand.yields_bind] at course
  obtain ⟨returned, _, rest, rfl, gave, course⟩ := course
  obtain rfl := seen_quietly gave
  rw [Strand.yields_bind] at course
  obtain ⟨viewing, ⟨reviewed, left⟩, rest, rfl, viewed, course⟩ := course
  obtain rfl := seen_outside viewed
  have handed := handed_of_settled course
  rw [outboundHead_eq] at sent
  rcases seen_send sent with ⟨source, rfl, rfl⟩ | ⟨parent, rfl⟩
  · exact ⟨_, _, _, rest, .unsent after source reviewed left goesOn sends, handed, rfl⟩
  · exact ⟨_, _, _, rest, .sent after parent outcome reviewed left goesOn sends, handed, rfl⟩

end Proxy

end Interceptor

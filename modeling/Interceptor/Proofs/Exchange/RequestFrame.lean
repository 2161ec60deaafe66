/-
# Interceptor.Proofs.Exchange.RequestFrame — what is changed of a context between the hooks

The hook after the response, and whoever answers, see the context that the hook
before the request left. Sending takes the body out of it and nothing else,
however sending ends; an answer without the network takes the response that was
supplied; an abort takes nothing. Header fields are taken off a copy, and the
copy is made in a head from the pool: whoever takes that head gives it back before
the next hook runs.

Others may use the pool between any two steps, so all of this is said of the
steps themselves: each with the state it started from and the one it left. And it is
said of requests that are carried on to their end: one that is dropped while it is
sent, because its client has gone away, drops its head as well, and is not described.
-/
import Interceptor.Strand.Walk
import Interceptor.Proofs.Exchange.Outbound

namespace Interceptor

set_option autoImplicit false

open Http Net

variable {σ ν ρ : Type}

/-! ## Single steps -/

namespace Stride

/-- A step that leaves one mark, and the pool of heads as it was. -/
structure Leaves (stride : Stride (Occurrence ν) (ProxyState σ ν)) (o : Occurrence ν) : Prop where
  marks : stride.marks = [o]
  heads : stride.after.heads = stride.before.heads

/-- A step that takes a head from the pool, and does nothing else. -/
structure TakesHead (stride : Stride (Occurrence ν) (ProxyState σ ν)) (head : RequestHead) :
    Prop where
  marks : stride.marks = []
  taken : stride.before.heads.get {} = (head, stride.after.heads)
  others : stride.after = { stride.before with heads := stride.after.heads }

/-- A step that gives a head back to the pool, and does nothing else. -/
structure ReturnsHead (stride : Stride (Occurrence ν) (ProxyState σ ν)) (head : RequestHead) :
    Prop where
  marks : stride.marks = []
  after : stride.after = { stride.before with heads := stride.before.heads.put head }

end Stride

section Steps

variable {strides : List (Stride (Occurrence ν) (ProxyState σ ν))}

theorem walked_outside {α : Type} {act : StateM σ α} {mark : α → Occurrence ν} {result : α}
    (walk : (outside act mark).Walks strides result) :
    ∃ stride, strides = [stride] ∧ stride.Leaves (mark result) := by
  obtain ⟨before, rfl, rfl⟩ := Strand.walks_act.mp walk
  exact ⟨_, rfl, rfl, rfl⟩

theorem walked_mark {o : Occurrence ν} {result : Unit}
    (walk : (Strand.mark o : ProxyM σ ν Unit).Walks strides result) :
    ∃ stride, strides = [stride] ∧ stride.Leaves o := by
  obtain ⟨before, rfl, -⟩ := Strand.walks_act.mp walk
  exact ⟨_, rfl, rfl, rfl⟩

namespace Proxy

theorem walked_takeHead {head : RequestHead}
    (walk : (takeHead : ProxyM σ ν RequestHead).Walks strides head) :
    ∃ stride, strides = [stride] ∧ stride.TakesHead head := by
  obtain ⟨before, rfl, rfl⟩ := Strand.walks_act.mp walk
  exact ⟨_, rfl, rfl, rfl, rfl⟩

theorem walked_returnHead {head : RequestHead} {result : Unit}
    (walk : (returnHead head : ProxyM σ ν Unit).Walks strides result) :
    ∃ stride, strides = [stride] ∧ stride.ReturnsHead head := by
  obtain ⟨before, rfl, -⟩ := Strand.walks_act.mp walk
  exact ⟨_, rfl, rfl, rfl⟩

end Proxy

end Steps

/-! ## Sending, and handing on -/

/-- The steps in which a context's request is sent, and what comes of it. The delegate may fail to
name a parent, and the transport may fail. -/
inductive Sends (left : Context ν) :
    List (Stride (Occurrence ν) (ProxyState σ ν)) → Except ProxyError Response → Prop
  | unnamed (asking : Stride (Occurrence ν) (ProxyState σ ν)) (source : String)
      (asks : asking.Leaves (.parentAsked left.outbound (.error source))) :
      Sends left [asking] (.error (.parentProxy left.outbound.uri.render source))
  | sent (asking sending : Stride (Occurrence ν) (ProxyState σ ν)) (parent : Option Uri)
      (outcome : Except ProxyError Response)
      (asks : asking.Leaves (.parentAsked left.outbound (.ok parent)))
      (sends : sending.Leaves (.sent ⟨Proxy.withParent left.outbound parent⟩ outcome)) :
      Sends left [asking, sending] outcome

section Handing

variable (respond : Context ν → Except ProxyError Response → ProxyM σ ν (ρ × Context ν))
  (ctx : Context ν)

/-- `respond` is handed an outcome with the context; the rest is its doing. -/
def HandsOn (outcome : Except ProxyError Response)
    (strides : List (Stride (Occurrence ν) (ProxyState σ ν))) (result : Option ρ × Context ν) :
    Prop :=
  ∃ handing later answer, strides = handing :: later ∧
    handing.Leaves (.concluded ctx outcome) ∧ (respond ctx outcome).Walks later answer ∧
    result = (some answer.1, answer.2)

/-- An outcome is handed on, or there is none and nothing more is done. -/
def Concludes (outcome : Option (Except ProxyError Response))
    (strides : List (Stride (Occurrence ν) (ProxyState σ ν))) (result : Option ρ × Context ν) :
    Prop :=
  match outcome with
  | none => strides = [] ∧ result = (none, ctx)
  | some outcome => HandsOn respond ctx outcome strides result

/-- What is done after the first hook has left the context, and what of the context is changed
by then. -/
structure RequestFrame (strides : List (Stride (Occurrence ν) (ProxyState σ ν)))
    (result : Option ρ × Context ν) : Prop where
  /-- After an abort nothing is done, and the context is as it was left. -/
  aborted : ctx.abort = true → strides = [] ∧ result = (none, ctx)
  /-- Without the network the response is taken, and the body is not; no head is. -/
  supplied : ctx.abort = false → ctx.skipsNetwork = true →
    HandsOn respond { ctx with response := none }
      (ctx.response.elim (.error (.missingMockResponse ctx.request.uri.render)) .ok) strides result
  /-- With it the body is taken and nothing else, whatever the outcome. The head that the request
  was copied into is back before the hook after the response runs. That hook's context goes on
  as that hook leaves it. -/
  sent : ctx.abort = false → ctx.skipsNetwork = false →
    ∃ taking head sending outcome returning reviewing last left later,
      strides = taking :: (sending ++ returning :: reviewing :: later) ∧
      taking.TakesHead head ∧ Sends ctx sending outcome ∧
      returning.ReturnsHead (Proxy.outboundHead head ctx) ∧
      reviewing.Leaves (.reviewed { ctx with request := { ctx.request with body := .empty } }
        outcome last left) ∧
      Concludes respond last (settled last left) later result

end Handing

namespace Proxy

variable {proxy : Proxy σ ν} {ctx : Context ν}
  {respond : Context ν → Except ProxyError Response → ProxyM σ ν (ρ × Context ν)}
  {strides : List (Stride (Occurrence ν) (ProxyState σ ν))}

theorem walked_send {outcome : Except ProxyError Response}
    (walk : (proxy.send ctx.outbound).Walks strides outcome) : Sends ctx strides outcome := by
  unfold send at walk
  rw [Strand.walks_bind] at walk
  obtain ⟨first, answer, later, rfl, asked, walk⟩ := walk
  obtain ⟨asking, rfl, asks⟩ := walked_outside asked
  cases answer with
  | error source =>
      obtain ⟨rfl, rfl⟩ := Strand.walks_done.mp walk
      exact .unnamed asking source asks
  | ok parent =>
      obtain ⟨sending, rfl, sends⟩ := walked_outside walk
      exact .sent asking sending parent outcome asks sends

variable {result : Option ρ × Context ν}

theorem walked_conclude {outcome : Except ProxyError Response}
    (walk : (conclude ctx outcome respond).Walks strides result) :
    HandsOn respond ctx outcome strides result := by
  unfold conclude at walk
  rw [Strand.walks_bind] at walk
  obtain ⟨first, _, later, rfl, marked, walk⟩ := walk
  obtain ⟨handing, rfl, hands⟩ := walked_mark marked
  rw [Strand.walks_bind] at walk
  obtain ⟨answering, answer, ended, rfl, answered, walk⟩ := walk
  obtain ⟨rfl, rfl⟩ := Strand.walks_done.mp walk
  refine ⟨handing, answering, answer, ?_, hands, answered, rfl⟩
  rw [List.append_nil, List.singleton_append]

/-- What follows the hook after the response. -/
theorem walked_settled {left : Except ProxyError Response}
    (walk : (if ctx.abort then pure (none, ctx)
      else conclude ctx (left.map stripResponse) respond : ProxyM σ ν _).Walks strides result) :
    Concludes respond ctx (settled ctx left) strides result := by
  unfold settled
  split at walk
  · rename_i stop
    rw [if_pos stop]
    exact Strand.walks_done.mp walk
  · rename_i goesOn
    rw [if_neg goesOn]
    exact walked_conclude walk

/-- **Between the hooks nothing is changed of a context but what is taken out of it to be used.**
The first hook is shown the context itself; what is done from there on is a `RequestFrame` of the context
that it left. -/
theorem request_framed (walk : (proxy.doRequest ctx respond).Walks strides result) :
    ∃ left hooking later, strides = hooking :: later ∧
      hooking.Leaves (.hook .beforeRequest ctx left) ∧ RequestFrame respond left later result := by
  unfold doRequest at walk
  rw [Strand.walks_bind] at walk
  obtain ⟨first, left, later, rfl, hooked, walk⟩ := walk
  obtain ⟨hooking, rfl, hooks⟩ := walked_outside hooked
  dsimp only at walk
  refine ⟨left, hooking, later, rfl, hooks, fun stop => ?_, fun goesOn skips => ?_,
    fun goesOn sends => ?_⟩
  · rw [if_pos stop] at walk
    exact Strand.walks_done.mp walk
  · rw [if_neg (Bool.eq_false_iff.mp goesOn), if_pos skips] at walk
    exact walked_conclude walk
  · rw [if_neg (Bool.eq_false_iff.mp goesOn), if_neg (Bool.eq_false_iff.mp sends)] at walk
    rw [Strand.walks_bind] at walk
    obtain ⟨taken, head, later, rfl, took, walk⟩ := walk
    obtain ⟨taking, rfl, takes⟩ := walked_takeHead took
    rw [Strand.walks_bind] at walk
    obtain ⟨sending, outcome, later, rfl, sent, walk⟩ := walk
    rw [Strand.walks_bind] at walk
    obtain ⟨returned, _, later, rfl, gave, walk⟩ := walk
    obtain ⟨returning, rfl, returns⟩ := walked_returnHead gave
    rw [Strand.walks_bind] at walk
    obtain ⟨viewed, ⟨last, kept⟩, later, rfl, reviewed, walk⟩ := walk
    obtain ⟨reviewing, rfl, reviews⟩ := walked_outside reviewed
    -- nothing of what the pooled head held goes out
    rw [outboundHead_eq] at sent
    exact ⟨taking, head, sending, outcome, returning, reviewing, last, kept, later, rfl, takes,
      walked_send sent, returns, reviews, walked_settled walk⟩

/-- A proxy whose hook puts a field for the next hop on a request, and whose transport fails. -/
def failing : Proxy Stage Unit :=
  { sample with transport := ⟨fun _ => return .error (.request "/" "connection reset")⟩ }

/-- The steps in which it sends a request with a body. -/
def failingSteps : List (Stride (Occurrence Unit) (ProxyState Stage Unit)) :=
  (failing.doRequest ⟨{ body := .full [1] }, (), none, none, false, false, false, false, none⟩
    fun ctx outcome => return (outcome, ctx)).strides
    (.initial ⟨{}, [], [], 0, ⟨⟨.p256, []⟩, 1⟩⟩ 1 (.ofSecs 1) none)

theorem request_framed_failing :
    ∃ stride ∈ failingSteps, ∃ shown outcome last left,
      stride.marks = [.reviewed shown outcome last left] ∧ shown.request.body = .empty ∧
        shown.request.headers.values .keepAlive = [⟨[1]⟩] := by
  have walk : Strand.Walks _ failingSteps _ := Strand.walks_run _ _
  obtain ⟨left, hooking, later, steps, hooks, framed⟩ := request_framed walk
  have first : failingSteps.head?.map Stride.marks = some hooking.marks := by rw [steps]; rfl
  rw [hooks.marks] at first
  cases first
  obtain ⟨taking, head, sending, outcome, returning, reviewing, last, kept, rest, rfl, -, -, -,
    reviews, -⟩ := framed.sent rfl rfl
  refine ⟨reviewing, ?_, _, outcome, last, kept, reviews.marks, rfl, rfl⟩
  rw [steps]
  simp

end Proxy

end Interceptor

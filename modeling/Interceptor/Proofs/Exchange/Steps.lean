/-
# Interceptor.Proofs.Exchange.Steps — what a step of a proxy may do

`ProxyStep` lists everything that a single step may do to the state of a proxy,
with the mark it leaves: what goes on inside an exchange, and the few things
that an exchange begins and ends with. `stepwise_attend`: attending to a request
does nothing else. What all of these keep is so at any time, however many
exchanges there are and in whatever order they do their steps.

`Composes.attend` goes through the text of an exchange once: what is so of all
that goes on inside one, of its beginning and of its end is so of the whole.

`authority_stands`: a proxy that decrypts does so for good, and one that does
not never will.
-/
import Interceptor.Proofs.Exchange.Quiet
import Interceptor.Strand.Weave

namespace Interceptor

set_option autoImplicit false

open Http Net

variable {σ ν α β : Type}

/-- What a step does. -/
inductive ProxyStep [EmptyCollection ν] :
    ProxyState σ ν → List (Occurrence ν) → ProxyState σ ν → Prop
  | inner {before after : ProxyState σ ν} {marks : List (Occurrence ν)}
      (step : InnerStep before marks after) : ProxyStep before marks after
  | enter (state : ProxyState σ ν) :
      ProxyStep state [.began] { state with inFlight := state.inFlight + 1 }
  | takeContext (state : ProxyState σ ν) :
      ProxyStep state [] { state with contexts := (state.contexts.get .empty).2 }
  | lastHook (state : ProxyState σ ν) (world : σ) (shown left : Context ν) :
      ProxyStep state [.hook .finish shown left] { state with world }
  | returnContext (state : ProxyState σ ν) (ctx : Context ν) :
      ProxyStep state [] { state with contexts := state.contexts.put ctx }
  | leave (state : ProxyState σ ν) :
      ProxyStep state [.retired] { state with inFlight := state.inFlight - 1 }

section Walk

variable [EmptyCollection ν]

/-- A property of computations that those inside an exchange have, and beginning an exchange and
ending one, and whatever is done one after another. -/
structure Composes (proxy : Proxy σ ν) (P : (α : Type) → ProxyM σ ν α → Prop) : Prop where
  inner : ∀ {α} {t : ProxyM σ ν α}, Inner t → P α t
  bind : ∀ {α β} {t : ProxyM σ ν α} {f : α → ProxyM σ ν β}, P α t → (∀ value, P β (f value)) →
    P β (t >>= f)
  begins : ∀ request remote upgrade, P (Exchange ν) (Exchange.begin request remote upgrade)
  finishes : ∀ exchange, P Unit (Exchange.finish proxy exchange)

namespace Composes

variable {proxy : Proxy σ ν} {P : (α : Type) → ProxyM σ ν α → Prop} (composes : Composes proxy P)

include composes

theorem giveUp (exchange : Exchange ν) (e : ProxyError) : P Unit (proxy.giveUp exchange e) :=
  composes.bind (composes.inner (proxy.inner_log e)) fun _ => composes.finishes exchange

theorem answerAll (exchange : Exchange ν) (client : Stream) (target : String)
    (requests : List Request) : P Unit (proxy.answerAll exchange client target requests) := by
  cases requests with
  | nil => exact composes.finishes exchange
  | cons first others =>
      refine composes.bind (composes.inner (proxy.inner_answerDecrypted _ _ _)) ?_
      rintro ⟨response, exchange⟩
      refine composes.bind (composes.inner (proxy.inner_respond _ _)) fun _ => ?_
      refine composes.bind (composes.finishes exchange) fun _ => ?_
      exact composes.inner (proxy.inner_turnAway _ _)

theorem runDecrypt (exchange : Exchange ν) (upgrade : UpgradeHandle) (target : String) :
    P Unit (proxy.runDecrypt exchange upgrade target) := by
  refine composes.bind (composes.inner (proxy.inner_leafFor target)) fun made => ?_
  split
  · exact composes.finishes exchange
  · exact composes.finishes exchange
  · exact composes.giveUp _ _
  -- there is a leaf: the client's stream is taken and encrypted
  refine composes.bind (composes.inner (inner_outside fun _ => rfl)) fun taken => ?_
  cases taken with
  | error source => exact composes.giveUp _ _
  | ok client =>
      refine composes.bind (composes.inner (inner_outside fun _ => rfl)) fun accepted => ?_
      split
      · exact composes.giveUp _ _
      · exact composes.giveUp _ _
      refine composes.bind (composes.inner (inner_outside fun _ => rfl)) ?_
      rintro ⟨requests, ended⟩
      refine composes.bind (composes.answerAll exchange _ target requests) fun _ => ?_
      exact composes.inner (proxy.inner_logEnd target ended)

theorem run (task : TunnelTask ν) : P Unit (proxy.run task) := by
  cases task with
  | relay exchange upgrade farEnd target =>
      refine composes.bind (composes.inner (proxy.inner_runRelay _ _ _ _)) fun exchange => ?_
      exact composes.finishes exchange
  | decrypt exchange upgrade target => exact composes.runDecrypt _ _ _

/-- Attending to a request is made of these. -/
theorem attend (request : Request) (remote : Option SocketAddr) (upgrade : Option UpgradeHandle) :
    P Unit (proxy.attend request remote upgrade) := by
  have serves : P _ (proxy.serve request remote upgrade) :=
    composes.bind (composes.begins _ _ _) fun exchange =>
      composes.inner (proxy.inner_dispatch exchange)
  refine composes.bind serves fun served => ?_
  cases served with
  | answered response =>
      refine composes.bind (composes.inner (inner_mark rfl)) fun _ => ?_
      exact composes.bind (composes.inner (inner_mark rfl)) fun _ => composes.finishes _
  | tunnelled response task =>
      exact composes.bind (composes.inner (inner_mark rfl)) fun _ => composes.run task
  | dropped exchange => exact composes.finishes exchange

end Composes

/-- Every step is one of these. -/
def Stepwise (t : ProxyM σ ν α) : Prop := t.Upholds (fun _ => True) ProxyStep fun _ => True

theorem Stepwise.bind {t : ProxyM σ ν α} {f : α → ProxyM σ ν β} (first : Stepwise t)
    (later : ∀ value, Stepwise (f value)) : Stepwise (t >>= f) :=
  Strand.Upholds.bind first fun value _ => later value

theorem Inner.stepwise {t : ProxyM σ ν α} (inner : Inner t) : Stepwise t :=
  Strand.Upholds.mono inner (fun _ _ _ step => .inner step) fun _ _ => trivial

theorem stepwise_begin (request : Request) (remote : Option SocketAddr)
    (upgrade : Option UpgradeHandle) :
    Stepwise (Exchange.begin request remote upgrade : ProxyM σ ν _) := by
  refine Stepwise.bind (fun state _ => ⟨.enter state, trivial⟩) fun _ => ?_
  exact Stepwise.bind (fun state _ => ⟨.takeContext state, trivial⟩) fun _ => trivial

theorem stepwise_finish (proxy : Proxy σ ν) (exchange : Exchange ν) :
    Stepwise (exchange.finish proxy) := by
  refine Stepwise.bind (fun state _ => ⟨.lastHook state _ exchange.ctx _, trivial⟩) fun ctx => ?_
  refine Stepwise.bind (fun state _ => ⟨.returnContext state ctx, trivial⟩) fun _ => ?_
  exact fun state _ => ⟨.leave state, trivial⟩

theorem composes_stepwise (proxy : Proxy σ ν) : Composes proxy fun _ t => Stepwise t where
  inner := Inner.stepwise
  bind := Stepwise.bind
  begins := stepwise_begin
  finishes := stepwise_finish proxy

/-- Attending to a request does nothing else. -/
theorem Proxy.stepwise_attend (proxy : Proxy σ ν) (request : Request) (remote : Option SocketAddr)
    (upgrade : Option UpgradeHandle) : Stepwise (proxy.attend request remote upgrade) :=
  (composes_stepwise proxy).attend request remote upgrade

/-! ## What every step keeps -/

/-- Whether the proxy decrypts. -/
def Decrypts (decrypts : Bool) (state : ProxyState σ ν) : Prop :=
  state.authority.isSome = decrypts

theorem ProxyStep.decrypts {before after : ProxyState σ ν} {marks : List (Occurrence ν)}
    (step : ProxyStep before marks after) : after.authority.isSome = before.authority.isSome := by
  cases step with
  | inner step =>
      cases step with
      | certified world authority outcome stands => exact stands.symm
      | _ => rfl
  | _ => rfl

/-- A proxy that decrypts does so for good, and one that does not never will. -/
theorem authority_stands (proxy : Proxy σ ν) (request : Request) (remote : Option SocketAddr)
    (upgrade : Option UpgradeHandle) (decrypts : Bool) :
    (proxy.attend request remote upgrade).Upholds (Decrypts decrypts)
      (fun _ _ after => Decrypts decrypts after) fun _ => True :=
  (proxy.stepwise_attend request remote upgrade).under fun _ _ _ standing step =>
    step.decrypts.trans standing

end Walk

end Interceptor

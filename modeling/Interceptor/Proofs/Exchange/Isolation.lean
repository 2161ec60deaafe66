/-
# Interceptor.Proofs.Exchange.Isolation — exchanges are kept apart

Contexts and request heads are used again, by one exchange after another. Still
an exchange over plain HTTP goes as it would on a proxy that has served nothing,
whatever the proxy has served before, whatever else it is serving, and whatever
the capacity of its pools: `http_isolated`.

Of course hooks and transports can tell one exchange about another. So this is
said of those that cannot: `Oblivious` ones give what they give for what they
are handed alone. With them every step of an exchange over plain HTTP gives the
same from every state, since what comes out of a pool has been reset.
-/
import Interceptor.Proofs.Exchange.InFlight
import Interceptor.Proofs.Exchange.Phases
import Interceptor.Strand.Steady

namespace Interceptor

set_option autoImplicit false

open Http Net

variable {σ ν α β : Type}

/-- What is given does not depend on the state. -/
def Blind (act : StateM σ α) : Prop :=
  ∀ world world', (act.run world).1 = (act.run world').1

/-- Hooks and a transport that give what they give for what they are handed alone. -/
structure Proxy.Oblivious (proxy : Proxy σ ν) : Prop where
  hook : ∀ which ctx, Blind (proxy.delegate.run which ctx)
  beforeResponse : ∀ ctx outcome, Blind (proxy.delegate.beforeResponse ctx outcome)
  parentProxy : ∀ request, Blind (proxy.delegate.parentProxy request)
  roundTrip : ∀ outbound, Blind (proxy.transport.roundTrip outbound)

/-- The state does not matter, as long as the request goes the way of plain HTTP. -/
abbrev Isolated (goal : α → Prop) (t : ProxyM σ ν α) : Prop :=
  t.Steady (fun o => o.takesHttp = true) goal

/-! ## Steps -/

theorem isolated_pure (value : α) : Isolated (fun _ => True) (pure value : ProxyM σ ν α) := trivial

theorem isolated_act {action : StateM (ProxyState σ ν) α} {marks : α → List (Occurrence ν)}
    (same : ∀ state state', (action.run state).1 = (action.run state').1) :
    Isolated (fun _ => True) (Strand.act action marks) := ⟨same, fun _ _ => trivial⟩

theorem isolated_outside {act : StateM σ α} (blind : Blind act) {mark : α → Occurrence ν}
    {goal : α → Prop} (gives : ∀ value, (mark value).takesHttp = true → goal value) :
    Isolated goal (outside act mark) :=
  ⟨fun state state' => blind state.world state'.world,
    fun _ allowed => gives _ (allowed _ (List.mem_singleton_self _))⟩

theorem isolated_begin [EmptyCollection ν] (request : Request) (remote : Option SocketAddr)
    (upgrade : Option UpgradeHandle) :
    Isolated (fun _ => True) (Exchange.begin request remote upgrade : ProxyM σ ν _) := by
  refine Strand.Steady.bind (isolated_act fun _ _ => rfl) fun _ _ => ?_
  refine Strand.Steady.bind (isolated_act fun state state' => ?_) fun ctx _ => isolated_pure _
  exact (reset_get state.contexts).trans (reset_get state'.contexts).symm

/-- A head that comes out of its pool is empty. -/
theorem isolated_takeHead :
    Isolated (fun _ => True) (Proxy.takeHead : ProxyM σ ν RequestHead) := by
  refine isolated_act fun state state' => ?_
  obtain ⟨_, here⟩ := state.heads.exists_reset_get {}
  obtain ⟨_, there⟩ := state'.heads.exists_reset_get {}
  exact here.trans there.symm

namespace Proxy

theorem isolated_log (proxy : Proxy σ ν) (e : ProxyError) : Isolated (fun _ => True) (proxy.log e) :=
  isolated_outside (fun _ _ => rfl) fun _ _ => trivial

theorem isolated_relayOrBadGateway (proxy : Proxy σ ν) (ctx : Context ν) (outcome : Except ProxyError Response) :
    Isolated (fun _ => True) (proxy.relayOrBadGateway ctx outcome) := by
  cases outcome with
  | ok response => exact isolated_pure _
  | error e => exact Strand.Steady.bind (proxy.isolated_log e) fun _ _ => isolated_pure _

theorem isolated_conclude (proxy : Proxy σ ν) (ctx : Context ν) (outcome : Except ProxyError Response) :
    Isolated (fun _ => True) (conclude ctx outcome proxy.relayOrBadGateway) := by
  refine Strand.Steady.bind (isolated_act fun _ _ => rfl) fun _ _ => ?_
  exact Strand.Steady.bind (proxy.isolated_relayOrBadGateway ctx outcome) fun _ _ => isolated_pure _

variable {proxy : Proxy σ ν} (oblivious : proxy.Oblivious)

include oblivious

theorem isolated_hook (which : Hook) (ctx : Context ν) :
    Isolated (fun left => (Occurrence.hook which ctx left).takesHttp = true)
      (proxy.hook which ctx) :=
  isolated_outside (oblivious.hook which ctx) fun _ allowed => allowed

theorem isolated_send (request : Request) : Isolated (fun _ => True) (proxy.send request) := by
  refine Strand.Steady.bind
    (isolated_outside (oblivious.parentProxy request) fun _ _ => trivial) fun answer _ => ?_
  cases answer with
  | error source => exact isolated_pure _
  | ok parent => exact isolated_outside (oblivious.roundTrip _) fun _ _ => trivial

theorem isolated_finish (exchange : Exchange ν) : Isolated (fun _ => True) (exchange.finish proxy) := by
  refine Strand.Steady.bind (isolated_hook oblivious .finish exchange.ctx) fun ctx _ => ?_
  refine Strand.Steady.bind (isolated_act fun _ _ => rfl) fun _ _ => ?_
  exact isolated_act fun _ _ => rfl

theorem isolated_doRequest (ctx : Context ν) :
    Isolated (fun _ => True) (proxy.doRequest ctx proxy.relayOrBadGateway) := by
  refine Strand.Steady.bind (isolated_hook oblivious .beforeRequest ctx) fun after _ => ?_
  split
  · exact isolated_pure _
  split
  · exact proxy.isolated_conclude _ _
  refine Strand.Steady.bind isolated_takeHead fun head _ => ?_
  refine Strand.Steady.bind (isolated_send oblivious _) fun outcome _ => ?_
  refine Strand.Steady.bind (isolated_act fun _ _ => rfl) fun _ _ => ?_
  refine Strand.Steady.bind (isolated_outside (oblivious.beforeResponse _ outcome)
    fun _ _ => trivial) fun ⟨last, left⟩ _ => ?_
  simp only
  split
  · exact isolated_pure _
  · exact proxy.isolated_conclude _ _

theorem isolated_relayHttp (exchange : Exchange ν) :
    Isolated (fun _ => True) (proxy.relayHttp exchange) := by
  unfold relayHttp
  split
  · exact Strand.Steady.bind (proxy.isolated_log _) fun _ _ => isolated_pure _
  · refine Strand.Steady.bind (isolated_doRequest oblivious _) fun ⟨answer, ctx⟩ _ => ?_
    cases answer with
    | none => exact isolated_pure _
    | some response => exact isolated_pure _

/-- The response carries the exchange. -/
theorem isolated_dispatch (exchange : Exchange ν) :
    Isolated (fun served => ∃ answer, served = .ofAnswer answer) (proxy.dispatch exchange) := by
  refine Strand.Steady.bind (isolated_hook oblivious .connect exchange.ctx) fun held _ => ?_
  split
  · exact ⟨_, rfl⟩
  refine Strand.Steady.bind (isolated_hook oblivious .auth held) fun left http => ?_
  split
  · exact ⟨_, rfl⟩
  rename_i grants
  -- the mark of the hook says where the request is routed
  have way : route left.request = .http := by
    simpa [Occurrence.takesHttp, grants] using http
  rw [way, map_eq_pure_bind]
  exact Strand.Steady.bind (isolated_relayHttp oblivious _) fun answer _ => ⟨answer, rfl⟩

theorem isolated_attend [EmptyCollection ν] (request : Request) (remote : Option SocketAddr)
    (upgrade : Option UpgradeHandle) :
    Isolated (fun _ => True) (proxy.attend request remote upgrade) := by
  have serves : Isolated (fun served => ∃ answer, served = .ofAnswer answer)
      (proxy.serve request remote upgrade) :=
    Strand.Steady.bind (isolated_begin _ _ _) fun exchange _ => isolated_dispatch oblivious exchange
  refine Strand.Steady.bind serves fun served carried => ?_
  obtain ⟨answer, rfl⟩ := carried
  refine Strand.Steady.bind (isolated_act fun _ _ => rfl) fun _ _ => ?_
  refine Strand.Steady.bind (isolated_act fun _ _ => rfl) fun _ _ => ?_
  exact isolated_finish oblivious _

end Proxy

/-! ## Exchanges among others -/

variable [EmptyCollection ν]

/-- The marks of an exchange on a proxy that has served nothing. -/
def Proxy.alone (proxy : Proxy σ ν) (world : σ) (capacity : Nat) (ttl : Duration)
    (authority : Option Certificate.CertificateAuthority) (inbound : Inbound) :
    List (Occurrence ν) :=
  (proxy.attendTo inbound).trace (.initial world capacity ttl authority)

/-- **Exchanges over plain HTTP are kept apart.** When hooks and transport give what they give for
what they are handed alone, an exchange leaves the marks that it would leave on a proxy that has
served nothing: after any history, and, however others go on beside it, up to where it is. -/
theorem Proxy.http_isolated {proxy : Proxy σ ν} (oblivious : proxy.Oblivious) (world fresh : σ)
    (capacity : Nat) (ttl : Duration) (authority : Option Certificate.CertificateAuthority)
    (inbound : Inbound) (http : TakesHttp (proxy.alone fresh capacity ttl authority inbound))
    (moves : List (Move Inbound)) :
    (proxy.attendTo inbound).trace
        (Weave.run proxy.attendTo (.initial world capacity ttl authority) moves).state =
      proxy.alone fresh capacity ttl authority inbound ∧
    ∀ thread ∈ (Weave.run proxy.attendTo (.initial world capacity ttl authority) moves).threads,
      thread.origin = inbound →
        thread.seen <+: proxy.alone fresh capacity ttl authority inbound ∧
        (thread.Ended → thread.seen = proxy.alone fresh capacity ttl authority inbound) := by
  have steady := isolated_attend oblivious inbound.request inbound.remote inbound.upgrade
  refine ⟨steady.yields http (Strand.yields_run _ _), ?_⟩
  rintro thread member rfl
  have way := Weave.reaches_of_run proxy.attendTo thread member
  have whole : thread.seen ++ thread.rest.trace (.initial fresh capacity ttl authority) =
      proxy.alone fresh capacity ttl authority thread.origin := steady.reaches http way _
  refine ⟨⟨_, whole⟩, fun ended => ?_⟩
  obtain ⟨value, there⟩ := Option.isSome_iff_exists.mp ended
  rw [Thread.rest_of_value? there] at whole
  rw [← whole]
  exact (List.append_nil _).symm

/-- A proxy whose hooks leave much behind on a context: a note, a response, and flags. -/
def untidy : Proxy Stage Notes where
  delegate := {
    connect := fun ctx => return { ctx with notes := { ctx.notes with count := some 1 } }
    beforeResponse := fun ctx outcome => return ({ ctx with response := some {} }, outcome)
    finish := fun ctx => return { ctx with abort := true, failFast := true, needMock := true } }
  transport := ⟨fun _ => return .ok {}⟩
  network := Stage.network

theorem untidy_oblivious : untidy.Oblivious where
  hook which _ := by
    cases which <;> exact fun _ _ => rfl
  beforeResponse _ _ _ _ := rfl
  parentProxy _ _ _ := rfl
  roundTrip _ _ _ := rfl

/-- A request to it. -/
def tidyInbound : Inbound :=
  ⟨{ uri := .absolute .http ⟨"b", by decide, by decide, by decide⟩ .slash }, none, none⟩

/-- One exchange has come to its end, a second is still open, and a third comes to its end. -/
def untidyMoves : List (Move Inbound) :=
  [.start tidyInbound, .start tidyInbound] ++ List.replicate 20 (.advance 0) ++
    List.replicate 5 (.advance 1) ++ .start tidyInbound :: List.replicate 20 (.advance 2)

def untidyStage : Stage := ⟨{}, [], [], 0, ⟨⟨.p256, []⟩, 1⟩⟩

theorem http_isolated_untidy :
    ∃ thread ∈ (Weave.run untidy.attendTo (.initial untidyStage 0 (.ofSecs 1) none)
        untidyMoves).threads,
      thread.Ended ∧ thread.seen = untidy.alone untidyStage 0 (.ofSecs 1) none tidyInbound := by
  obtain ⟨-, apart⟩ := Proxy.http_isolated untidy_oblivious untidyStage untidyStage 0 (.ofSecs 1)
    none tidyInbound (List.all_eq_true.mp rfl) untidyMoves
  have there : (Weave.run untidy.attendTo (.initial untidyStage 0 (.ofSecs 1) none)
    untidyMoves).threads[2]? = some ⟨tidyInbound, _, .done ()⟩ := rfl
  have member := List.mem_of_getElem? there
  exact ⟨_, member, rfl, (apart _ member rfl).2 rfl⟩

end Interceptor

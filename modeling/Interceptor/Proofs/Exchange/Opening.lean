/-
# Interceptor.Proofs.Exchange.Opening — the beginning and the end of every exchange

Every exchange begins in the same way: it goes on the count, and the first two
hooks are shown a context with the request and nothing else in it. Either of
them may stop it; otherwise it goes where its request is routed. `Opening` lists
these courses, with what the client is served.

It also ends in one of three ways. A response that carries the exchange is given
to the client and read, or dropped; a tunnel is granted and runs; or the task that
serves the request comes to its end, and the client is given nothing. `Ending` lists
them. `opening_of_attend`: nothing else happens.
-/
import Interceptor.Proofs.Exchange.Passage
import Interceptor.Tunnel

namespace Interceptor

set_option autoImplicit false

open Http Net

variable {σ ν : Type}

/-- The last hook and what takes an exchange off the count. -/
def finished (shown left : Context ν) : List (Occurrence ν) := [.hook .finish shown left, .retired]

/-- The end of an exchange whose response carries it. -/
def closing (response : Response) (shown left : Context ν) : List (Occurrence ν) :=
  [.answered response, .released, .hook .finish shown left, .retired]

/-- How serving a request begins, and what it is served with. -/
inductive Opening (proxy : Proxy σ ν) (rely : ProxyState σ ν → Prop) (shown : Context ν) :
    List (Occurrence ν) → Served ν → Prop
  | stoppedByConnect (left : Context ν) (stop : left.abort = true) :
      Opening proxy rely shown [.began, .hook .connect shown left]
        (.ofAnswer (Exchange.aborted ⟨left⟩))
  | stoppedByAuth (held left : Context ν) (connects : held.abort = false)
      (stop : left.abort = true) :
      Opening proxy rely shown [.began, .hook .connect shown held, .hook .auth held left]
        (.ofAnswer (Exchange.aborted ⟨left⟩))
  | http (held left : Context ν) (connects : held.abort = false) (grants : left.abort = false)
      (way : route left.request = .http) (later : List (Occurrence ν))
      (answer : Response × Exchange ν)
      (course : (proxy.relayHttp ⟨left⟩).YieldsUnder rely later answer) :
      Opening proxy rely shown
        (.began :: .hook .connect shown held :: .hook .auth held left :: later) (.ofAnswer answer)
  | tunnel (held left : Context ν) (connects : held.abort = false) (grants : left.abort = false)
      (way : route left.request = .tunnel) (later : List (Occurrence ν)) (served : Served ν)
      (course : (proxy.openTunnel ⟨left⟩).YieldsUnder rely later served) :
      Opening proxy rely shown
        (.began :: .hook .connect shown held :: .hook .auth held left :: later) served

/-- How an exchange ends. -/
inductive Ending (proxy : Proxy σ ν) (rely : ProxyState σ ν → Prop) :
    Served ν → List (Occurrence ν) → Prop
  | answered (response : GuardedResponse ν) (left : Context ν) :
      Ending proxy rely (.answered response)
        (closing response.shown response.body.exchange.ctx left)
  | tunnelled (response : Response) (task : TunnelTask ν) (later : List (Occurrence ν))
      (course : (proxy.run task).YieldsUnder rely later ()) :
      Ending proxy rely (.tunnelled response task) (.tunnelled response :: later)
  | dropped (exchange : Exchange ν) (left : Context ν) :
      Ending proxy rely (.dropped exchange) (finished exchange.ctx left)

/-- The context that the first hook is shown: the request, and nothing left by another. -/
def openingContext [EmptyCollection ν] (request : Request) (remote : Option SocketAddr)
    (upgrade : Option UpgradeHandle) : Context ν :=
  Context.empty.begin (fillAuthority request) remote upgrade

/-- A context that comes out of its pool is empty. -/
theorem reset_get [EmptyCollection ν] (pool : Pool (Context ν)) : (pool.get .empty).1 = .empty := by
  obtain ⟨item, same⟩ := pool.exists_reset_get .empty
  exact same

namespace Proxy

variable [EmptyCollection ν] {proxy : Proxy σ ν} {rely : ProxyState σ ν → Prop}
  {request : Request} {remote : Option SocketAddr} {upgrade : Option UpgradeHandle}

theorem opened_of_begin {seen : List (Occurrence ν)} {exchange : Exchange ν}
    (course : (Exchange.begin (fillAuthority request) remote upgrade : ProxyM σ ν _).Yields seen
      exchange) : seen = [.began] ∧ exchange = ⟨openingContext request remote upgrade⟩ := by
  refine ⟨seen_begin course, ?_⟩
  unfold Exchange.begin at course
  rw [Strand.yields_bind] at course
  obtain ⟨_, _, rest, -, -, course⟩ := course
  rw [Strand.yields_bind] at course
  obtain ⟨_, ctx, rest, -, took, course⟩ := course
  obtain ⟨-, rfl⟩ := Strand.yields_done.mp course
  obtain ⟨state, rfl, -⟩ := Strand.yields_act.mp took
  rw [openingContext, ← reset_get state.contexts]
  rfl

theorem opening_of_serve {seen : List (Occurrence ν)} {served : Served ν}
    (course : (proxy.serve request remote upgrade).YieldsUnder rely seen served) :
    Opening proxy rely (openingContext request remote upgrade) seen served := by
  unfold serve at course
  rw [Strand.yieldsUnder_bind] at course
  obtain ⟨beginning, exchange, rest, rfl, began, course⟩ := course
  obtain ⟨rfl, rfl⟩ := opened_of_begin began.yields
  unfold dispatch at course
  rw [Strand.yieldsUnder_bind] at course
  obtain ⟨connecting, held, rest, rfl, connected, course⟩ := course
  obtain rfl := seen_outside connected.yields
  split at course
  · rename_i stop
    obtain ⟨rfl, rfl⟩ := Strand.yieldsUnder_done.mp course
    exact .stoppedByConnect held stop
  rename_i connects
  rw [Bool.not_eq_true] at connects
  rw [Strand.yieldsUnder_bind] at course
  obtain ⟨granting, left, rest, rfl, granted, course⟩ := course
  obtain rfl := seen_outside granted.yields
  split at course
  · rename_i stop
    obtain ⟨rfl, rfl⟩ := Strand.yieldsUnder_done.mp course
    exact .stoppedByAuth held left connects stop
  rename_i grants
  rw [Bool.not_eq_true] at grants
  -- neither hook has stopped it, so it goes where it is routed
  split at course
  · rename_i way
    exact .tunnel held left connects grants way rest served course
  · rename_i way
    rw [map_eq_pure_bind, Strand.yieldsUnder_bind] at course
    obtain ⟨relaying, answer, last, rfl, relayed, course⟩ := course
    obtain ⟨rfl, rfl⟩ := Strand.yieldsUnder_done.mp course
    rw [List.append_nil]
    exact .http held left connects grants way relaying answer relayed

/-- Attending to a request is serving it, and then its ending. -/
theorem serving_of_attend {seen : List (Occurrence ν)}
    (course : (proxy.attend request remote upgrade).YieldsUnder rely seen ()) :
    ∃ first later served, (proxy.serve request remote upgrade).YieldsUnder rely first served ∧
      Ending proxy rely served later ∧ seen = first ++ later := by
  unfold attend at course
  rw [Strand.yieldsUnder_bind] at course
  obtain ⟨first, served, later, rfl, serving, course⟩ := course
  refine ⟨first, later, served, serving, ?_, rfl⟩
  cases served with
  | answered response =>
      simp only at course
      rw [Strand.yieldsUnder_bind] at course
      obtain ⟨answering, _, rest, rfl, answered, course⟩ := course
      obtain ⟨_, -, -, rfl⟩ := Strand.yieldsUnder_act.mp answered
      obtain ⟨left, rfl⟩ := seen_release course.yields
      exact .answered response left
  | tunnelled response task =>
      simp only at course
      rw [Strand.yieldsUnder_bind] at course
      obtain ⟨answering, _, rest, rfl, answered, course⟩ := course
      obtain ⟨_, -, -, rfl⟩ := Strand.yieldsUnder_act.mp answered
      exact .tunnelled response task rest course
  | dropped exchange =>
      obtain ⟨left, rfl⟩ := seen_finish course.yields
      exact .dropped exchange left

/-- It is its opening, and then its ending. -/
theorem opening_of_attend {seen : List (Occurrence ν)}
    (course : (proxy.attend request remote upgrade).YieldsUnder rely seen ()) :
    ∃ first later served,
      Opening proxy rely (openingContext request remote upgrade) first served ∧
      Ending proxy rely served later ∧ seen = first ++ later := by
  obtain ⟨first, later, served, serving, ends, rfl⟩ := serving_of_attend course
  exact ⟨first, later, served, opening_of_serve serving, ends, rfl⟩

end Proxy

end Interceptor

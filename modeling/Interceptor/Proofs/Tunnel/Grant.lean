/-
# Interceptor.Proofs.Tunnel.Grant — which requests are granted a tunnel

A request that is routed as a tunnel is granted one or refused. `Hindrance` lists
what may stand in its way, with the marks that it leaves, the error that is
logged and the status the client is given. `Grant` lists the grants beside it: a
tunnel to be decrypted, a raw one to the target, and a raw one through a parent
that has already agreed to it. The one request that is neither granted a tunnel nor
refused is one for whose parent a lookup has overrun the clock. `grant_of_openTunnel` reads them off the text of
`openTunnel`, for a proxy that decrypts and for one that does not.
-/
import Interceptor.Proofs.Exchange.Answer
import Interceptor.Proofs.Exchange.InFlight
import Interceptor.Proofs.Exchange.Opening
import Interceptor.Proofs.Net.Dialing

namespace Interceptor

set_option autoImplicit false

open Http Net

variable {σ ν : Type}

/-- A target that is routed as a tunnel has an address. -/
theorem authorityWithPort_of_tunnel {request : Request} (way : route request = .tunnel) :
    ∃ addr, authorityWithPort request.uri 443 = .ok addr := by
  obtain ⟨authority, there⟩ := exists_authority_of_tunnel way
  exact ⟨_, authorityWithPort_of_authority there 443⟩

/-- A connection is not made for want of one, or of time. -/
theorem Network.dial_error {network : Network σ} {cache : LookupCache} {addr : String}
    {timeout : Duration} {world : σ} {e : ProxyError}
    (failed : ((network.dial cache addr timeout).run world).1.1 = some (.error e)) :
    (∃ source, e = .connect addr source) ∨ e = .connectTimeout addr timeout := by
  rcases dialFailure_of_dial failed with ⟨-, rfl⟩ | ⟨host, port, -, failure⟩
  · exact .inl ⟨_, rfl⟩
  cases failure with
  | unresolved source why => exact .inl ⟨source, rfl⟩
  | unreached ip world source tried => exact .inl ⟨source, rfl⟩
  | late ip world tried => exact .inr rfl

/-! ## What stands in the way -/

/-- How a parent is asked for a tunnel. -/
inductive ParentCourse (parent : Uri) (goal : String) :
    List (Occurrence ν) → Option (Except ProxyError Stream) → Prop
  | nowhere (e : ProxyError) (misnamed : authorityWithPort parent 80 = .error e) :
      ParentCourse parent goal [] (some (.error e))
  | unreached (addr : String) (named : authorityWithPort parent 80 = .ok addr) (e : ProxyError)
      (unrefused : ∀ target status, e ≠ .parentRefused target status) :
      ParentCourse parent goal [.dialed addr (some (.error e))] (some (.error e))
  /-- The lookup of the parent overruns the clock. -/
  | overran (addr : String) (named : authorityWithPort parent 80 = .ok addr) :
      ParentCourse parent goal [.dialed addr none] none
  | broken (addr : String) (named : authorityWithPort parent 80 = .ok addr) (stream : Stream)
      (source : String) :
      ParentCourse parent goal
        [.dialed addr (some (.ok stream)), .tunnelAsked goal (.error (.broken source))]
        (some (.error (.request goal source)))
  | declined (addr : String) (named : authorityWithPort parent 80 = .ok addr) (stream : Stream)
      (status : Status) :
      ParentCourse parent goal
        [.dialed addr (some (.ok stream)), .tunnelAsked goal (.error (.refused status))]
        (some (.error (.parentRefused goal status)))
  | granted (addr : String) (named : authorityWithPort parent 80 = .ok addr)
      (stream tunnel : Stream) :
      ParentCourse parent goal
        [.dialed addr (some (.ok stream)), .tunnelAsked goal (.ok tunnel)] (some (.ok tunnel))

/-- The status that a client is refused with: a parent's own, if it was a parent that refused. -/
def refusal : ProxyError → Status
  | .parentRefused _ status => status
  | _ => .badGateway

/-- What keeps a client from a tunnel: the marks up to it, and the error that is logged. -/
inductive Hindrance (decrypts : Bool) (ctx : Context ν) : List (Occurrence ν) → ProxyError → Prop
  /-- The client's connection cannot be taken over. -/
  | unsupported (held : ctx.upgrade = none) :
      Hindrance decrypts ctx [] (.hijackUnsupported (tunnelTarget ctx.request.uri))
  /-- No parent can be named. -/
  | unparented (held : ctx.upgrade.isSome = true) (source : String) :
      Hindrance decrypts ctx [.parentAsked ctx.request (.error source)]
        (.parentProxy (tunnelTarget ctx.request.uri) source)
  /-- The parent that is named grants no tunnel. -/
  | unvouched (held : ctx.upgrade.isSome = true) (raw : decrypts = false) (parent : Uri) (goal : String)
      (marks : List (Occurrence ν)) (e : ProxyError)
      (asked : ParentCourse parent goal marks (some (.error e)))
      (aimed : authorityWithPort ctx.request.uri 443 = .ok goal) :
      Hindrance decrypts ctx (.parentAsked ctx.request (.ok (some parent)) :: marks) e

/-- How the far end of a raw tunnel is decided on: it is the target itself, or a tunnel that the
parent has agreed to. -/
inductive Towards (asked : Request) : FarEnd → List (Occurrence ν) → Prop
  | direct (addr : String) (aimed : authorityWithPort asked.uri 443 = .ok addr) :
      Towards asked (.direct addr) [.parentAsked asked (.ok none)]
  | parent (parent : Uri) (addr : String) (named : authorityWithPort parent 80 = .ok addr)
      (stream : Stream) (goal : String) (tunnel : Stream)
      (aimed : authorityWithPort asked.uri 443 = .ok goal) :
      Towards asked (.parent tunnel) [.parentAsked asked (.ok (some parent)),
        .dialed addr (some (.ok stream)), .tunnelAsked goal (.ok tunnel)]

/-- What becomes of a request for a tunnel. -/
inductive Grant (decrypts : Bool) (ctx : Context ν) : List (Occurrence ν) → Served ν → Prop
  | refused (marks : List (Occurrence ν)) (e : ProxyError)
      (hindered : Hindrance decrypts ctx marks e) :
      Grant decrypts ctx (marks ++ [.logged e])
        (.ofAnswer (.ofStatus (refusal e), ⟨ctx.takeUpgrade.2⟩))
  /-- The task that serves the request ends with the lookup of the parent. -/
  | dropped (held : ctx.upgrade.isSome = true) (raw : decrypts = false) (parent : Uri) (addr : String)
      (named : authorityWithPort parent 80 = .ok addr) :
      Grant decrypts ctx [.parentAsked ctx.request (.ok (some parent)), .dialed addr none]
        (.dropped ⟨ctx.takeUpgrade.2⟩)
  | decrypted (upgrade : UpgradeHandle) (held : ctx.upgrade = some upgrade)
      (authorized : decrypts = true) (parent : Option Uri) :
      Grant decrypts ctx [.parentAsked ctx.request (.ok parent)] (.tunnelled connectionEstablished
        (.decrypt ⟨ctx.takeUpgrade.2⟩ upgrade (tunnelTarget ctx.request.uri)))
  | raw (upgrade : UpgradeHandle) (held : ctx.upgrade = some upgrade) (raw : decrypts = false)
      (farEnd : FarEnd) (marks : List (Occurrence ν)) (towards : Towards ctx.request farEnd marks) :
      Grant decrypts ctx marks (.tunnelled connectionEstablished
        (.relay ⟨ctx.takeUpgrade.2⟩ upgrade farEnd (tunnelTarget ctx.request.uri)))

namespace Proxy

variable {proxy : Proxy σ ν}

/-- A dial leaves its one mark, and no parent refuses it. -/
theorem seen_dial {addr : String} {seen : List (Occurrence ν)}
    {outcome : Option (Except ProxyError Stream)} (course : (proxy.dial addr).Yields seen outcome) :
    seen = [.dialed addr outcome] ∧
      ∀ target status, outcome ≠ some (.error (.parentRefused target status)) := by
  obtain ⟨state, rfl, rfl⟩ := Strand.yields_act.mp course
  refine ⟨rfl, fun target status refused => ?_⟩
  rcases Network.dial_error refused with ⟨source, other⟩ | other
  · exact nomatch other
  · exact nomatch other

theorem seen_refused {exchange : Exchange ν} {e : ProxyError} {status : Status}
    {seen : List (Occurrence ν)} {served : Served ν}
    (course : (Served.ofAnswer <$> proxy.refuse exchange e status).Yields seen served) :
    seen = [.logged e] ∧ served = .ofAnswer (.ofStatus status, exchange) := by
  rw [map_eq_pure_bind, Strand.yields_bind] at course
  obtain ⟨refusing, answer, rest, rfl, refused, course⟩ := course
  obtain ⟨rfl, rfl⟩ := seen_refuse refused
  obtain ⟨rfl, rfl⟩ := Strand.yields_done.mp course
  exact ⟨rfl, rfl⟩

theorem parentCourse_of_dialParent {parent : Uri} {goal : String} {seen : List (Occurrence ν)}
    {outcome : Option (Except ProxyError Stream)}
    (course : (proxy.dialParent parent goal).Yields seen outcome) :
    ParentCourse parent goal seen outcome := by
  unfold dialParent at course
  split at course
  · rename_i e misnamed
    obtain ⟨rfl, rfl⟩ := Strand.yields_done.mp course
    exact .nowhere e misnamed
  rename_i addr named
  rw [Strand.yields_bind] at course
  obtain ⟨dialing, dialed, rest, rfl, dial, course⟩ := course
  obtain ⟨rfl, unrefused⟩ := seen_dial dial
  rcases dialed with _ | (e | stream)
  · obtain ⟨rfl, rfl⟩ := Strand.yields_done.mp course
    exact .overran addr named
  · obtain ⟨rfl, rfl⟩ := Strand.yields_done.mp course
    exact .unreached addr named e fun target status same => unrefused target status (by rw [same])
  · simp only at course
    rw [Strand.yields_bind] at course
    obtain ⟨asking, asked, rest, rfl, ask, course⟩ := course
    obtain rfl := seen_outside ask
    rcases asked with (source | status) | tunnel
    · obtain ⟨rfl, rfl⟩ := Strand.yields_done.mp course
      exact .broken addr named stream source
    · obtain ⟨rfl, rfl⟩ := Strand.yields_done.mp course
      exact .declined addr named stream status
    · obtain ⟨rfl, rfl⟩ := Strand.yields_done.mp course
      exact .granted addr named stream tunnel

/-- A request for a tunnel is granted one, or refused for what stands in its way, or dropped. -/
theorem grant_of_openTunnel {decrypts : Bool} {ctx : Context ν}
    (way : route ctx.request = .tunnel) {seen : List (Occurrence ν)} {served : Served ν}
    (course : (proxy.openTunnel ⟨ctx⟩).YieldsUnder (Decrypts decrypts) seen served) :
    Grant decrypts ctx seen served := by
  obtain ⟨goal, address⟩ := authorityWithPort_of_tunnel way
  unfold openTunnel at course
  simp only [Context.takeUpgrade] at course
  cases held : ctx.upgrade with
  | none =>
      simp only [held] at course
      obtain ⟨rfl, rfl⟩ := seen_refused course.yields
      exact .refused [] _ (.unsupported held)
  | some upgrade =>
      have handle : ctx.upgrade.isSome = true := by rw [held]; rfl
      simp only [held] at course
      rw [Strand.yieldsUnder_bind] at course
      obtain ⟨asking, answer, rest, rfl, asked, course⟩ := course
      obtain rfl := seen_outside asked.yields
      cases answer with
      | error source =>
          obtain ⟨rfl, rfl⟩ := seen_refused course.yields
          exact .refused [_] _ (.unparented handle source)
      | ok parent =>
          simp only at course
          -- others may have taken steps since the start, but none that installs or removes an authority
          rw [Strand.yieldsUnder_bind] at course
          obtain ⟨looking, state, rest, rfl, looked, course⟩ := course
          obtain ⟨_, relied, rfl, rfl⟩ := Strand.yieldsUnder_act.mp looked
          cases decrypts with
          | true =>
              rw [Decrypts] at relied
              rw [if_pos relied] at course
              obtain ⟨rfl, rfl⟩ := Strand.yieldsUnder_done.mp course
              exact .decrypted upgrade held rfl parent
          | false =>
              rw [Decrypts, ← Bool.not_eq_true] at relied
              rw [if_neg relied, address] at course
              cases parent with
              | none =>
                  obtain ⟨rfl, rfl⟩ := Strand.yieldsUnder_done.mp course
                  exact .raw upgrade held rfl _ _ (.direct goal address)
              | some parent =>
                  simp only at course
                  rw [Strand.yieldsUnder_bind] at course
                  obtain ⟨dialing, dialed, rest, rfl, dial, course⟩ := course
                  have asked := parentCourse_of_dialParent dial.yields
                  rcases dialed with _ | (e | tunnel)
                  · obtain ⟨rfl, rfl⟩ := Strand.yieldsUnder_done.mp course
                    cases asked with
                    | overran addr named => exact .dropped handle rfl parent addr named
                  · obtain ⟨rfl, rfl⟩ := seen_refused course.yields
                    exact .refused (_ :: dialing) e (.unvouched handle rfl parent goal dialing e
                      asked address)
                  · obtain ⟨rfl, rfl⟩ := Strand.yieldsUnder_done.mp course
                    cases asked with
                    | granted addr named stream tunnel =>
                        exact .raw upgrade held rfl _ _
                          (.parent parent addr named stream goal tunnel address)

end Proxy

/-! ## Exchanges that are tunnels -/

/-- The context that the hook after the connection left. -/
def authorized (seen : List (Occurrence ν)) : Option (Context ν) :=
  seen.findSome? fun
    | .hook .auth _ left => some left
    | _ => none

/-- The marks of an exchange that both hooks let through. -/
def letThrough (shown held left : Context ν) : List (Occurrence ν) :=
  [.began, .hook .connect shown held, .hook .auth held left]

/-- Among other exchanges, one that both hooks let through and that is routed as a tunnel is granted
one or refused: when it has come to its end, and before that if it is carried on. -/
theorem Proxy.tunnel_of_run [EmptyCollection ν] {proxy : Proxy σ ν} {decrypts : Bool}
    {state : ProxyState σ ν} (standing : Decrypts decrypts state) {moves : List (Move Inbound)}
    {thread : Attendance σ ν} (member : thread ∈ (Weave.run proxy.attendTo state moves).threads)
    {left : Context ν} (auth : authorized thread.seen = some left)
    (grants : left.abort = false) (way : route left.request = .tunnel) :
    ∃ rest shown held marks served later, Grant decrypts left marks served ∧
      Ending proxy (Decrypts decrypts) served later ∧
      thread.seen ++ rest = letThrough shown held left ++ marks ++ later ∧
      (thread.Ended → rest = []) := by
  obtain ⟨rest, value, course, ended⟩ := Weave.yieldsUnder_of_run proxy.attendTo standing
    (fun inbound => authority_stands proxy inbound.request inbound.remote inbound.upgrade decrypts)
    member
  obtain ⟨first, later, served, opens, ends, whole⟩ := opening_of_attend course
  replace auth : authorized (thread.seen ++ rest) = some left := by
    rw [authorized, List.findSome?_append, show List.findSome? _ thread.seen = some left from auth]
    rfl
  rw [whole] at auth
  cases opens with
  | stoppedByConnect after stop =>
      cases ends
      exact nomatch auth
  | stoppedByAuth held after connects stop =>
      cases auth
      rw [grants] at stop
      exact nomatch stop
  | http held after connects goesOn plain relaying answer relayed =>
      cases auth
      rw [way] at plain
      exact nomatch plain
  | tunnel held after connects goesOn tunnels opening served opened =>
      cases auth
      exact ⟨rest, _, held, opening, served, later, grant_of_openTunnel way opened, ends, whole, ended⟩

end Interceptor

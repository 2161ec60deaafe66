/-
# Interceptor.Proofs.Tunnel.TargetAddress — the address of a tunnel's target

The host and the port of a target are decided on in four places: where a request is routed, in
the address the hooks see, in the address that is dialed or that a parent is asked for, and
where that address is split again. Each fills in a default in its own way. What the routing
condition says of a target that goes to the tunnel is enough to make them agree: it is https,
or its port is 443.

* `port_of_tunnel`: so the same port stands for a missing one everywhere;
* `Authority.split?_addr`: what is put together from a host and a port is split into them again;
* `aimed_of_ending`: a tunnel is aimed at that address and no other, on every course it may take;
* `tunnel_address`: all of it, for every request that goes to the tunnel.
-/
import Interceptor.Proofs.Http.AuthorityText
import Interceptor.Proofs.Net.AddressSpelling
import Interceptor.Proofs.Tunnel.Decryption
import Interceptor.Proofs.Tunnel.Raw

namespace Interceptor

set_option autoImplicit false

open Text Unsigned Net Http HostPort

variable {σ ν : Type}

/-! ## One text for the address -/

/-- What goes to the tunnel is https, or has the port of https. -/
theorem https_or_port_of_tunnel {request : Request} (way : route request = .tunnel) :
    request.uri.isHttps = true ∨ request.uri.port? = some 443 := by
  unfold route at way
  split at way
  · rename_i tunnelled
    rw [Bool.or_eq_true, Bool.and_eq_true, decide_eq_true_eq, decide_eq_true_eq] at tunnelled
    exact tunnelled.imp_right And.right
  · exact nomatch way

/-- Whichever default is put in the place of a missing port, it comes to 443. -/
theorem port_of_tunnel {request : Request} (way : route request = .tunnel) :
    request.uri.port?.getD (if request.uri.isHttps then 443 else 80) = request.uri.port?.getD 443 ∧
      request.uri.port?.getD (impliedPort request.uri 443) = request.uri.port?.getD 443 := by
  rcases https_or_port_of_tunnel way with https | port
  · have scheme : request.uri.scheme? = some .https := by simpa [Uri.isHttps] using https
    simp only [https, if_true, impliedPort, scheme, and_self]
  · simp only [port, Option.getD_some, and_self]

/-- The address that is dialed is the one the hooks see. -/
theorem authorityWithPort_eq_addr {ctx : Context ν} (way : route ctx.request = .tunnel) :
    authorityWithPort ctx.request.uri 443 = .ok ctx.addr := by
  obtain ⟨authority, there⟩ := exists_authority_of_tunnel way
  obtain ⟨shown, dialed⟩ := port_of_tunnel way
  have port : authority.port? = ctx.request.uri.port? := by rw [Uri.port?, there, Option.bind_some]
  rw [authorityWithPort_of_authority there, port, dialed, Context.addr, shown, Uri.host?, there]
  rfl

/-! ## Its two parts -/

namespace Http.Authority

variable (a : Authority)

theorem port?_le {n : Nat} (read : a.port? = some n) : n ≤ portBound := by
  obtain ⟨cut, -, taken⟩ := Option.bind_eq_some_iff.mp read
  exact (readPort?_eq_some_iff.mp taken).2

/-- A host and a port are put together to a spelling of the host without its brackets. -/
theorem spelled_addr (port : String) :
    Spelled (String.ofList a.bareHost) port (a.host ++ ":" ++ port) := by
  cases a.hostForm with
  | bracketed host clean =>
      have whole : a.host ++ ":" ++ port = "[" ++ String.ofList a.bareHost ++ "]:" ++ port := by
        rw [← String.toList_inj, Authority.host, host]
        simp
      rw [whole]
      exact .bracketed
  | plain host colonless bare mark =>
      rw [Authority.host, host]
      exact .plain (by rwa [String.toList_ofList]) (by rwa [String.toList_ofList])

/-- They are split again. -/
theorem split?_addr {port : Nat} (small : port ≤ portBound) :
    split? (a.host ++ ":" ++ toString port) = some (String.ofList a.bareHost, port) :=
  split?_eq_some_iff.mpr ⟨toString port, a.spelled_addr _, portText_toString small⟩

end Http.Authority

theorem split?_addr_of_tunnel {ctx : Context ν} (way : route ctx.request = .tunnel)
    {authority : Authority} (there : ctx.request.uri.authority? = some authority) :
    split? ctx.addr = some (String.ofList authority.bareHost, ctx.request.uri.port?.getD 443) := by
  have small : ctx.request.uri.port?.getD 443 ≤ portBound := by
    rw [Uri.port?, there, Option.bind_some]
    cases read : authority.port? with
    | none => decide
    | some n => exact authority.port?_le read
  have text : ctx.addr = authority.host ++ ":" ++ toString (ctx.request.uri.port?.getD 443) := by
    rw [Context.addr, (port_of_tunnel way).1, Uri.host?, there]
    rfl
  rw [text, authority.split?_addr small]

/-! ## Where a tunnel is aimed -/

/-- A connection of a tunnel goes to its address, or to a parent that is asked for the way there. -/
def Occurrence.AimedAt (addr : String) (parent : Option Uri) : Occurrence ν → Prop
  | .dialed given _ =>
    parent = none ∧ given = addr ∨ ∃ uri, parent = some uri ∧ authorityWithPort uri 80 = .ok given
  | .tunnelAsked goal _ => goal = addr
  | _ => True

/-- What every tunnel is aimed at. -/
structure Aimed (left : Context ν) (seen : List (Occurrence ν)) : Prop where
  /-- A parent is asked for the address the hooks see. -/
  asked : ∀ goal outcome, .tunnelAsked goal outcome ∈ seen → goal = left.addr
  /-- That address is dialed, or the one of the parent. -/
  dialed : ∀ addr outcome, .dialed addr outcome ∈ seen →
    ∃ parent, .parentAsked left.request (.ok parent) ∈ seen ∧
      (parent = none ∧ addr = left.addr ∨
        ∃ uri, parent = some uri ∧ authorityWithPort uri 80 = .ok addr)

section Courses

variable {left ctx last : Context ν} {marks later seen : List (Occurrence ν)} {parent : Option Uri}
  {addr : String}

theorem Aimed.of_parent (named : .parentAsked left.request (.ok parent) ∈ seen)
    (aimed : ∀ o ∈ seen, o.AimedAt left.addr parent) : Aimed left seen where
  asked _ _ member := aimed _ member
  dialed _ _ member := ⟨parent, named, aimed _ member⟩

/-- Where nothing is dialed, nothing is dialed elsewhere. -/
theorem Aimed.of_unread (unread : ∀ o ∈ seen, o.bypasses = false) : Aimed left seen where
  asked _ _ member := nomatch unread _ member
  dialed _ _ member := nomatch unread _ member

/-- The marks around a tunnel's own are none of a connection. -/
theorem Aimed.of_parts {front back : List (Occurrence ν)}
    (named : .parentAsked left.request (.ok parent) ∈ marks)
    (before : ∀ o ∈ front, o.bypasses = false) (own : ∀ o ∈ marks, o.AimedAt left.addr parent)
    (after : ∀ o ∈ back, o.bypasses = false) : Aimed left (front ++ marks ++ back) := by
  have idle : ∀ o : Occurrence ν, o.bypasses = false → o.AimedAt left.addr parent := by
    intro o unread
    cases o <;> trivial
  have asked : .parentAsked left.request (.ok parent) ∈ front ++ marks ++ back := by simp [named]
  refine .of_parent asked ?_
  simp only [List.forall_mem_append]
  exact ⟨⟨fun o member => idle o (before o member), own⟩, fun o member => idle o (after o member)⟩

theorem ParentCourse.aimed {uri : Uri} {outcome : Option (Except ProxyError Stream)}
    (course : ParentCourse uri addr marks outcome) : ∀ o ∈ marks, o.AimedAt addr (some uri) := by
  cases course <;> simp [Occurrence.AimedAt, *]

theorem Hindrance.aimed {decrypts : Bool} {e : ProxyError} (hindered : Hindrance decrypts left marks e)
    (address : authorityWithPort left.request.uri 443 = .ok left.addr)
    (shown held after : Context ν) (response : Response) :
    Aimed left (letThrough shown held left ++ (marks ++ [.logged e]) ++
      closing response last after) := by
  cases hindered with
  | unsupported none => exact .of_unread (by simp [letThrough, closing, Occurrence.bypasses])
  | unparented there source => exact .of_unread (by simp [letThrough, closing, Occurrence.bypasses])
  | unvouched there raw uri goal marks e course aimed =>
      obtain rfl : goal = left.addr := Except.ok.inj (aimed.symm.trans address)
      have own := course.aimed
      have asked : .parentAsked left.request (.ok (some uri)) ∈
          .parentAsked left.request (.ok (some uri)) :: marks ++ [.logged e] := by simp
      refine .of_parts asked ?_ ?_ ?_
      · simp [letThrough, Occurrence.bypasses]
      · simp only [List.forall_mem_append, List.forall_mem_cons]
        exact ⟨⟨trivial, own⟩, trivial, List.forall_mem_nil _⟩
      · simp [closing, Occurrence.bypasses]

/-- What a raw tunnel leads to is its address, or a parent has granted the way there. -/
def FarEnd.LeadsTo (addr : String) (parent : Option Uri) : FarEnd → Prop
  | .direct given => parent = none ∧ given = addr
  | .parent _ => True

theorem Towards.aimed {asked : Request} {farEnd : FarEnd} (towards : Towards asked farEnd marks)
    (address : authorityWithPort asked.uri 443 = .ok addr) :
    ∃ parent, .parentAsked asked (.ok parent) ∈ marks ∧ (∀ o ∈ marks, o.AimedAt addr parent) ∧
      farEnd.LeadsTo addr parent := by
  cases towards with
  | direct given aimed =>
      obtain rfl : given = addr := Except.ok.inj (aimed.symm.trans address)
      exact ⟨none, by simp, by simp [Occurrence.AimedAt], rfl, rfl⟩
  | parent uri given named stream goal tunnel aimed =>
      obtain rfl : goal = addr := Except.ok.inj (aimed.symm.trans address)
      exact ⟨some uri, by simp, by simp [Occurrence.AimedAt, named], trivial⟩

theorem Reached.aimed {farEnd : FarEnd} (reached : Reached farEnd marks)
    (leads : farEnd.LeadsTo addr parent) : ∀ o ∈ marks, o.AimedAt addr parent := by
  cases reached with
  | direct given server => exact List.forall_mem_singleton.mpr (.inl leads)
  | parent tunnel => exact List.forall_mem_nil _

theorem RelayCourse.aimed {farEnd : FarEnd} {target : String}
    (course : RelayCourse ctx farEnd target later last) (leads : farEnd.LeadsTo addr parent) :
    ∀ o ∈ later, o.AimedAt addr parent := by
  cases course with
  | lost source => simp [Occurrence.AimedAt]
  | unreached client given direct e =>
      subst direct
      have dialed : (Occurrence.dialed given (some (.error e)) : Occurrence ν).AimedAt addr parent :=
        .inl leads
      simp only [List.forall_mem_cons]
      exact ⟨trivial, dialed, trivial, List.forall_mem_nil _⟩
  | overran client given direct =>
      subst direct
      have dialed : (Occurrence.dialed given none : Occurrence ν).AimedAt addr parent := .inl leads
      simp only [List.forall_mem_cons]
      exact ⟨trivial, dialed, List.forall_mem_nil _⟩
  | relayed client reaching reached held last kept outcome =>
      have way := reached.aimed leads
      have ends : ∀ o ∈ (transferEnd target outcome : List (Occurrence ν)), o.AimedAt addr parent := by
        cases outcome <;> simp [transferEnd, Occurrence.AimedAt]
      simp only [announcement, List.cons_append, List.forall_mem_cons, List.forall_mem_append]
      exact ⟨trivial, ⟨way, trivial, trivial, List.forall_mem_nil _⟩, trivial, ends⟩

/-- A tunnel is aimed at its address, whether it is refused, decrypted or relayed. -/
theorem aimed_of_ending [EmptyCollection ν] {proxy : Proxy σ ν} {decrypts : Bool} {served : Served ν}
    (way : route left.request = .tunnel) (grant : Grant decrypts left marks served)
    (ends : Ending proxy (Decrypts decrypts) served later) (shown held : Context ν) :
    Aimed left (letThrough shown held left ++ marks ++ later) := by
  have address := authorityWithPort_eq_addr way
  cases grant with
  | refused marks e hindered =>
      cases ends with
      | answered response after => exact hindered.aimed address shown held after _
  | dropped there raw uri addr named =>
      cases ends with
      | dropped exchange after =>
          refine .of_parts (List.mem_cons_self ..) ?_ ?_ ?_
          · simp [letThrough, Occurrence.bypasses]
          · simp [Occurrence.AimedAt, named]
          · simp [finished, Occurrence.bypasses]
  | decrypted handle there decrypts parent =>
      subst decrypts
      cases ends with
      | tunnelled response task later course =>
          have kept := (Proxy.decryptCourse_of_runDecrypt course).intercepted shown held left
            left.request parent
          exact .of_unread (by simpa [granted] using kept.unread)
  | raw handle there raw farEnd marks towards =>
      obtain ⟨parent, named, granting, leads⟩ := towards.aimed address
      cases ends with
      | tunnelled response task later course =>
          unfold Proxy.run at course
          rw [Strand.yieldsUnder_bind] at course
          obtain ⟨relaying, last, rest, rfl, relayed, course⟩ := course
          obtain ⟨after, rfl⟩ := seen_finish course.yields
          have going := (Proxy.relayCourse_of_runRelay relayed.yields).aimed leads
          have own : ∀ o ∈ marks ++ .tunnelled connectionEstablished :: relaying,
              o.AimedAt left.addr parent := by
            simp only [List.forall_mem_append, List.forall_mem_cons]
            exact ⟨granting, trivial, going⟩
          have kept : Aimed left (letThrough shown held left ++
              (marks ++ .tunnelled connectionEstablished :: relaying) ++ finished last.ctx after) :=
            .of_parts (List.mem_append_left _ named) (by simp [letThrough, Occurrence.bypasses]) own
              (by simp [finished, Occurrence.bypasses])
          simpa [finished] using kept

end Courses

/-- Among other exchanges, a tunnel that both hooks let through is aimed at the address they left. -/
theorem Proxy.aimed_of_run [EmptyCollection ν] {proxy : Proxy σ ν} {state : ProxyState σ ν}
    {moves : List (Move Inbound)} {thread : Attendance σ ν}
    (member : thread ∈ (Weave.run proxy.attendTo state moves).threads) {left : Context ν}
    (auth : authorized thread.seen = some left) (grants : left.abort = false)
    (way : route left.request = .tunnel) :
    ∃ later, Aimed left (thread.seen ++ later) ∧ (thread.Ended → later = []) := by
  have standing : Decrypts state.authority.isSome state := rfl
  obtain ⟨rest, shown, held, marks, served, later, grant, ends, whole, ended⟩ :=
    tunnel_of_run standing member auth grants way
  refine ⟨rest, ?_, ended⟩
  rw [whole]
  exact aimed_of_ending way grant ends shown held

/-- **The address of a tunnel's target.** Every request that goes to the tunnel has an authority, and an
address. That address is the text the hooks see; it is split into the host, without brackets, and
the port, or 443 where none can be read; so where it is dialed without success, the machine found no
address for the host, or made no connection to that port. And it is what every such tunnel is aimed
at, whatever other exchanges do beside it: nothing else is dialed, but a parent that is asked for the way
there. -/
theorem tunnel_address [EmptyCollection ν] (left : Context ν) (way : route left.request = .tunnel) :
    ∃ authority, left.request.uri.authority? = some authority ∧
      authorityWithPort left.request.uri 443 = .ok left.addr ∧
      split? left.addr =
        some (String.ofList authority.bareHost, left.request.uri.port?.getD 443) ∧
      (∀ {σ : Type} (network : Network σ) kept timeout before e,
        ((network.dial kept left.addr timeout).run before).1.1 = some (.error e) →
          DialFailure network (String.ofList authority.bareHost)
            (left.request.uri.port?.getD 443) left.addr timeout e) ∧
      ∀ {σ : Type} (proxy : Proxy σ ν) state moves,
        ∀ thread ∈ (Weave.run proxy.attendTo state moves).threads,
          authorized thread.seen = some left → left.abort = false →
            ∃ later, Aimed left (thread.seen ++ later) ∧ (thread.Ended → later = []) := by
  obtain ⟨authority, there⟩ := exists_authority_of_tunnel way
  have split := split?_addr_of_tunnel way there
  refine ⟨authority, there, authorityWithPort_eq_addr way, split, ?_, ?_⟩
  · intro σ network kept timeout before e failed
    rcases dialFailure_of_dial failed with ⟨unsplit, -⟩ | ⟨host, port, parts, failure⟩
    · exact nomatch unsplit.symm.trans split
    · obtain ⟨rfl, rfl⟩ := Prod.mk.inj (Option.some.inj (parts.symm.trans split))
      exact failure
  · intro σ proxy state moves thread member auth grants
    exact proxy.aimed_of_run member auth grants way

/-- A proxy without a parent whose clients hand over their connections. -/
def passing : Proxy Stage Notes where
  delegate := .inert
  transport := ⟨fun _ => return .ok {}⟩
  network := { Stage.network with
    connect := fun _ _ => return .ok ⟨0⟩
    takeOver := fun _ => return .ok ⟨1⟩ }

/-- An IPv6 address without a port. -/
def portlessAuthority : Authority := ⟨"[::1]", by decide, by decide +kernel, by decide +kernel⟩

/-- A tunnel to it, from its beginning to its end. -/
def passedWeave : Weave Inbound (Occurrence Notes) (ProxyState Stage Notes) Unit :=
  Weave.run passing.attendTo
    (.initial ⟨{}, [], [], 0, ⟨⟨.p256, []⟩, 1⟩⟩ 1 (.ofSecs 1) none)
    (.start ⟨{ uri := .absolute .https portlessAuthority .slash }, none, some ⟨0⟩⟩ ::
      List.replicate 30 (.advance 0))

/-- An address is dialed. -/
def Occurrence.dials (addr : String) : Occurrence ν → Bool
  | .dialed given _ => given == addr
  | _ => false

/-- A tunnel to an IPv6 address over https is aimed at port 443 of that address. -/
theorem tunnel_address_portless :
    ∃ thread ∈ passedWeave.threads, ∃ left, authorized thread.seen = some left ∧
      Aimed left thread.seen ∧ split? left.addr = some ("::1", 443) ∧
      thread.seen.any (Occurrence.dials "[::1]:443") = true := by
  have course : (passedWeave.threads[0]?.any fun thread => thread.value?.isSome &&
      thread.seen.any (Occurrence.dials "[::1]:443") &&
      (authorized thread.seen).any (fun left => !left.abort && route left.request == .tunnel &&
        left.request.uri.authority? == some portlessAuthority)) = true := by decide +kernel
  obtain ⟨thread, there, holds⟩ := (Option.any_eq_true ..).mp course
  simp only [Bool.and_eq_true] at holds
  obtain ⟨⟨ended, dialed⟩, passes⟩ := holds
  obtain ⟨left, auth, passes⟩ := (Option.any_eq_true ..).mp passes
  simp only [Bool.and_eq_true, Bool.not_eq_true', beq_iff_eq] at passes
  obtain ⟨⟨grants, way⟩, named⟩ := passes
  have member := List.mem_of_getElem? there
  obtain ⟨authority, there, -, split, -, aimed⟩ := tunnel_address left way
  obtain rfl : portlessAuthority = authority := Option.some.inj (named.symm.trans there)
  obtain ⟨later, kept, all⟩ := aimed passing _ _ thread member auth grants
  rw [all ended, List.append_nil] at kept
  refine ⟨thread, member, left, auth, kept, split.trans ?_, dialed⟩
  rw [Uri.port?, named]
  decide +kernel

end Interceptor

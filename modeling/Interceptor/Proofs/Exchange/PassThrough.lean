/-
# Interceptor.Proofs.Exchange.PassThrough — a delegate that changes nothing

Whatever a hook leaves is what the delegate makes of what the hook was shown, and
whatever comes back is what the transport makes of what was sent. `Own` says this
of a mark, and every mark that serving a request leaves has it (`owned_serve`).

A delegate that changes nothing therefore leaves every context as it was shown, and
only one course is open to a request over plain HTTP: it goes out under the http
scheme, as it came in but for the fields that concern this proxy alone, and the
response comes back in the same way (`passes_through`). Where it goes is what its
target says, or its `Host` field (`destination?`); a request that says neither goes
nowhere and is answered with 502.

* `withHttpScheme_fillAuthority`: the target that a request goes out with;
* `Passage.of_inert`: the one passage of a context that asks for nothing.
-/
import Interceptor.Proofs.Exchange.Verdict

namespace Interceptor

set_option autoImplicit false

open Http Net

variable {σ ν ρ α β : Type}

/-! ## Marks of the proxy's own -/

namespace Occurrence

/-- What a hook left is what the delegate makes of what the hook was shown, in some state of the
world, and what was brought back is what the transport makes of what was sent. -/
def Own (proxy : Proxy σ ν) : Occurrence ν → Prop
  | .hook which shown left => ∃ world, left = (proxy.delegate.run which shown world).1
  | .parentAsked request answer => ∃ world, answer = (proxy.delegate.parentProxy request world).1
  | .sent outbound outcome => ∃ world, outcome = (proxy.transport.roundTrip outbound world).1
  | .reviewed shown outcome left kept =>
      ∃ world, (left, kept) = (proxy.delegate.beforeResponse shown outcome world).1
  | _ => True

end Occurrence

/-- All marks are the proxy's own. -/
def Owned (proxy : Proxy σ ν) (t : ProxyM σ ν α) : Prop :=
  t.Upholds (fun _ => True) (fun _ marks _ => ∀ o ∈ marks, o.Own proxy) fun _ => True

theorem Owned.bind {proxy : Proxy σ ν} {t : ProxyM σ ν α} {f : α → ProxyM σ ν β}
    (first : Owned proxy t) (later : ∀ value, Owned proxy (f value)) : Owned proxy (t >>= f) :=
  Strand.Upholds.bind first fun value _ => later value

theorem Owned.map {proxy : Proxy σ ν} {t : ProxyM σ ν α} (owned : Owned proxy t) (f : α → β) :
    Owned proxy (f <$> t) := by
  rw [map_eq_pure_bind]
  exact owned.bind fun _ => trivial

namespace Proxy

variable (proxy : Proxy σ ν)

theorem owned_pure (value : α) : Owned proxy (pure value : ProxyM σ ν α) := trivial

theorem owned_outside {act : StateM σ α} {mark : α → Occurrence ν}
    (own : ∀ world, (mark (act world).1).Own proxy) : Owned proxy (outside act mark) :=
  fun state _ => ⟨fun _ member => List.mem_singleton.mp member ▸ own state.world, trivial⟩

/-- A step that is neither a hook's nor the transport's. -/
theorem owned_act {action : StateM (ProxyState σ ν) α} {mark : α → Occurrence ν}
    (free : ∀ value, (mark value).Own proxy) :
    Owned proxy (Strand.act action fun value => [mark value]) :=
  fun _ _ => ⟨fun _ member => List.mem_singleton.mp member ▸ free _, trivial⟩

theorem owned_quietly (action : StateM (ProxyState σ ν) α) :
    Owned proxy (Strand.quietly action) :=
  fun _ _ => ⟨fun _ member => absurd member List.not_mem_nil, trivial⟩

theorem owned_hook (which : Hook) (ctx : Context ν) : Owned proxy (proxy.hook which ctx) :=
  proxy.owned_outside fun world => ⟨world, rfl⟩

theorem owned_askParent (request : Request) : Owned proxy (proxy.askParent request) :=
  proxy.owned_outside fun world => ⟨world, rfl⟩

theorem owned_beforeResponse (ctx : Context ν) (outcome : Except ProxyError Response) :
    Owned proxy (proxy.beforeResponse ctx outcome) :=
  proxy.owned_outside fun world => ⟨world, rfl⟩

theorem owned_log (e : ProxyError) : Owned proxy (proxy.log e) :=
  proxy.owned_outside fun _ => trivial

theorem owned_send (request : Request) : Owned proxy (proxy.send request) := by
  refine (proxy.owned_askParent request).bind fun answer => ?_
  cases answer with
  | error source => exact proxy.owned_pure _
  | ok parent => exact proxy.owned_outside fun world => ⟨world, rfl⟩

theorem owned_conclude (ctx : Context ν) (outcome : Except ProxyError Response)
    {respond : Context ν → Except ProxyError Response → ProxyM σ ν (ρ × Context ν)}
    (answers : ∀ ctx outcome, Owned proxy (respond ctx outcome)) :
    Owned proxy (conclude ctx outcome respond) :=
  Owned.bind (proxy.owned_act fun _ => trivial) fun _ =>
    (answers ctx outcome).bind fun _ => proxy.owned_pure _

theorem owned_doRequest (ctx : Context ν)
    {respond : Context ν → Except ProxyError Response → ProxyM σ ν (ρ × Context ν)}
    (answers : ∀ ctx outcome, Owned proxy (respond ctx outcome)) :
    Owned proxy (proxy.doRequest ctx respond) := by
  refine (proxy.owned_hook .beforeRequest ctx).bind fun after => ?_
  split
  · exact proxy.owned_pure _
  split
  · exact proxy.owned_conclude _ _ answers
  refine (proxy.owned_quietly _).bind fun head => ?_
  refine (proxy.owned_send _).bind fun outcome => ?_
  refine (proxy.owned_quietly _).bind fun _ => ?_
  refine (proxy.owned_beforeResponse _ outcome).bind fun ⟨last, left⟩ => ?_
  simp only
  split
  · exact proxy.owned_pure _
  · exact proxy.owned_conclude _ _ answers

theorem owned_relayOrBadGateway (ctx : Context ν) (outcome : Except ProxyError Response) :
    Owned proxy (proxy.relayOrBadGateway ctx outcome) := by
  cases outcome with
  | ok response => exact proxy.owned_pure _
  | error e => exact (proxy.owned_log e).bind fun _ => proxy.owned_pure _

theorem owned_refuse (exchange : Exchange ν) (e : ProxyError) (status : Status) :
    Owned proxy (proxy.refuse exchange e status) :=
  (proxy.owned_log e).bind fun _ => proxy.owned_pure _

theorem owned_relayHttp (exchange : Exchange ν) : Owned proxy (proxy.relayHttp exchange) := by
  unfold relayHttp
  split
  · exact proxy.owned_refuse _ _ _
  · refine (proxy.owned_doRequest _ proxy.owned_relayOrBadGateway).bind fun ⟨answer, ctx⟩ => ?_
    cases answer with
    | none => exact proxy.owned_pure _
    | some response => exact proxy.owned_pure _

theorem owned_dial (addr : String) : Owned proxy (proxy.dial addr) :=
  proxy.owned_act fun _ => trivial

theorem owned_dialParent (parent : Uri) (target : String) :
    Owned proxy (proxy.dialParent parent target) := by
  unfold dialParent
  split
  · exact proxy.owned_pure _
  refine (proxy.owned_dial _).bind fun dialed => ?_
  rcases dialed with _ | (e | stream)
  · exact proxy.owned_pure _
  · exact proxy.owned_pure _
  · refine Owned.bind (proxy.owned_outside fun _ => ?_) fun asked => ?_
    · trivial
    · split <;> exact proxy.owned_pure _

theorem owned_refused (exchange : Exchange ν) (e : ProxyError) (status : Status) :
    Owned proxy (Served.ofAnswer <$> proxy.refuse exchange e status) :=
  (proxy.owned_refuse exchange e status).map _

theorem owned_openTunnel (exchange : Exchange ν) : Owned proxy (proxy.openTunnel exchange) := by
  unfold openTunnel
  simp only
  split
  · refine (proxy.owned_askParent _).bind fun answer => ?_
    cases answer with
    | error source => exact proxy.owned_refused _ _ _
    | ok parent =>
        refine (proxy.owned_quietly _).bind fun state => ?_
        split
        · exact proxy.owned_pure _
        split
        · exact proxy.owned_refused _ _ _
        split
        · exact proxy.owned_pure _
        refine (proxy.owned_dialParent _ _).bind fun dialed => ?_
        rcases dialed with _ | (e | tunnel)
        · exact proxy.owned_pure _
        · exact proxy.owned_refused _ _ _
        · exact proxy.owned_pure _
  · exact proxy.owned_refused _ _ _

theorem owned_dispatch (exchange : Exchange ν) : Owned proxy (proxy.dispatch exchange) := by
  refine (proxy.owned_hook .connect exchange.ctx).bind fun held => ?_
  split
  · exact proxy.owned_pure _
  refine (proxy.owned_hook .auth held).bind fun left => ?_
  split
  · exact proxy.owned_pure _
  split
  · exact proxy.owned_openTunnel _
  · exact (proxy.owned_relayHttp _).map _

theorem owned_begin [EmptyCollection ν] (request : Request) (remote : Option SocketAddr)
    (upgrade : Option UpgradeHandle) : Owned proxy (Exchange.begin request remote upgrade) :=
  Owned.bind (proxy.owned_act fun _ => trivial) fun _ =>
    (proxy.owned_quietly _).bind fun _ => proxy.owned_pure _

/-- Every mark that serving a request leaves is the doing of the delegate and the transport. -/
theorem owned_serve [EmptyCollection ν] (request : Request) (remote : Option SocketAddr)
    (upgrade : Option UpgradeHandle) : Owned proxy (proxy.serve request remote upgrade) :=
  (proxy.owned_begin _ remote upgrade).bind fun exchange => proxy.owned_dispatch exchange

end Proxy

/-! ## A delegate that changes nothing -/

section Inert

variable {proxy : Proxy σ ν} (inert : proxy.delegate = .inert)

include inert

theorem Occurrence.Own.left_eq {which : Hook} {shown left : Context ν}
    (own : (Occurrence.hook which shown left).Own proxy) : left = shown := by
  obtain ⟨world, rfl⟩ := own
  rw [inert]
  cases which <;> rfl

theorem Occurrence.Own.answer_eq {request : Request} {answer : Except String (Option Uri)}
    (own : (Occurrence.parentAsked request answer : Occurrence ν).Own proxy) :
    answer = .ok none := by
  obtain ⟨world, rfl⟩ := own
  rw [inert]
  rfl

theorem Occurrence.Own.review_eq {shown left : Context ν} {outcome kept : Except ProxyError Response}
    (own : (Occurrence.reviewed shown outcome left kept).Own proxy) :
    left = shown ∧ kept = outcome := by
  obtain ⟨world, same⟩ := own
  rw [inert] at same
  exact Prod.mk.inj same

/-- A context that asks for nothing has its request sent, and what comes back is handed on. -/
theorem Passage.of_inert {ctx last : Context ν} {passage : List (Occurrence ν)}
    {outcome : Option (Except ProxyError Response)} (way : Passage ctx passage last outcome)
    (own : ∀ o ∈ passage, o.Own proxy) (goesOn : ctx.abort = false)
    (plain : ctx.skipsNetwork = false) : ∃ given,
      passage = [.hook .beforeRequest ctx ctx, .parentAsked ctx.outbound (.ok none),
        .sent ⟨ctx.outbound⟩ given, .reviewed ctx.takeBody.2 given ctx.takeBody.2 given] ∧
      outcome = some (given.map Proxy.stripResponse) := by
  cases way with
  | stopped after stop =>
      obtain ⟨hooked, -⟩ := List.forall_mem_cons.mp own
      obtain rfl := hooked.left_eq inert
      exact nomatch goesOn.symm.trans stop
  | supplied after goesOn' skips =>
      obtain ⟨hooked, -⟩ := List.forall_mem_cons.mp own
      obtain rfl := hooked.left_eq inert
      exact nomatch plain.symm.trans skips
  | unsent after source reviewed left goesOn' sends =>
      simp only [List.forall_mem_cons] at own
      obtain ⟨-, asked, -⟩ := own
      exact nomatch asked.answer_eq inert
  | sent after parent given reviewed left goesOn' sends =>
      simp only [List.forall_mem_cons] at own
      obtain ⟨hooked, asked, -, review, -⟩ := own
      obtain rfl := hooked.left_eq inert
      obtain rfl := Except.ok.inj (asked.answer_eq inert)
      obtain ⟨rfl, rfl⟩ := review.review_eq inert
      have still : after.takeBody.2.abort = false := goesOn
      exact ⟨left, rfl, by simp [settled, still]⟩

end Inert

/-! ## Where a request goes -/

namespace Http.Request

/-- Where a request says it goes: to the authority in its target, or else in its `Host` field. -/
def destination? (request : Request) : Option Authority :=
  request.uri.authority?.or
    ((request.headers.hostText?.map Authority.parse).bind Except.toOption)

/-- The request under the http scheme, with the path and the query that it asks for. -/
def aimedAt (request : Request) (authority : Authority) : Request :=
  { request with uri := .absolute .http authority (request.uri.pathAndQuery?.getD .slash) }

/-- The destination is what the target says, or what the `Host` field says. -/
theorem text_of_destination? {request : Request} {authority : Authority}
    (there : request.destination? = some authority) :
    request.uri.authority? = some authority ∨
      request.uri.authority? = none ∧ request.headers.hostText? = some authority.text := by
  unfold destination? at there
  cases own : request.uri.authority? with
  | some other =>
      rw [own] at there
      exact .inl there
  | none =>
      rw [own, Option.none_or] at there
      cases host : request.headers.hostText? with
      | none => simp [host] at there
      | some text =>
          cases parsed : Authority.parse text with
          | error e => simp [host, parsed, Except.toOption] at there
          | ok other =>
              simp only [host, parsed, Option.map_some, Option.bind_some, Except.toOption,
                Option.some.injEq] at there
              rw [← there, Authority.text_of_parse parsed]
              exact .inr ⟨rfl, rfl⟩

end Http.Request

/-- What a request goes out under, if it says where. -/
theorem withHttpScheme_fillAuthority (request : Request) : withHttpScheme (fillAuthority request) =
    (request.destination?.elim (.error (.invalidTarget request.uri.render))
      fun authority => .ok (request.aimedAt authority)) := by
  unfold fillAuthority Request.destination? Request.aimedAt
  cases uri : request.uri with
  | origin target =>
      cases host : request.headers.hostText?.map Authority.parse with
      | none => simp [withHttpScheme, uri, Uri.authority?]
      | some parsed =>
          cases parsed <;>
            simp [withHttpScheme, uri, Uri.authority?, Uri.pathAndQuery?, Except.toOption]
  | authority a => simp [withHttpScheme, uri, Uri.authority?, Uri.pathAndQuery?]
  | absolute scheme a target => simp [withHttpScheme, uri, Uri.authority?, Uri.pathAndQuery?]

/-! ## Through and back -/

namespace Occurrence

/-- The request that is sent, with what comes of it. -/
def sent? : Occurrence ν → Option (Outbound × Except ProxyError Response)
  | .sent outbound outcome => some (outbound, outcome)
  | _ => none

end Occurrence

/-- The requests that the transport was given. -/
abbrev sends (seen : List (Occurrence ν)) : List (Outbound × Except ProxyError Response) :=
  gathered Occurrence.sent? seen

theorem Answered.sends_eq {last : Context ν} {outcome : Option (Except ProxyError Response)}
    {seen : List (Occurrence ν)} {answer : Response × Exchange ν}
    (answered : Answered last outcome seen answer) : sends seen = [] := by
  cases answered <;> rfl

/-- A context that asks for nothing has its request sent once, and the client is given what came
back. -/
theorem Answered.of_inert {proxy : Proxy σ ν} (inert : proxy.delegate = .inert)
    {ctx last : Context ν} {passage later : List (Occurrence ν)}
    {outcome : Option (Except ProxyError Response)} {answer : Response × Exchange ν}
    (way : Passage ctx passage last outcome) (answered : Answered last outcome later answer)
    (own : ∀ o ∈ passage, o.Own proxy) (goesOn : ctx.abort = false)
    (plain : ctx.skipsNetwork = false) : ∃ given,
      sends (passage ++ later) = [(⟨ctx.outbound⟩, given)] ∧ answers (passage ++ later) = [] ∧
      (∀ response, given = .ok response → answer.1.Repeats response) ∧
      ∀ e, given = .error e → answer.1 = .ofStatus .badGateway := by
  obtain ⟨given, rfl, rfl⟩ := way.of_inert inert own goesOn plain
  refine ⟨given, ?_, ?_, ?_, ?_⟩
  · simp [Occurrence.sent?, answered.sends_eq]
  · rw [answers_append, answered.settled.1]
    rfl
  · rintro response rfl
    cases answered
    exact Proxy.stripResponse_repeats response
  · rintro e rfl
    cases answered
    rfl

/-- What a delegate that changes nothing leaves of an exchange over plain HTTP: the first two hooks
see the request as it came in, and it is relayed. -/
theorem Proxy.relayAnswer_of_inert [EmptyCollection ν] {proxy : Proxy σ ν}
    (inert : proxy.delegate = .inert) {request : Request} {remote : Option SocketAddr}
    {upgrade : Option UpgradeHandle} (http : route (fillAuthority request) = .http)
    {seen : List (Occurrence ν)}
    (course : (proxy.attend request remote upgrade).Yields seen ()) :
    ∃ relaying answer, let ctx := openingContext request remote upgrade
      RelayAnswer ctx (withHttpScheme ctx.request) relaying answer ∧
      (∀ o ∈ relaying, o.Own proxy) ∧ sends seen = sends relaying ∧
      answers seen = answers relaying ++ [answer.1] := by
  obtain ⟨first, later, served, serving, ends, rfl⟩ :=
    serving_of_attend (Strand.yieldsUnder_true.mpr course)
  have own := (Strand.Upholds.yields (proxy.owned_serve request remote upgrade) serving.yields).1
  have opens := opening_of_serve serving
  clear course serving
  cases opens with
  | stoppedByConnect left stop =>
      simp only [List.forall_mem_cons] at own
      obtain ⟨-, connected, -⟩ := own
      obtain rfl := connected.left_eq inert
      exact nomatch stop
  | stoppedByAuth held left connects stop =>
      simp only [List.forall_mem_cons] at own
      obtain ⟨-, connected, authorized, -⟩ := own
      obtain rfl := connected.left_eq inert
      obtain rfl := authorized.left_eq inert
      exact nomatch stop
  | http held left connects grants way relaying answer course =>
      simp only [List.forall_mem_cons] at own
      obtain ⟨-, connected, authorized, own⟩ := own
      obtain rfl := connected.left_eq inert
      obtain rfl := authorized.left_eq inert
      cases ends with
      | answered response left =>
          refine ⟨relaying, answer, relayAnswer_of_relayHttp course.yields, own, ?_, ?_⟩
          · simp [Occurrence.sent?, closing]
          · simp [Occurrence.answer?, closing]
  | tunnel held left connects grants way relaying served course =>
      simp only [List.forall_mem_cons] at own
      obtain ⟨-, connected, authorized, -⟩ := own
      obtain rfl := connected.left_eq inert
      obtain rfl := authorized.left_eq inert
      cases http.symm.trans way

/-- **Nothing is lost, and nothing is added.** With a delegate that changes nothing, a request over
plain HTTP that says where it goes is sent once, under the http scheme, with everything in it but the
fields that concern this proxy alone; and its response is given to the client in the same way. An
error of the transport, and a request that does not say where it goes, are answered with 502, and
the latter is never sent. -/
theorem Proxy.passes_through [EmptyCollection ν] {proxy : Proxy σ ν}
    (inert : proxy.delegate = .inert) {request : Request} {remote : Option SocketAddr}
    {upgrade : Option UpgradeHandle} (http : route (fillAuthority request) = .http)
    {seen : List (Occurrence ν)}
    (course : (proxy.attend request remote upgrade).Yields seen ()) :
    (∀ authority, request.destination? = some authority →
      (request.uri.authority? = some authority ∨
        request.uri.authority? = none ∧ request.headers.hostText? = some authority.text) ∧
      ∃ outbound outcome, sends seen = [(outbound, outcome)] ∧
        outbound.request.Repeats (request.aimedAt authority) ∧ outbound.parent = none ∧
        outbound.request.uri.render = "http://" ++ authority.text ++
          (request.uri.pathAndQuery?.getD .slash).render ∧
        (∀ response, outcome = .ok response →
          ∃ given, answers seen = [given] ∧ given.Repeats response) ∧
        ∀ e, outcome = .error e → answers seen = [.ofStatus .badGateway]) ∧
    (request.destination? = none → sends seen = [] ∧ answers seen = [.ofStatus .badGateway]) := by
  obtain ⟨relaying, answer, relayed, own, sent, given⟩ := relayAnswer_of_inert inert http course
  rw [sent, given]
  have aimed : withHttpScheme (openingContext request remote upgrade : Context ν).request =
      request.destination?.elim _ _ := withHttpScheme_fillAuthority request
  rw [aimed] at relayed
  cases destination : request.destination? with
  | none =>
      refine ⟨fun _ there => (nomatch there), fun _ => ?_⟩
      rw [destination] at relayed
      cases relayed with
      | unnamed e nameless => exact ⟨rfl, rfl⟩
      | relayed request' named last passage later outcome answer way answered => exact nomatch named
  | some authority =>
      refine ⟨?_, fun nowhere => nomatch nowhere⟩
      rintro _ ⟨⟩
      refine ⟨Request.text_of_destination? destination, ?_⟩
      rw [destination] at relayed
      cases relayed with
      | unnamed e nameless => exact nomatch nameless
      | relayed request' named last passage later outcome answer way answered =>
          obtain rfl := Except.ok.inj named
          obtain ⟨outcome, once, silent, passedOn, failed⟩ := answered.of_inert inert way
            (fun o member => own o (List.mem_append_left later member)) rfl rfl
          have repeats := Context.outbound_repeats
            { (openingContext request remote upgrade : Context ν) with
              request := request.aimedAt authority }
          rw [silent]
          refine ⟨_, outcome, once, repeats, rfl, ?_, ?_, fun e there => ?_⟩
          · rw [repeats.uri]
            rfl
          · exact fun response there => ⟨answer.1, rfl, passedOn response there⟩
          · rw [failed e there]
            rfl

/-- A response with a field for the next hop, whose body does not say how long it is. -/
def chunked : Response where
  headers := ⟨[(.keepAlive, ⟨[53]⟩)]⟩
  body := ⟨[1, 2], false, 0, none⟩

/-- A proxy whose delegate changes nothing. -/
def transparent : Proxy Stage Notes where
  delegate := .inert
  transport := ⟨fun _ => return .ok chunked⟩
  network := Stage.network

/-- A request for a path with a query, with its destination in the `Host` field. -/
def pathRequest : Request where
  uri := .origin ⟨"/page", some "q", by decide, by decide⟩
  headers := ⟨[(.proxyConnection, ⟨[53]⟩), (.host, ⟨[99, 58, 56, 49]⟩)]⟩

/-- The marks it leaves. -/
def transparentCourse : List (Occurrence Notes) :=
  (transparent.attend pathRequest none none).trace
    (.initial ⟨{}, [], [], 0, ⟨⟨.p256, []⟩, 1⟩⟩ 1 (.ofSecs 1) none)

theorem passes_through_transparent :
    route (fillAuthority pathRequest) = .http ∧
      ∃ outbound given, sends transparentCourse = [(outbound, .ok chunked)] ∧
        outbound.request.uri.render = "http://c:81/page?q" ∧
        outbound.request.headers.values .proxyConnection = [] ∧
        answers transparentCourse = [given] ∧ given.body = chunked.body ∧
        given.headers.values .keepAlive = [] := by
  have http : route (fillAuthority pathRequest) = .http := by decide +kernel
  have destination : pathRequest.destination? =
      some ⟨"c:81", by decide, by decide +kernel, by decide +kernel⟩ := by decide +kernel
  have brought : (sends transparentCourse).map (·.2) = [.ok chunked] := by decide +kernel
  have course : (transparent.attend pathRequest none none).Yields transparentCourse () :=
    Strand.yields_run _ _
  obtain ⟨through, -⟩ := Proxy.passes_through rfl http course
  obtain ⟨-, outbound, outcome, sent, repeats, -, target, passedOn, -⟩ := through _ destination
  rw [sent] at brought
  obtain rfl : outcome = .ok chunked := (List.cons.inj brought).1
  obtain ⟨given, answered, same⟩ := passedOn chunked rfl
  refine ⟨http, outbound, given, sent, target.trans (by decide +kernel), ?_, answered, same.body, ?_⟩
  · rw [repeats.headers, if_pos (by decide)]
  · rw [same.headers, if_pos (by decide)]

end Interceptor

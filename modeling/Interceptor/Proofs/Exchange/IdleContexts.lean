/-
# Interceptor.Proofs.Exchange.IdleContexts — what is left on a context that nobody uses

An exchange gives its context back when its last hook has run, and nothing is
cleared then: a context is reset when it is taken again. So an idle context is
what the last hook of some exchange has left, and the proxy keeps it for as long
as nobody takes it.

Until then an exchange has let go of what it used, and of nothing else. `partings`
says what the last hook is shown, from what the hook before it has left: a
response that a hook supplied and the client was given is off the context, and so
is the client's connection once a tunnel was asked for. `Parted` has this, and
that a body went out with its request. The rest stays: the body of a request that
a hook has answered or stopped, notes, and a connection that nobody took over.

* `ContextStep`: the only context that comes into the pool is the one that the
  last hook of the same exchange has left the step before;
* `parted_of_attend`: what every exchange has let go of by then;
* `Proxy.idle_parted`: both, for any number of exchanges in any order;
* `idle_unreleased`: idle contexts that still hold what was not used.
-/
import Interceptor.Proofs.Tunnel.CarriedContext
import Interceptor.Proofs.Tunnel.Raw

namespace Interceptor

set_option autoImplicit false

open Http Net Certificate

variable {σ ν α β : Type}

/-! ## What comes into the pool -/

/-- A step leaves the pool of contexts as it is, takes a context out of it, or puts the one into it
that the last hook has just left. -/
inductive ContextStep [EmptyCollection ν] (past : List (Occurrence ν)) (before : ProxyState σ ν) :
    ProxyState σ ν → Prop
  | kept (after : ProxyState σ ν) (same : after.contexts = before.contexts) :
      ContextStep past before after
  | taken : ContextStep past before
      { before with contexts := (before.contexts.get .empty).2 }
  | given (earlier : List (Occurrence ν)) (shown left : Context ν)
      (last : past = earlier ++ [.hook .finish shown left]) :
      ContextStep past before { before with contexts := before.contexts.put left }

theorem InnerStep.contexts_eq {before after : ProxyState σ ν} {marks : List (Occurrence ν)}
    (step : InnerStep before marks after) : after.contexts = before.contexts := by
  cases step <;> rfl

section Walk

variable [EmptyCollection ν]

/-- Every step is one of these, whatever was left before. -/
def HandlesContexts (t : ProxyM σ ν α) : Prop :=
  ∀ past, t.UpholdsAfter (fun past before _ after => ContextStep past before after) past

theorem HandlesContexts.bind {t : ProxyM σ ν α} {f : α → ProxyM σ ν β} (first : HandlesContexts t)
    (later : ∀ value, HandlesContexts (f value)) : HandlesContexts (t >>= f) :=
  fun past => (first past).bind fun _ value _ => later value _

theorem Inner.handlesContexts {t : ProxyM σ ν α} (inner : Inner t) : HandlesContexts t :=
  Strand.Upholds.after inner fun _ _ _ _ step => .kept _ step.contexts_eq

theorem handlesContexts_begin (request : Request) (remote : Option SocketAddr)
    (upgrade : Option UpgradeHandle) :
    HandlesContexts (Exchange.begin request remote upgrade : ProxyM σ ν _) := by
  refine HandlesContexts.bind (fun _ _ => ⟨.kept _ rfl, trivial⟩) fun _ => ?_
  exact HandlesContexts.bind (fun _ _ => ⟨.taken, trivial⟩) fun _ _ => trivial

/-- The context goes back as the last hook has left it. -/
theorem handlesContexts_finish (proxy : Proxy σ ν) (exchange : Exchange ν) :
    HandlesContexts (exchange.finish proxy) := by
  intro past
  refine Strand.UpholdsAfter.bind (fun _ => ⟨.kept _ rfl, trivial⟩) fun seen left hooked => ?_
  obtain rfl := seen_outside hooked
  exact fun _ => ⟨.given past exchange.ctx left rfl, fun _ => ⟨.kept _ rfl, trivial⟩⟩

theorem composes_handlesContexts (proxy : Proxy σ ν) :
    Composes proxy fun _ t => HandlesContexts t where
  inner := Inner.handlesContexts
  bind := HandlesContexts.bind
  begins := handlesContexts_begin
  finishes := handlesContexts_finish proxy

/-- The pool is within its capacity, and its contexts are what last hooks have left. -/
structure Stocked (capacity : Nat) (state : ProxyState σ ν) (past : Occurrence ν → Prop) : Prop where
  capacity : state.contexts.capacity = capacity
  within : state.contexts.size ≤ state.contexts.capacity
  finished : ∀ ctx ∈ state.contexts.idle, ∃ shown, past (.hook .finish shown ctx)

theorem ContextStep.stocked {own marks : List (Occurrence ν)} {before after : ProxyState σ ν}
    {capacity : Nat} {past : Occurrence ν → Prop} (step : ContextStep own before after)
    (known : ∀ o ∈ own, past o) (stocked : Stocked capacity before past) :
    Stocked capacity after fun o => past o ∨ o ∈ marks := by
  obtain ⟨fixed, within, finished⟩ := stocked
  have still : ∀ ctx ∈ before.contexts.idle,
      ∃ shown, past (.hook .finish shown ctx) ∨ .hook .finish shown ctx ∈ marks :=
    fun ctx idle => (finished ctx idle).imp fun _ => .inl
  cases step with
  | kept _ same => exact ⟨same ▸ fixed, same ▸ within, same ▸ still⟩
  | taken =>
      exact ⟨(Pool.capacity_get ..).trans fixed, before.contexts.idle_get_le _ within,
        fun ctx idle => still ctx (List.mem_of_mem_tail (before.contexts.idle_get _ ▸ idle))⟩
  | given earlier shown left last =>
      refine ⟨(Pool.capacity_put ..).trans fixed, before.contexts.idle_put_le left within,
        fun ctx idle => ?_⟩
      have here : past (.hook .finish shown left) := known _ (by simp [last])
      rcases before.contexts.idle_put_cases left with same | same
      · exact still ctx (same ▸ idle)
      · rw [same, List.mem_append, List.mem_singleton] at idle
        rcases idle with idle | rfl
        · exact still ctx idle
        · exact ⟨shown, .inl here⟩

/-- What is idle stays as it is, until it is the first and is taken. -/
theorem ContextStep.idle_cases {past : List (Occurrence ν)} {before after : ProxyState σ ν}
    (step : ContextStep past before after) : after.contexts.idle = before.contexts.idle ∨
      after.contexts.idle = before.contexts.idle.tail ∨
        ∃ left, after.contexts.idle = before.contexts.idle ++ [left] := by
  cases step with
  | kept _ same => exact .inl (congrArg _ same)
  | taken => exact .inr (.inl (before.contexts.idle_get _))
  | given earlier shown left last =>
      rcases before.contexts.idle_put_cases left with same | same
      · exact .inl same
      · exact .inr (.inr ⟨left, same⟩)

theorem vouches_attendTo (proxy : Proxy σ ν) (inbound : Inbound) :
    (proxy.attendTo inbound).UpholdsAfter (fun past before _ after => ContextStep past before after)
      [] :=
  (composes_handlesContexts proxy).attend inbound.request inbound.remote inbound.upgrade []

/-- However many exchanges there are, and in whatever order they do their steps. -/
theorem stocked_of_run (proxy : Proxy σ ν) (world : σ) (capacity : Nat) (ttl : Duration)
    (authority : Option CertificateAuthority) (moves : List (Move Inbound)) :
    let final := Weave.run proxy.attendTo (.initial world capacity ttl authority) moves
    Stocked (max capacity 1) final.state final.Left :=
  Weave.accounts_of_run proxy.attendTo _ ⟨rfl, Nat.zero_le _, fun _ idle => absurd idle List.not_mem_nil⟩
    (vouches_attendTo proxy) fun _ _ _ _ _ step known stocked => step.stocked known stocked

end Walk

/-! ## What an exchange has let go of -/

/-- What the last hook is shown if this was the last mark of a hook before it: the context that was
left, without the response when that was given to the client, or without the client's connection when
a tunnel was asked for. `raw` is whether bytes were relayed: then nothing stops the tunnel. -/
def Occurrence.parting? (raw : Bool) : Occurrence ν → Option (Context ν)
  | .hook .connect _ left => some left.takeResponse.2
  | .hook .auth _ left => some (if left.abort then left.takeResponse.2 else
      if route left.request = .tunnel then left.takeUpgrade.2 else left)
  | .hook .beforeRequest _ left => some left.takeResponse.2
  | .reviewed _ _ left _ => some (if left.abort && !raw then left.takeResponse.2 else left)
  | _ => none

/-- The contexts that the last hook would have been shown after each hook before it. -/
abbrev partings (raw : Bool) (seen : List (Occurrence ν)) : List (Context ν) :=
  gathered (Occurrence.parting? raw) seen

/-- What an exchange has let go of that comes to its last hook after these marks. -/
structure Parted (before : List (Occurrence ν)) (shown : Context ν) : Prop where
  /-- It is shown what the hook before it left, without what the exchange has used. -/
  parting : (partings (before.any Occurrence.relays) before).getLast? = some shown
  /-- A request that is sent takes its body with it. -/
  sent : ∀ outbound outcome, .sent outbound outcome ∈ before → ∃ held left reviewed kept,
    .hook .beforeRequest held left ∈ before ∧ outbound.request.body = left.request.body ∧
      .reviewed left.takeBody.2 outcome reviewed kept ∈ before
  /-- A client's connection is taken once a tunnel is asked for. -/
  tunnelled : ∀ left, authorized before = some left → left.abort = false →
    route left.request = .tunnel → ∀ held after, .hook .beforeRequest held after ∈ before →
      held.upgrade = none

/-- The same of the marks between the first two hooks and the last: `ctx` is the context that the
exchange goes on with. -/
structure Uses (raw : Bool) (ctx : Context ν) (marks : List (Occurrence ν)) (shown : Context ν) :
    Prop where
  relayed : marks.any Occurrence.relays = raw
  parting : (partings raw marks).getLast?.or (some ctx) = some shown
  sent : ∀ outbound outcome, .sent outbound outcome ∈ marks → ∃ held left reviewed kept,
    .hook .beforeRequest held left ∈ marks ∧ outbound.request.body = left.request.body ∧
      .reviewed left.takeBody.2 outcome reviewed kept ∈ marks
  upgrade : ∀ held after, .hook .beforeRequest held after ∈ marks → held.upgrade = ctx.upgrade

/-- A hook is shown a context, a request is sent, or bytes are relayed. -/
def Occurrence.touches : Occurrence ν → Bool
  | .hook .. | .reviewed .. | .sent .. | .relayed .. => true
  | _ => false

theorem untouched_eq {marks : List (Occurrence ν)} (untouched : ∀ o ∈ marks, o.touches = false) :
    marks.any Occurrence.relays = false ∧ ∀ raw, partings raw marks = [] := by
  constructor
  · rw [List.any_eq_false]
    intro o member relays
    have unused := untouched o member
    cases o with
    | relayed outcome => cases unused
    | _ => cases relays
  · intro raw
    unfold partings gathered
    rw [List.filterMap_eq_nil_iff]
    intro o member
    have unused := untouched o member
    cases o with
    | hook | reviewed => cases unused
    | _ => rfl

/-- Without these the exchange goes to its end with the context as it is. -/
theorem uses_nothing (ctx : Context ν) : Uses false ctx [] ctx where
  relayed := rfl
  parting := rfl
  sent _ _ member := absurd member List.not_mem_nil
  upgrade _ _ member := absurd member List.not_mem_nil

/-- What comes before and after that touches no context changes nothing. -/
theorem Uses.framed {raw : Bool} {ctx shown : Context ν} {marks : List (Occurrence ν)}
    (uses : Uses raw ctx marks shown) (front back : List (Occurrence ν))
    (before : ∀ o ∈ front, o.touches = false) (after : ∀ o ∈ back, o.touches = false) :
    Uses raw ctx (front ++ marks ++ back) shown := by
  obtain ⟨unrelayed, none⟩ := untouched_eq before
  obtain ⟨unrelayed', none'⟩ := untouched_eq after
  have inside : ∀ o ∈ front ++ marks ++ back, o.touches = true → o ∈ marks := by
    intro o member touches
    simp only [List.mem_append] at member
    rcases member with (member | member) | member
    · exact absurd touches (by simp [before o member])
    · exact member
    · exact absurd touches (by simp [after o member])
  refine ⟨?_, ?_, fun outbound outcome member => ?_, fun held left member => ?_⟩
  · simp [unrelayed, unrelayed', uses.relayed]
  · simpa [none, none'] using uses.parting
  · obtain ⟨held, left, reviewed, kept, hooked, body, seen⟩ := uses.sent _ _ (inside _ member rfl)
    exact ⟨held, left, reviewed, kept, by simp [hooked], body, by simp [seen]⟩
  · exact uses.upgrade _ _ (inside _ member rfl)

/-! ## What is used on each way -/

theorem Http.Request.body_withParent (request : Request) (parent : Option Uri) :
    (Proxy.withParent request parent).body = request.body := by
  cases parent <;> rfl

theorem Answered.ctx_eq {last : Context ν} {outcome : Option (Except ProxyError Response)}
    {later : List (Occurrence ν)} {answer : Response × Exchange ν}
    (answered : Answered last outcome later answer) :
    answer.2.ctx = if outcome.isSome then last else last.takeResponse.2 := by
  cases answered <;> rfl

/-- The hook after the response has left `reviewed`: a response on it is used if it stops. -/
theorem ctx_of_settled {reviewed : Context ν} {left : Except ProxyError Response}
    {later : List (Occurrence ν)} {answer : Response × Exchange ν}
    (answered : Answered reviewed (settled reviewed left) later answer) :
    answer.2.ctx = if reviewed.abort then reviewed.takeResponse.2 else reviewed := by
  rw [answered.ctx_eq, settled]
  split <;> rfl

/-- A request on its way, up to its answer. It is `source`'s, or was put in the place of that one. -/
theorem uses_of_passage {ctx source last : Context ν} {passage later : List (Occurrence ν)}
    {outcome : Option (Except ProxyError Response)} {answer : Response × Exchange ν}
    (way : Passage ctx passage last outcome) (answered : Answered last outcome later answer)
    (same : ctx.upgrade = source.upgrade) : Uses false source (passage ++ later) answer.2.ctx := by
  have untouched : ∀ o ∈ later, o.touches = false := by
    cases answered <;> simp [Occurrence.touches]
  suffices uses : Uses false source passage answer.2.ctx by
    simpa using uses.framed [] later (by simp) untouched
  have upgrade : ∀ held after, .hook .beforeRequest held after ∈ passage →
      held.upgrade = source.upgrade := by
    intro held after member
    rw [(way.hook_eq member).2, same]
  cases way with
  | stopped after stop => exact ⟨rfl, congrArg some answered.ctx_eq.symm, by simp, upgrade⟩
  | supplied after goesOn skips => exact ⟨rfl, congrArg some answered.ctx_eq.symm, by simp, upgrade⟩
  | unsent after error reviewed left goesOn sends =>
      refine ⟨rfl, ?_, by simp, upgrade⟩
      simp [Occurrence.parting?, ctx_of_settled answered]
  | sent after parent given reviewed left goesOn sends =>
      refine ⟨rfl, ?_, fun outbound outcome member => ?_, upgrade⟩
      · simp [Occurrence.parting?, ctx_of_settled answered]
      · obtain ⟨rfl, rfl⟩ : outbound = ⟨Proxy.withParent after.outbound parent⟩ ∧ outcome = given := by
          simpa using member
        exact ⟨ctx, after, last, left, by simp, Request.body_withParent _ parent, by simp⟩

/-- A request that is relayed, or refused for want of a place to go. -/
theorem uses_of_relayAnswer {ctx : Context ν} {aimed : Except ProxyError Request}
    {marks : List (Occurrence ν)} {answer : Response × Exchange ν}
    (answered : RelayAnswer ctx aimed marks answer) : Uses false ctx marks answer.2.ctx := by
  cases answered with
  | unnamed e nameless =>
      exact (uses_nothing ctx).framed [.logged e] [] (by simp [Occurrence.touches]) (by simp)
  | relayed request named last passage later outcome answer way answered =>
      exact uses_of_passage way answered rfl

/-- A tunnel that is decrypted, up to its last hook. -/
theorem DecryptCourse.uses {ctx : Context ν} {target : String} {timeout : Duration}
    {marks : List (Occurrence ν)} (course : DecryptCourse ctx target timeout marks) :
    ∃ first shown left later, marks = first ++ .hook .finish shown left :: later ∧
      Uses false ctx first shown := by
  have nothing : ∀ front : List (Occurrence ν), (∀ o ∈ front, o.touches = false) →
      Uses false ctx front ctx := fun front untouched => by
    simpa using (uses_nothing ctx).framed front [] untouched (by simp)
  cases course with
  | unwritable left =>
      exact ⟨[_], ctx, left, [.retired], rfl, nothing _ (by simp [Occurrence.touches])⟩
  | failed marks e failing left =>
      refine ⟨marks ++ [.logged e], ctx, left, [.retired], by simp [finished], nothing _ ?_⟩
      cases failing <;> simp [Occurrence.touches]
  | unused leaf client tls ended left =>
      exact ⟨opened leaf client tls [] ended, ctx, left, _, rfl, nothing _
        (by simp [opened, Occurrence.touches])⟩
  | served leaf client tls request others ended marks answer answered left =>
      refine ⟨opened leaf client tls (request :: others) ended ++ marks ++ [.responded answer.1],
        answer.2.ctx, left, .retired :: aftermath others target ended, by simp [finished], ?_⟩
      exact (uses_of_relayAnswer answered).framed _ [.responded answer.1] (by simp [opened, Occurrence.touches])
        (by simp [Occurrence.touches])

/-- A raw tunnel. -/
theorem RelayCourse.uses {ctx last : Context ν} {farEnd : FarEnd} {target : String}
    {marks : List (Occurrence ν)} (course : RelayCourse ctx farEnd target marks last) :
    ∃ raw, Uses raw ctx marks last := by
  cases course with
  | lost source =>
      exact ⟨false, (uses_nothing ctx).framed [_, _] [] (by simp [Occurrence.touches]) (by simp)⟩
  | unreached client addr direct e =>
      exact ⟨false, (uses_nothing ctx).framed [_, _, _] [] (by simp [Occurrence.touches]) (by simp)⟩
  | overran client addr direct =>
      exact ⟨false, (uses_nothing ctx).framed [_, _] [] (by simp [Occurrence.touches]) (by simp)⟩
  | relayed client reaching reached held last kept outcome =>
      refine ⟨true, ?_⟩
      have shown : Uses true ctx (announcement ctx held last kept ++ [.relayed outcome]) last := by
        refine ⟨rfl, by simp [announcement, Occurrence.parting?], by simp [announcement], ?_⟩
        intro before after member
        obtain ⟨rfl, -⟩ : before = { ctx with tunnel := true } ∧ after = held := by
          simpa [announcement] using member
        rfl
      simpa using shown.framed (.takenOver (.ok client) :: reaching)
        (transferEnd target outcome) (by cases reached <;> simp [Occurrence.touches])
        (by cases outcome <;> simp [transferEnd, Occurrence.touches])

/-! ## What every exchange has let go of -/

/-- Of an exchange that the first two hooks let through, the marks behind them say it all. -/
theorem Uses.parted {raw : Bool} {shown held left last : Context ν} {marks : List (Occurrence ν)}
    (uses : Uses raw (if route left.request = .tunnel then left.takeUpgrade.2 else left) marks last)
    (grants : left.abort = false) : Parted (letThrough shown held left ++ marks) last where
  parting := by
    have relayed : (letThrough shown held left ++ marks).any Occurrence.relays = raw := uses.relayed
    have before : (partings raw (letThrough shown held left)).getLast? =
        some (if route left.request = .tunnel then left.takeUpgrade.2 else left) := by
      simp [letThrough, Occurrence.parting?, grants]
    rw [relayed, partings, gathered_append, List.getLast?_append, before]
    exact uses.parting
  sent outbound outcome member := by
    have inside : .sent outbound outcome ∈ marks := by simpa [letThrough] using member
    obtain ⟨held, left, reviewed, kept, hooked, body, seen⟩ := uses.sent _ _ inside
    exact ⟨held, left, reviewed, kept, List.mem_append_right _ hooked, body,
      List.mem_append_right _ seen⟩
  tunnelled left' auth _ way held' after member := by
    obtain rfl : left = left' := Option.some.inj auth
    have inside : .hook .beforeRequest held' after ∈ marks := by simpa [letThrough] using member
    rw [uses.upgrade _ _ inside, if_pos way]
    rfl

theorem Hindrance.untouched {decrypts : Bool} {ctx : Context ν} {marks : List (Occurrence ν)}
    {e : ProxyError} (hindered : Hindrance decrypts ctx marks e) : ∀ o ∈ marks, o.touches = false := by
  cases hindered with
  | unsupported held => simp
  | unparented held source => simp [Occurrence.touches]
  | unvouched held raw parent goal marks e asked => cases asked <;> simp [Occurrence.touches]

theorem Towards.untouched {asked : Request} {farEnd : FarEnd} {marks : List (Occurrence ν)}
    (towards : Towards asked farEnd marks) : ∀ o ∈ marks, o.touches = false := by
  cases towards <;> simp [Occurrence.touches]

/-- A request for a tunnel, up to the last hook. -/
theorem Grant.uses {proxy : Proxy σ ν} {decrypts : Bool} {left : Context ν}
    {marks later : List (Occurrence ν)} {served : Served ν} (grant : Grant decrypts left marks served)
    (ends : Ending proxy (Decrypts decrypts) served later) :
    ∃ raw first shown last after, marks ++ later = first ++ .hook .finish shown last :: after ∧
      Uses raw left.takeUpgrade.2 first shown := by
  cases grant with
  | refused marks e hindered =>
      cases ends with
      | answered response last =>
          refine ⟨false, marks ++ [] ++ [.logged e, .answered (.ofStatus (refusal e)), .released],
            left.takeUpgrade.2, last, [.retired], by simp [closing], ?_⟩
          exact (uses_nothing _).framed marks _ hindered.untouched (by simp [Occurrence.touches])
  | dropped held raw parent addr named =>
      cases ends with
      | dropped exchange last =>
          refine ⟨false, _, left.takeUpgrade.2, last, [.retired], rfl, ?_⟩
          exact (uses_nothing _).framed [_, _] [] (by simp [Occurrence.touches]) (by simp)
  | decrypted upgrade held authorized parent =>
      cases ends with
      | tunnelled response task later course =>
          rw [authorized] at course
          obtain ⟨first, shown, last, after, rfl, uses⟩ := (Proxy.decryptCourse_of_runDecrypt course).uses
          refine ⟨false, [.parentAsked left.request (.ok parent), .tunnelled connectionEstablished] ++
            first ++ [], shown, last, after, by simp, ?_⟩
          exact uses.framed _ [] (by simp [Occurrence.touches]) (by simp)
  | raw upgrade held raw farEnd marks towards =>
      cases ends with
      | tunnelled response task later course =>
          unfold Proxy.run at course
          rw [Strand.yieldsUnder_bind] at course
          obtain ⟨relaying, exchange, rest, rfl, relayed, course⟩ := course
          obtain ⟨last, rfl⟩ := seen_finish course.yields
          obtain ⟨raw, uses⟩ := (Proxy.relayCourse_of_runRelay relayed.yields).uses
          refine ⟨raw, (marks ++ [.tunnelled connectionEstablished]) ++ relaying ++ [], exchange.ctx,
            last, [.retired], by simp, ?_⟩
          refine uses.framed _ [] (fun o member => ?_) (by simp)
          rcases List.mem_append.mp member with member | member
          · exact towards.untouched o member
          · rw [List.mem_singleton.mp member]
            rfl

/-- Every exchange that is attended to has let go of this much when its last hook runs. -/
theorem parted_of_attend [EmptyCollection ν] {proxy : Proxy σ ν} {decrypts : Bool}
    {request : Request} {remote : Option SocketAddr} {upgrade : Option UpgradeHandle}
    {seen : List (Occurrence ν)}
    (course : (proxy.attend request remote upgrade).YieldsUnder (Decrypts decrypts) seen ()) :
    ∃ before shown left after,
      seen = before ++ .hook .finish shown left :: after ∧ Parted before shown := by
  obtain ⟨first, later, served, opens, ends, rfl⟩ := Proxy.opening_of_attend course
  cases opens with
  | stoppedByConnect held stop =>
      cases ends with
      | answered response left =>
          exact ⟨[.began, .hook .connect _ held, .answered _, .released], _, left, [.retired], rfl,
            rfl, by simp, by simp⟩
  | stoppedByAuth held left connects stop =>
      cases ends with
      | answered response last =>
          refine ⟨[.began, .hook .connect _ held, .hook .auth held left, .answered _, .released], _,
            last, [.retired], rfl, ?_, by simp, by simp⟩
          simp [Occurrence.parting?, Occurrence.relays, stop, Exchange.aborted]
  | http held left connects grants way relaying answer relayed =>
      cases ends with
      | answered response last =>
          have uses := (uses_of_relayAnswer (Proxy.relayAnswer_of_relayHttp relayed.yields)).framed
            [] [.answered answer.1, .released] (by simp) (by simp [Occurrence.touches])
          have plain : (if route left.request = .tunnel then left.takeUpgrade.2 else left) = left := by
            simp [way]
          exact ⟨letThrough (openingContext request remote upgrade) held left ++
            ([] ++ relaying ++ [.answered answer.1, .released]), answer.2.ctx, last, [.retired],
            by simp [letThrough, closing], Uses.parted (plain.symm ▸ uses) grants⟩
  | tunnel held left connects grants way opening served opened =>
      obtain ⟨raw, marks, shown, last, after, whole, uses⟩ :=
        (Proxy.grant_of_openTunnel way opened).uses ends
      have tunnelled : (if route left.request = .tunnel then left.takeUpgrade.2 else left) =
          left.takeUpgrade.2 := if_pos way
      refine ⟨letThrough (openingContext request remote upgrade) held left ++ marks, shown, last, after, ?_,
        Uses.parted (tunnelled.symm ▸ uses) grants⟩
      rw [List.append_assoc, ← whole]
      rfl

/-! ## Idle contexts -/

variable [EmptyCollection ν]

/-- What a thread has let go of that has come to its last hook. -/
theorem parted_of_run {proxy : Proxy σ ν} {decrypts : Bool} {state : ProxyState σ ν}
    (standing : Decrypts decrypts state) {moves : List (Move Inbound)} {thread : Attendance σ ν}
    (member : thread ∈ (Weave.run proxy.attendTo state moves).threads) {shown ctx : Context ν}
    (finished : .hook .finish shown ctx ∈ thread.seen) :
    ∃ before after, thread.seen = before ++ .hook .finish shown ctx :: after ∧ Parted before shown := by
  obtain ⟨before, after, cut⟩ := List.append_of_mem finished
  refine ⟨before, after, cut, ?_⟩
  obtain ⟨rest, value, course, -⟩ := Weave.yieldsUnder_of_run proxy.attendTo standing
    (fun inbound => authority_stands proxy inbound.request inbound.remote inbound.upgrade decrypts)
    member
  rw [cut, List.append_assoc, List.cons_append] at course
  obtain ⟨first, shown', left, later, whole, parted⟩ := parted_of_attend course
  obtain ⟨rfl, rfl, -⟩ := (Proxy.whole_of_attend course.yields).last_eq rfl whole
  exact parted

/-- The first hook of a thread is shown a context that has been reset. -/
theorem opening_of_run {proxy : Proxy σ ν} {state : ProxyState σ ν} {moves : List (Move Inbound)}
    {thread : Attendance σ ν} (member : thread ∈ (Weave.run proxy.attendTo state moves).threads)
    {view : Context ν × Context ν} (first : (contexts thread.seen).head? = some view) :
    view.1 = openingContext thread.origin.request thread.origin.remote thread.origin.upgrade := by
  have standing : Decrypts state.authority.isSome state := rfl
  obtain ⟨rest, value, course, -⟩ := Weave.yieldsUnder_of_run proxy.attendTo standing
    (fun inbound => authority_stands proxy inbound.request inbound.remote inbound.upgrade _) member
  obtain ⟨opening, later, served, opens, -, whole⟩ := Proxy.opening_of_attend course
  have begun : (contexts (thread.seen ++ rest)).head? = some view := by
    rw [contexts, gathered_append, List.head?_append, show (gathered _ _).head? = some view from first]
    rfl
  rw [whole] at begun
  cases opens <;> cases begun <;> rfl

/-- **Idle contexts are what last hooks have left.** Whatever the hooks, the transport and the network
do, and however many exchanges go on in whatever order: there are no more idle contexts than the pool
keeps; each is, as it is, what the last hook of an exchange has left, which by then had let go of what
`Parted` says and of nothing else; it stays so, whatever happens next, until it is the first and is
taken; and then it is emptied, since the first hook of every exchange is shown its own request and
nothing left by another. -/
theorem Proxy.idle_parted (proxy : Proxy σ ν) (world : σ) (capacity : Nat) (ttl : Duration)
    (authority : Option CertificateAuthority) (moves : List (Move Inbound)) :
    let after := Weave.run proxy.attendTo (.initial world capacity ttl authority)
    let idle := fun moves => (after moves).state.contexts.idle
    (idle moves).length ≤ max capacity 1 ∧
    (∀ ctx ∈ idle moves, ∃ thread ∈ (after moves).threads, ∃ before shown later,
      thread.seen = before ++ .hook .finish shown ctx :: later ∧ Parted before shown) ∧
    (∀ next, idle (moves ++ [next]) = idle moves ∨ idle (moves ++ [next]) = (idle moves).tail ∨
      ∃ left, idle (moves ++ [next]) = idle moves ++ [left]) ∧
    ∀ thread ∈ (after moves).threads, ∀ view, (contexts thread.seen).head? = some view →
      view.1 = openingContext thread.origin.request thread.origin.remote thread.origin.upgrade := by
  intro after idle
  obtain ⟨fixed, within, finished⟩ := stocked_of_run proxy world capacity ttl authority moves
  refine ⟨fixed ▸ within, fun ctx there => ?_, fun next => ?_, fun thread member view =>
    opening_of_run member⟩
  · obtain ⟨shown, thread, member, last⟩ := finished ctx there
    have standing : Decrypts authority.isSome
        (.initial world capacity ttl authority : ProxyState σ ν) := rfl
    obtain ⟨before, later, cut, parted⟩ := parted_of_run standing member last
    exact ⟨thread, member, before, shown, later, cut, parted⟩
  · rcases Weave.state_of_move proxy.attendTo (vouches_attendTo proxy) next with
      same | ⟨past, marks, step⟩
    · exact .inl (congrArg (·.contexts.idle) same)
    · exact step.idle_cases

/-- A proxy whose first hook puts a response on the context for later, and that answers every request
but a GET itself, with a note. -/
def hoarding : Proxy Stage Notes where
  delegate := {
    connect := fun ctx => return { ctx with response := some (.ofStatus .imATeapot) }
    beforeRequest := fun ctx => return if ctx.request.method = .get then ctx else
      { ctx with needMock := true, notes := { tag := some "answered" } } }
  transport := ⟨fun _ => return .ok {}⟩
  network := Stage.network

/-- A request to it, on a connection that could be taken over. -/
def hoardedInbound (method : Method) (body : Body) : Inbound :=
  ⟨{ method, uri := .absolute .http ⟨"idle.test", by decide, by decide, by decide⟩ .slash, body },
    none, some ⟨0⟩⟩

/-- Two exchanges at once, from their beginning to their end. -/
def hoardedWeave : Weave Inbound (Occurrence Notes) (ProxyState Stage Notes) Unit :=
  Weave.run hoarding.attendTo
    (.initial ⟨{}, [], [], 0, ⟨⟨.p256, []⟩, 1⟩⟩ 2 (.ofSecs 1) none)
    ([.start (hoardedInbound ⟨"POST"⟩ (.full [1, 2, 3])), .start (hoardedInbound .get .empty)] ++
      List.replicate 5 (.advance 1) ++ List.replicate 30 (.advance 0) ++
      List.replicate 30 (.advance 1))

/-- Both exchanges are over, and the idle contexts still hold what was not used: the body of the
request that was answered without being sent, its connection and its note; and the response that
nobody asked for. -/
theorem idle_unreleased :
    hoardedWeave.state.inFlight = 0 ∧
      hoardedWeave.state.contexts.idle.map (fun ctx =>
        (ctx.request.body, ctx.upgrade, ctx.notes.tag, ctx.response)) =
      [(.full [1, 2, 3], some ⟨0⟩, some "answered", none),
        (.empty, some ⟨0⟩, none, some (.ofStatus .imATeapot))] := by
  decide +kernel

end Interceptor

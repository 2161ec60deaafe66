/-
# Interceptor.Proofs.Tunnel.CarriedContext — one context from the connection to the end

A tunnel that is decrypted has one context, from the hooks that saw the connection
to the last. The request inside is put in the place of the one that asked for the
tunnel, and the client's connection has been taken; nothing else is touched. So what
the first hooks have decided, a mock among it, is decided for the request inside,
as far as the hook before it leaves it so; and every hook finds the notes as the one
before it left them.

* `Context.Continues`: what no part of the engine changes between two hooks;
* `carriedInto_of_passage`: what becomes of a context on the way of a request;
* `context_carried`: all of it for a tunnel among other exchanges;
* `mock_withdrawn`: a mock that the hook before the request takes back is not used.
-/
import Interceptor.Proofs.Exchange.Verdict
import Interceptor.Proofs.Tunnel.Decryption

namespace Interceptor

set_option autoImplicit false

open Http Net Certificate

variable {σ ν : Type}

/-! ## What is carried -/

/-- A context holds what another holds, apart from its request, its response and the client's
connection. -/
structure Context.Continues (ctx source : Context ν) : Prop where
  notes : ctx.notes = source.notes
  remote : ctx.remote = source.remote
  abort : ctx.abort = source.abort
  tunnel : ctx.tunnel = source.tunnel
  failFast : ctx.failFast = source.failFast
  needMock : ctx.needMock = source.needMock

theorem Context.Continues.refl (ctx : Context ν) : ctx.Continues ctx := ⟨rfl, rfl, rfl, rfl, rfl, rfl⟩

namespace Occurrence

/-- The context that a hook was shown, and the one it left. -/
def contexts? : Occurrence ν → Option (Context ν × Context ν)
  | .hook _ shown left => some (shown, left)
  | .reviewed shown _ left _ => some (shown, left)
  | _ => none

/-- The same, of one hook. -/
def hooked? (which : Hook) : Occurrence ν → Option (Context ν × Context ν)
  | .hook other shown left => if other = which then some (shown, left) else none
  | _ => none

/-- The response that is written on a decrypted stream. -/
def response? : Occurrence ν → Option Response
  | .responded response => some response
  | _ => none

end Occurrence

/-- The contexts that the hooks were shown, and those they left. -/
abbrev contexts (seen : List (Occurrence ν)) : List (Context ν × Context ν) :=
  gathered Occurrence.contexts? seen

/-- The contexts that one hook was shown, and those it left. -/
abbrev hooked (which : Hook) (seen : List (Occurrence ν)) : List (Context ν × Context ν) :=
  gathered (Occurrence.hooked? which) seen

/-- The responses that were written on a decrypted stream. -/
abbrev responses (seen : List (Occurrence ν)) : List Response := gathered Occurrence.response? seen

/-- Every hook is shown what the one before it left. -/
abbrev Followed (views : List (Context ν × Context ν)) : Prop :=
  views.IsChain fun before after => after.1.Continues before.2

/-! ## A request on its way -/

theorem Answered.unhooked {last : Context ν} {outcome : Option (Except ProxyError Response)}
    {later : List (Occurrence ν)} {answer : Response × Exchange ν}
    (answered : Answered last outcome later answer) :
    contexts later = [] ∧ (∀ which, hooked which later = []) ∧ responses later = [] ∧
      phases later = [] := by
  cases answered <;> exact ⟨rfl, fun _ => rfl, rfl, rfl⟩

/-- Answering takes a response off the context at most. -/
theorem Answered.continues {last : Context ν} {outcome : Option (Except ProxyError Response)}
    {later : List (Occurrence ν)} {answer : Response × Exchange ν}
    (answered : Answered last outcome later answer) : answer.2.ctx.Continues last := by
  cases answered <;> exact ⟨rfl, rfl, rfl, rfl, rfl, rfl⟩

/-- What becomes of a context on the way of its request, up to the answer: `after` is what the hook
before the request has left of it. -/
structure CarriedInto (ctx after : Context ν) (answer : Response × Exchange ν)
    (marks : List (Occurrence ν)) : Prop where
  begins : ∃ rest, contexts marks = (ctx, after) :: rest
  follows : ∀ left, Followed (contexts marks ++ [(answer.2.ctx, left)])
  once : ∀ which, hooked which marks = if which = .beforeRequest then [(ctx, after)] else []
  unwritten : responses marks = []
  /-- A hook that stops it, or leaves out the network, keeps it from being sent. -/
  unsent : after.abort = true ∨ after.skipsNetwork = true → .roundTrip ∉ phases marks
  stopped : after.abort = true → answer.1 = after.response.getD {}
  supplied : after.abort = false → after.skipsNetwork = true →
    answer.1 = after.response.getD (.ofStatus .badGateway)

/-- Where the hook stops it, or leaves out the network, there is no other hook. -/
theorem carriedInto_of_unsent {ctx after last : Context ν} {later : List (Occurrence ν)}
    {outcome : Option (Except ProxyError Response)} {answer : Response × Exchange ν}
    (answered : Answered last outcome later answer) (continues : answer.2.ctx.Continues after)
    (stopped : after.abort = true → answer.1 = after.response.getD {})
    (supplied : after.abort = false → after.skipsNetwork = true →
      answer.1 = after.response.getD (.ofStatus .badGateway)) :
    CarriedInto ctx after answer (.hook .beforeRequest ctx after :: later) := by
  obtain ⟨unseen, unhooked, unwritten, unphased⟩ := answered.unhooked
  refine ⟨⟨[], ?_⟩, fun left => ?_, fun which => ?_, ?_, fun _ => ?_, stopped, supplied⟩
  · simp [Occurrence.contexts?, unseen]
  · simp [Occurrence.contexts?, unseen, continues]
  · cases which <;> simp [Occurrence.hooked?, unhooked]
  · simp [Occurrence.response?, unwritten]
  · simp [Occurrence.phase?, Hook.phase, unphased]

/-- Where the hook does neither, there is one more hook. -/
theorem carriedInto_of_sending {ctx after last : Context ν} {answer : Response × Exchange ν}
    {marks : List (Occurrence ν)} (goesOn : after.abort = false) (sends : after.skipsNetwork = false)
    (views : contexts marks = [(ctx, after), (after.takeBody.2, last)])
    (continues : answer.2.ctx.Continues last)
    (once : ∀ which, hooked which marks = if which = .beforeRequest then [(ctx, after)] else [])
    (unwritten : responses marks = []) : CarriedInto ctx after answer marks where
  begins := ⟨_, views⟩
  follows left := by
    have taken : after.takeBody.2.Continues after := ⟨rfl, rfl, rfl, rfl, rfl, rfl⟩
    simp [views, taken, continues]
  once
  unwritten
  unsent := by
    rintro (stop | skips)
    · exact absurd (goesOn.symm.trans stop) Bool.false_ne_true
    · exact absurd (sends.symm.trans skips) Bool.false_ne_true
  stopped stop := absurd (goesOn.symm.trans stop) Bool.false_ne_true
  supplied _ skips := absurd (sends.symm.trans skips) Bool.false_ne_true

theorem carriedInto_of_passage {ctx last : Context ν} {passage later : List (Occurrence ν)}
    {outcome : Option (Except ProxyError Response)} {answer : Response × Exchange ν}
    (way : Passage ctx passage last outcome) (answered : Answered last outcome later answer) :
    ∃ after, CarriedInto ctx after answer (passage ++ later) := by
  obtain ⟨unseen, unhooked, unwritten, -⟩ := answered.unhooked
  obtain ⟨given, -⟩ := answered.answer_eq
  have continues := answered.continues
  cases way with
  | stopped _ stop =>
      refine ⟨last, carriedInto_of_unsent answered continues (fun _ => given) fun goesOn => ?_⟩
      exact absurd (goesOn.symm.trans stop) Bool.false_ne_true
  | supplied after goesOn skips =>
      have taken : answer.2.ctx.Continues after := ⟨continues.notes, continues.remote,
        continues.abort, continues.tunnel, continues.failFast, continues.needMock⟩
      refine ⟨after, carriedInto_of_unsent answered taken (fun stop => ?_) fun _ _ => ?_⟩
      · exact absurd (goesOn.symm.trans stop) Bool.false_ne_true
      · rw [given, Proxy.suppliedResponse, Context.takeResponse]
        cases after.response <;> rfl
  | unsent after source reviewed left goesOn sends =>
      refine ⟨after, carriedInto_of_sending goesOn sends ?_ continues (fun which => ?_) ?_⟩
      · simp [Occurrence.contexts?, unseen]
      · cases which <;> simp [Occurrence.hooked?, unhooked]
      · simp [Occurrence.response?, unwritten]
  | sent after parent given reviewed left goesOn sends =>
      refine ⟨after, carriedInto_of_sending goesOn sends ?_ continues (fun which => ?_) ?_⟩
      · simp [Occurrence.contexts?, unseen]
      · cases which <;> simp [Occurrence.hooked?, unhooked]
      · simp [Occurrence.response?, unwritten]

/-! ## A tunnel that is decrypted -/

/-- What is carried through a tunnel that is decrypted: `left` is what the second hook has left, and
`after` what the hook before the request has left of it. The request inside is `aimed`, and `others`
come behind it. -/
structure CarriedOver (left after : Context ν) (aimed : Request) (others : List Request)
    (seen : List (Occurrence ν)) : Prop where
  /-- The first two hooks run once, and not again for the request inside. -/
  opened : ∃ shown held, hooked .connect seen = [(shown, held)] ∧ hooked .auth seen = [(held, left)]
  /-- The hook before the request is shown what they left, but for the request and the connection. -/
  inherits : hooked .beforeRequest seen =
    [({ left with request := aimed, upgrade := none }, after)]
  /-- Every hook is shown what the one before it left, up to the last. -/
  follows : Followed (contexts seen)
  finishes : ∃ views shown last, contexts seen = views ++ [(shown, last)] ∧
    hooked .finish seen = [(shown, last)]
  unsent : after.abort = true ∨ after.skipsNetwork = true → .roundTrip ∉ phases seen
  /-- What the client is given inside. -/
  answered : ∃ response, responses seen = response :: others.map (fun _ => .ofStatus .badGateway) ∧
    (after.abort = true → response = after.response.getD {}) ∧
    (after.abort = false → after.skipsNetwork = true →
      response = after.response.getD (.ofStatus .badGateway))

theorem aftermath_unhooked (others : List Request) (target : String) (ended : Option String) :
    contexts (aftermath others target ended : List (Occurrence ν)) = [] ∧
      (∀ which, hooked which (aftermath others target ended : List (Occurrence ν)) = []) ∧
      responses (aftermath others target ended : List (Occurrence ν)) =
        others.map (fun _ => .ofStatus .badGateway) := by
  unfold aftermath
  induction others with
  | nil => cases ended <;> exact ⟨rfl, fun _ => rfl, rfl⟩
  | cons request others ih =>
      obtain ⟨unseen, unhooked, written⟩ := ih
      refine ⟨unseen, unhooked, ?_⟩
      rw [List.map_cons, List.map_cons, ← written]
      rfl

/-- The marks of a tunnel in which a request is handled. -/
theorem carriedOver_of_served {shown held left after : Context ν} {asked : Request}
    {parent : Option Uri} {leaf : Leaf} {client tls : Stream} {first aimed : Request}
    {others : List Request} {ended : Option String} {marks : List (Occurrence ν)}
    {answer : Response × Exchange ν} {target : String} (last : Context ν)
    (carried : CarriedInto { left with request := aimed, upgrade := none } after answer marks) :
    CarriedOver left after aimed others
      (granted shown held left asked parent ++ (opened leaf client tls (first :: others) ended ++
        (marks ++ .responded answer.1 :: finished answer.2.ctx last ++
          aftermath others target ended))) := by
  obtain ⟨unseen, unhooked, written⟩ := aftermath_unhooked (ν := ν) others target ended
  obtain ⟨⟨rest, begins⟩, follows, once, unwritten, unsent, stopped, supplied⟩ := carried
  have views : contexts (granted shown held left asked parent ++
      (opened leaf client tls (first :: others) ended ++
        (marks ++ .responded answer.1 :: finished answer.2.ctx last ++
          aftermath others target ended))) =
      (shown, held) :: (held, left) :: (contexts marks ++ [(answer.2.ctx, last)]) := by
    simp [granted, letThrough, opened, finished, Occurrence.contexts?, unseen]
  refine ⟨⟨shown, held, ?_, ?_⟩, ?_, ?_, ⟨_ :: _ :: contexts marks, _, last, views, ?_⟩, ?_, ?_⟩
  · simp [granted, letThrough, opened, finished, Occurrence.hooked?, unhooked, once]
  · simp [granted, letThrough, opened, finished, Occurrence.hooked?, unhooked, once]
  · simp [granted, letThrough, opened, finished, Occurrence.hooked?, unhooked, once]
  · have inside := follows last
    rw [begins] at inside
    rw [views, begins]
    exact .cons_cons (.refl held) (.cons_cons ⟨rfl, rfl, rfl, rfl, rfl, rfl⟩ inside)
  · simp [granted, letThrough, opened, finished, Occurrence.hooked?, unhooked, once]
  · intro supplies
    have silent : phases (aftermath others target ended : List (Occurrence ν)) = [] :=
      phases_of_silent fun o member => (aftermath_silent others target ended ⟨0⟩ o member).1
    simpa [granted, letThrough, opened, finished, Occurrence.phase?, Hook.phase, silent]
      using unsent supplies
  · refine ⟨answer.1, ?_, stopped, supplied⟩
    simp [granted, letThrough, opened, finished, Occurrence.response?, unwritten, written]

/-- No requests are read while one is handled. -/
theorem RelayAnswer.unread {ctx : Context ν} {aimed : Except ProxyError Request}
    {marks : List (Occurrence ν)} {answer : Response × Exchange ν}
    (answered : RelayAnswer ctx aimed marks answer) (requests : List Request)
    (ended : Option String) : .received requests ended ∉ marks := by
  cases answered with
  | unnamed e nameless => simp
  | relayed request named last passage later outcome answer way answered =>
      rw [List.mem_append, not_or]
      exact ⟨by cases way <;> simp, by cases answered <;> simp⟩

/-- A course on which requests are read, and the first can be aimed, is the one that handles it. -/
theorem DecryptCourse.carriedOver {left : Context ν} {target : String} {timeout : Duration}
    {marks : List (Occurrence ν)}
    (course : DecryptCourse left.takeUpgrade.2 target timeout marks)
    {first aimed : Request} {others : List Request} {ended : Option String}
    (received : .received (first :: others) ended ∈ marks)
    (named : withTunnelOrigin first target = .ok aimed) (shown held : Context ν) (asked : Request)
    (parent : Option Uri) : ∃ after,
      CarriedOver left after aimed others (granted shown held left asked parent ++ marks) := by
  cases course with
  | unwritable last => simp [finished] at received
  | failed marks e failing last => cases failing <;> simp [finished] at received
  | unused leaf client tls closed last =>
      cases closed <;> simp [opened, finished, endLogged] at received
  | served leaf client tls given behind closed marks answer answered last =>
      obtain ⟨⟨rfl, rfl⟩, rfl⟩ : (first = given ∧ others = behind) ∧ ended = closed := by
        have silent := answered.unread (first :: others) ended
        have late : (.received (first :: others) ended : Occurrence ν) ∉
            aftermath behind target closed := by
          cases closed <;> simp [aftermath, endLogged]
        simpa [opened, finished, silent, late] using received
      cases answered with
      | unnamed e nameless => cases named.symm.trans nameless
      | relayed request named' last' passage later outcome answer way answered =>
          obtain rfl := Except.ok.inj (named.symm.trans named')
          obtain ⟨after, carried⟩ := carriedInto_of_passage way answered
          exact ⟨after, carriedOver_of_served last carried⟩

/-- **One context is carried from the connection to the end.** Whatever the hooks, the transport and
the network do, and whatever other exchanges do beside it: once a proxy with a certificate authority
has let a request for a tunnel through, and has read requests inside of which the first can be aimed,
the tunnel is on a course that is `CarriedOver`, and has taken it when it ends. -/
theorem Proxy.context_carried [EmptyCollection ν] (proxy : Proxy σ ν) (world : σ) (capacity : Nat)
    (ttl : Duration) (authority : CertificateAuthority) (moves : List (Move Inbound))
    {thread : Attendance σ ν}
    (member : thread ∈ (Weave.run proxy.attendTo (.initial world capacity ttl (some authority))
      moves).threads) {left : Context ν} (auth : authorized thread.seen = some left)
    (grants : left.abort = false) (way : route left.request = .tunnel) {first aimed : Request}
    {others : List Request} {closed : Option String}
    (received : .received (first :: others) closed ∈ thread.seen)
    (named : withTunnelOrigin first (tunnelTarget left.request.uri) = .ok aimed) :
    ∃ later after, CarriedOver left after aimed others (thread.seen ++ later) ∧
      (thread.Ended → later = []) := by
  have standing : Decrypts true (.initial world capacity ttl (some authority) : ProxyState σ ν) := rfl
  obtain ⟨rest, shown, held, parent, marks, course, whole, ended⟩ :=
    decryptCourse_of_run standing member auth grants way received rfl
  have read : .received (first :: others) closed ∈ marks := by
    have read := List.mem_append_left rest received
    rw [whole] at read
    simpa [granted, letThrough] using read
  obtain ⟨after, carried⟩ := course.carriedOver read named shown held left.request parent
  exact ⟨rest, after, whole ▸ carried, ended⟩

/-- A proxy that decrypts, whose first hook supplies a response and leaves a note. What its hook before
the request does is `review`. -/
def mocking (review : Scene → Scene) : Proxy Stage Notes :=
  { decrypting with
    delegate :=
      { connect := fun ctx =>
          return { ctx.mock (.ofStatus .imATeapot) with notes := { tag := some "mocked" } }
        beforeRequest := fun ctx => return review ctx } }

/-- An exchange of it, from its beginning to its end. -/
def mockedWeave (review : Scene → Scene) :
    Weave Inbound (Occurrence Notes) (ProxyState Stage Notes) Unit :=
  Weave.run (mocking review).attendTo
    (.initial ⟨{}, [], [], 0, ⟨⟨.p256, []⟩, 1⟩⟩ 1 (.ofSecs 1)
      (some (.new ⟨"", .ofNames "o" "c", ⟨.p256, []⟩, ⟨⟨.p256, []⟩, 1⟩⟩ none)))
    (.start ⟨{ method := .connect, uri := .authority ⟨"tea:443", by decide, by decide, by decide⟩ },
      none, some ⟨0⟩⟩ :: List.replicate 30 (.advance 0))

/-- The requests that are read on a decrypted stream, and how it ends. -/
def Occurrence.received? {ν : Type} : Occurrence ν → Option (List Request × Option String)
  | .received requests ended => some (requests, ended)
  | _ => none

theorem context_carried_mocked :
    ∃ thread ∈ (mockedWeave id).threads, (hooked .connect thread.seen).length = 1 ∧
      .roundTrip ∉ phases thread.seen ∧
      responses thread.seen = [.ofStatus .imATeapot, .ofStatus .badGateway] := by
  have course : ((mockedWeave id).threads.any fun thread => thread.value?.isSome &&
      (authorized thread.seen).any (fun left => !left.abort && route left.request == .tunnel &&
        (withTunnelOrigin {} (tunnelTarget left.request.uri)).toBool) &&
      thread.seen.any (fun o => o.received? == some ([{}, {}], none)) &&
      (hooked .beforeRequest thread.seen).map (fun view =>
        (view.2.abort, view.2.skipsNetwork, view.2.response)) ==
          [(false, true, some (.ofStatus .imATeapot))]) = true := by decide +kernel
  obtain ⟨thread, member, holds⟩ := List.any_eq_true.mp course
  simp only [Bool.and_eq_true, beq_iff_eq] at holds
  obtain ⟨⟨⟨ended, passes⟩, reads⟩, supplies⟩ := holds
  obtain ⟨left, auth, passes⟩ := (Option.any_eq_true ..).mp passes
  simp only [Bool.and_eq_true, Bool.not_eq_true', beq_iff_eq] at passes
  obtain ⟨⟨grants, way⟩, names⟩ := passes
  obtain ⟨o, read, both⟩ := List.any_eq_true.mp reads
  cases named : withTunnelOrigin {} (tunnelTarget left.request.uri) with
  | error e => simp [named, Except.toBool] at names
  | ok aimed =>
      have received : .received [{}, {}] none ∈ thread.seen := by
        cases o <;> simp [Occurrence.received?] at both
        exact both.1 ▸ both.2 ▸ read
      obtain ⟨later, after, carried, all⟩ := (mocking id).context_carried _ _ _ _ _ member auth
        grants way received named
      rw [all ended, List.append_nil] at carried
      obtain ⟨shown, held, connected, -⟩ := carried.opened
      rw [carried.inherits] at supplies
      simp only [List.map_cons, List.map_nil, List.cons.injEq, Prod.mk.injEq, and_true] at supplies
      obtain ⟨goesOn, skips, response⟩ := supplies
      obtain ⟨answer, written, -, supplied⟩ := carried.answered
      refine ⟨thread, member, by rw [connected]; rfl, carried.unsent (.inr skips), ?_⟩
      rw [written, supplied goesOn skips, response]
      rfl

/-- What the first hook supplies and notes is of no use once the hook before the request takes it back:
the request inside is sent, and the last hook finds no note. -/
theorem mock_withdrawn :
    ∃ thread ∈ (mockedWeave fun ctx => { ctx with needMock := false, notes := ∅ }).threads,
      ∃ left, authorized thread.seen = some left ∧ left.abort = false ∧ left.needMock = true ∧
        left.response = some (.ofStatus .imATeapot) ∧ left.notes.tag = some "mocked" ∧
        .roundTrip ∈ phases thread.seen ∧
        responses thread.seen = [.ofStatus .ok, .ofStatus .badGateway] ∧
        (hooked .finish thread.seen).map (·.1.notes.tag) = [none] := by
  have course : ((mockedWeave fun ctx => { ctx with needMock := false, notes := ∅ }).threads.any
      fun thread => (authorized thread.seen).any (fun left => !left.abort && left.needMock &&
          left.response == some (.ofStatus .imATeapot) && left.notes.tag == some "mocked") &&
        (phases thread.seen).contains .roundTrip &&
        responses thread.seen == [.ofStatus .ok, .ofStatus .badGateway] &&
        (hooked .finish thread.seen).map (·.1.notes.tag) == [none]) = true := by
    decide +kernel
  obtain ⟨thread, member, holds⟩ := List.any_eq_true.mp course
  simp only [Bool.and_eq_true, beq_iff_eq] at holds
  obtain ⟨⟨⟨passes, sent⟩, written⟩, noted⟩ := holds
  obtain ⟨left, auth, passes⟩ := (Option.any_eq_true ..).mp passes
  simp only [Bool.and_eq_true, Bool.not_eq_true', beq_iff_eq] at passes
  obtain ⟨⟨⟨grants, mocks⟩, response⟩, tag⟩ := passes
  exact ⟨thread, member, left, auth, grants, mocks, response, tag,
    List.contains_iff_mem.mp sent, written, noted⟩

end Interceptor

/-
# Interceptor.Proofs.Tunnel.Raw — a raw tunnel from its request to its end

A proxy without a certificate authority relays a tunnel's bytes as they are. Five
things may fail on the way, some before the client is answered and some after:
naming a parent, having it grant a tunnel, taking over the client's connection,
dialing the target, and the transfer itself. `RelayCourse` lists the courses of
the task, read off the text of `runRelay`; `Relayed` is what every tunnel has:

* a client is granted a tunnel unless something stood in the way, and then it is
  given a bare 502, or the status a parent refused with;
* the hooks before the request and after the response are shown the tunnel once
  both of its ends are connected, and otherwise not at all; nothing they do stops
  it, and nothing is relayed before;
* what fails is logged, once, and nothing else is;
* the last hook comes last.

A lookup that overruns the clock is not among the five: it takes the task with it and is not logged.
The client of a tunnel to be granted by a parent is given nothing then (`unserved`), any other has its
tunnel already, which ends.
-/
import Interceptor.Proofs.Exchange.Phases
import Interceptor.Proofs.Tunnel.Grant

namespace Interceptor

set_option autoImplicit false

open Http Net

variable {σ ν : Type}

/-! ## Courses -/

/-- How a far end is reached: it is dialed, unless a parent has granted the way. -/
inductive Reached : FarEnd → List (Occurrence ν) → Prop
  | direct (addr : String) (server : Stream) :
      Reached (.direct addr) [.dialed addr (some (.ok server))]
  | parent (tunnel : Stream) : Reached (.parent tunnel) []

/-- What the hook after the response is shown of a raw tunnel: the response the hook before it has
supplied, or an empty one. -/
def announced (held : Context ν) : Except ProxyError Response × Context ν :=
  if held.skipsNetwork then Proxy.suppliedResponse held else (.ok {}, held)

/-- The marks of the two hooks that are shown a raw tunnel. -/
def announcement (ctx held last : Context ν) (kept : Except ProxyError Response) :
    List (Occurrence ν) :=
  [.hook .beforeRequest { ctx with tunnel := true } held,
    .reviewed (announced held).2 (announced held).1 last kept]

/-- The marks of a transfer, after those of the bytes themselves. -/
def transferEnd (target : String) : Except IoError Nat → List (Occurrence ν)
  | .ok _ => []
  | .error source => [.logged (.transfer target source)]

/-- What may happen in a raw tunnel, with the context that is left. -/
inductive RelayCourse (ctx : Context ν) (farEnd : FarEnd) (target : String) :
    List (Occurrence ν) → Context ν → Prop
  /-- The client's connection is lost. -/
  | lost (source : String) :
      RelayCourse ctx farEnd target
        [.takenOver (.error source), .logged (.upgrade target source)] ctx
  /-- The target is not reached. -/
  | unreached (client : Stream) (addr : String) (direct : farEnd = .direct addr) (e : ProxyError) :
      RelayCourse ctx farEnd target
        [.takenOver (.ok client), .dialed addr (some (.error e)), .logged e] ctx
  /-- The lookup of the target overruns the clock. -/
  | overran (client : Stream) (addr : String) (direct : farEnd = .direct addr) :
      RelayCourse ctx farEnd target [.takenOver (.ok client), .dialed addr none] ctx
  | relayed (client : Stream) (reaching : List (Occurrence ν)) (reached : Reached farEnd reaching)
      (held last : Context ν) (kept : Except ProxyError Response) (outcome : Except IoError Nat) :
      RelayCourse ctx farEnd target
        (.takenOver (.ok client) :: reaching ++ announcement ctx held last kept ++
          .relayed outcome :: transferEnd target outcome) last

namespace Proxy

variable {proxy : Proxy σ ν}

theorem seen_announceTunnel {exchange left : Exchange ν} {seen : List (Occurrence ν)}
    (course : (proxy.announceTunnel exchange).Yields seen left) :
    ∃ held kept, seen = announcement exchange.ctx held left.ctx kept := by
  unfold announceTunnel at course
  rw [Strand.yields_bind] at course
  obtain ⟨hooking, held, rest, rfl, hooked, course⟩ := course
  obtain rfl := seen_outside hooked
  simp only at course
  rw [Strand.yields_bind] at course
  obtain ⟨viewing, ⟨last, kept⟩, rest, rfl, viewed, course⟩ := course
  obtain rfl := seen_outside viewed
  obtain ⟨rfl, rfl⟩ := Strand.yields_done.mp course
  exact ⟨held, kept, rfl⟩

theorem yields_takeBuffer {seen : List (Occurrence ν)} {buffer : Buffer}
    (course : (takeBuffer : ProxyM σ ν Buffer).Yields seen buffer) :
    seen = [] ∧ buffer = .zeroed := by
  obtain ⟨state, rfl, rfl⟩ := Strand.yields_act.mp course
  exact ⟨rfl, Buffer.get_zeroed state.buffers⟩

/-- A transfer copies once, through two buffers without a byte in them. -/
theorem seen_transferWith
    {relay : Buffer → Buffer → StateM σ (Except IoError Nat × Buffer × Buffer)} {target : String}
    {seen : List (Occurrence ν)} {result : Unit}
    (course : (proxy.transferWith relay target).Yields seen result) :
    ∃ world outcome, ((relay .zeroed .zeroed).run world).1.1 = outcome ∧
      seen = .relayed outcome :: transferEnd target outcome := by
  unfold transferWith at course
  rw [Strand.yields_bind] at course
  obtain ⟨taking, up, rest, rfl, took, course⟩ := course
  obtain ⟨rfl, rfl⟩ := yields_takeBuffer took
  rw [Strand.yields_bind] at course
  obtain ⟨taking, down, rest, rfl, took, course⟩ := course
  obtain ⟨rfl, rfl⟩ := yields_takeBuffer took
  rw [Strand.yields_bind] at course
  obtain ⟨relaying, ⟨outcome, up, down⟩, rest, rfl, relayed, course⟩ := course
  obtain ⟨state, copied, rfl⟩ := Strand.yields_act.mp relayed
  have returns : ∀ {rest}, (do returnBuffer up; returnBuffer down : ProxyM σ ν Unit).Yields rest
      result → rest = [] := by
    intro rest course
    rw [Strand.yields_bind] at course
    obtain ⟨returning, _, rest, rfl, returned, course⟩ := course
    obtain rfl := seen_quietly returned
    exact seen_quietly course
  refine ⟨state.world, outcome, (congrArg Prod.fst copied).symm, ?_⟩
  cases outcome with
  | ok count =>
      obtain rfl := returns course
      rfl
  | error source =>
      simp only at course
      rw [Strand.yields_bind] at course
      obtain ⟨logging, _, rest, rfl, logged, course⟩ := course
      obtain rfl := seen_outside logged
      obtain rfl := returns course
      rfl

theorem seen_reach {farEnd : FarEnd} {seen : List (Occurrence ν)}
    {outcome : Option (Except ProxyError Stream)} (course : (proxy.reach farEnd).Yields seen outcome) :
    (∃ addr, farEnd = .direct addr ∧ seen = [.dialed addr outcome]) ∨
      ∃ tunnel, farEnd = .parent tunnel ∧ outcome = some (.ok tunnel) ∧ seen = [] := by
  cases farEnd with
  | direct addr => exact .inl ⟨addr, rfl, (seen_dial course).1⟩
  | parent tunnel =>
      obtain ⟨rfl, rfl⟩ := Strand.yields_done.mp course
      exact .inr ⟨tunnel, rfl, rfl, rfl⟩

/-- What follows once both ends of a tunnel are there. -/
theorem relayCourse_of_reached {exchange left : Exchange ν} {farEnd : FarEnd} {target : String}
    {client server : Stream} {reaching seen : List (Occurrence ν)} (reached : Reached farEnd reaching)
    (course : (do
      let exchange ← proxy.announceTunnel exchange
      proxy.transfer client server target
      return exchange : ProxyM σ ν _).Yields seen left) :
    RelayCourse exchange.ctx farEnd target (.takenOver (.ok client) :: (reaching ++ seen))
      left.ctx := by
  rw [Strand.yields_bind] at course
  obtain ⟨announcing, last, rest, rfl, announce, course⟩ := course
  obtain ⟨held, kept, rfl⟩ := seen_announceTunnel announce
  rw [Strand.yields_bind] at course
  obtain ⟨relaying, _, rest, rfl, relayed, course⟩ := course
  obtain ⟨_, outcome, -, rfl⟩ := seen_transferWith relayed
  obtain ⟨rfl, rfl⟩ := Strand.yields_done.mp course
  have way : RelayCourse exchange.ctx farEnd target _ left.ctx :=
    .relayed client reaching reached held left.ctx kept outcome
  simpa using way

/-- A raw tunnel takes one of the courses. -/
theorem relayCourse_of_runRelay {exchange left : Exchange ν} {upgrade : UpgradeHandle}
    {farEnd : FarEnd} {target : String} {seen : List (Occurrence ν)}
    (course : (proxy.runRelay exchange upgrade farEnd target).Yields seen left) :
    RelayCourse exchange.ctx farEnd target seen left.ctx := by
  unfold runRelay at course
  rw [Strand.yields_bind] at course
  obtain ⟨taking, taken, rest, rfl, took, course⟩ := course
  obtain rfl := seen_outside took
  cases taken with
  | error source =>
      simp only at course
      rw [Strand.yields_bind] at course
      obtain ⟨logging, _, rest, rfl, logged, course⟩ := course
      obtain rfl := seen_outside logged
      obtain ⟨rfl, rfl⟩ := Strand.yields_done.mp course
      exact .lost source
  | ok client =>
      simp only at course
      rw [Strand.yields_bind] at course
      obtain ⟨reaching, reached, rest, rfl, reach, course⟩ := course
      rcases seen_reach reach with ⟨addr, rfl, rfl⟩ | ⟨tunnel, rfl, rfl, rfl⟩
      · rcases reached with _ | (e | server)
        · obtain ⟨rfl, rfl⟩ := Strand.yields_done.mp course
          exact .overran client addr rfl
        · simp only at course
          rw [Strand.yields_bind] at course
          obtain ⟨logging, _, rest, rfl, logged, course⟩ := course
          obtain rfl := seen_outside logged
          obtain ⟨rfl, rfl⟩ := Strand.yields_done.mp course
          exact .unreached client addr rfl e
        · have way := relayCourse_of_reached (.direct addr server) course
          exact way
      · have way := relayCourse_of_reached (.parent tunnel) course
        exact way

end Proxy

/-! ## What every raw tunnel has -/

namespace Occurrence

/-- A parent is named. -/
@[simp] def namesParent : Occurrence ν → Bool
  | .parentAsked _ (.ok (some _)) => true
  | _ => false

/-- What may keep the client from its tunnel. A dial does when it is for a parent. -/
@[simp] def obstacle? (target : String) (through : Bool) : Occurrence ν → Option ProxyError
  | .parentAsked _ (.error source) => some (.parentProxy target source)
  | .parentAsked _ (.ok (some parent)) =>
    match authorityWithPort parent 80 with
    | .error e => some e
    | .ok _ => none
  | .dialed _ (some (.error e)) => if through then some e else none
  | .tunnelAsked goal (.error (.broken source)) => some (.request goal source)
  | .tunnelAsked goal (.error (.refused status)) => some (.parentRefused goal status)
  | _ => none

/-- What may fail in a tunnel that was granted. -/
@[simp] def mishap? (target : String) (through : Bool) : Occurrence ν → Option ProxyError
  | .takenOver (.error source) => some (.upgrade target source)
  | .dialed _ (some (.error e)) => if through then none else some e
  | .relayed (.error source) => some (.transfer target source)
  | _ => none

/-- The client's end is there. -/
def takes : Occurrence ν → Bool
  | .takenOver (.ok _) => true
  | _ => false

/-- The other end is there: the target was reached, or the parent has granted the way. -/
def reaches (through : Bool) : Occurrence ν → Bool
  | .dialed _ (some (.ok _)) => !through
  | .tunnelAsked _ (.ok _) => through
  | _ => false

/-- A lookup has overrun the clock. -/
def overruns : Occurrence ν → Bool
  | .dialed _ none => true
  | _ => false

/-- Bytes are relayed. -/
def relays : Occurrence ν → Bool
  | .relayed _ => true
  | _ => false

end Occurrence

/-- A parent was named for the tunnel. -/
def through (seen : List (Occurrence ν)) : Bool := seen.any Occurrence.namesParent

/-- What has kept the client from its tunnel. -/
def obstacles (left : Context ν) (seen : List (Occurrence ν)) : List ProxyError :=
  (if left.upgrade.isSome then [] else [.hijackUnsupported (tunnelTarget left.request.uri)]) ++
    seen.filterMap (Occurrence.obstacle? (tunnelTarget left.request.uri) (through seen))

/-- What has failed in a tunnel that was granted. -/
def mishaps (left : Context ν) (seen : List (Occurrence ν)) : List ProxyError :=
  seen.filterMap (Occurrence.mishap? (tunnelTarget left.request.uri) (through seen))

/-- Both ends of the tunnel are there. -/
def connected (seen : List (Occurrence ν)) : Bool :=
  seen.any Occurrence.takes && seen.any (Occurrence.reaches (through seen))

/-- The task that was to have a parent grant the tunnel has ended with the lookup of the parent. -/
def unserved (seen : List (Occurrence ν)) : Bool := through seen && seen.any Occurrence.overruns

/-- How a request for a raw tunnel is answered, what is logged of it, and that it ends. -/
structure Settled (left : Context ν) (seen : List (Occurrence ν)) : Prop where
  answered : answers seen = if unserved seen then [] else [match obstacles left seen with
    | [] => connectionEstablished
    | e :: _ => .ofStatus (refusal e)]
  /-- Only a parent refuses with a status of its own. -/
  refused : ∀ goal status, .parentRefused goal status ∈ obstacles left seen →
    .tunnelAsked goal (.error (.refused status)) ∈ seen
  /-- With a parent, a tunnel is granted only after the parent has granted one. -/
  vouched : through seen = true → ∀ before response after,
    seen = before ++ .tunnelled response :: after → ∃ goal tunnel, .tunnelAsked goal (.ok tunnel) ∈ before
  logged : logs seen = obstacles left seen ++ mishaps left seen
  single : (obstacles left seen ++ mishaps left seen).length ≤ 1
  finishes : ∃ before shown after, seen = before ++ [.hook .finish shown after, .retired] ∧
    .finish ∉ phases before

/-- What every raw tunnel keeps to that both hooks let through, with the context they left. -/
structure Relayed (left : Context ν) (seen : List (Occurrence ν)) : Prop extends
    Settled left seen where
  /-- The tunnel is shown to the hooks just when it is connected. -/
  shown : phases seen = if connected seen then
      [.connect, .auth, .parentProxy, .beforeRequest, .beforeResponse, .finish]
    else if left.upgrade.isSome then [.connect, .auth, .parentProxy, .finish]
    else [.connect, .auth, .finish]
  marked : ∀ shown held, .hook .beforeRequest shown held ∈ seen →
    shown = { left with upgrade := none, tunnel := true }
  /-- The hook after the response is shown what the hook before the request left. -/
  reviewed : ∀ shown outcome last kept, .reviewed shown outcome last kept ∈ seen → ∃ before held,
    .hook .beforeRequest before held ∈ seen ∧ outcome = (announced held).1 ∧
      shown = (announced held).2 ∧ shown.tunnel = held.tunnel
  relays : connected seen = true ↔ ∃ outcome, .relayed outcome ∈ seen
  first : ∀ before outcome after, seen = before ++ .relayed outcome :: after →
    phases before = [.connect, .auth, .parentProxy, .beforeRequest, .beforeResponse]

theorem announced_tunnel (held : Context ν) : (announced held).2.tunnel = held.tunnel := by
  unfold announced
  split <;> rfl

section Parts

variable {left : Context ν} {seen : List (Occurrence ν)}

/-- A tunnel that is not connected is shown to no hook. -/
theorem Settled.relayed_of_unconnected (settled : Settled left seen) (apart : connected seen = false)
    (reached : phases seen = if left.upgrade.isSome then [.connect, .auth, .parentProxy, .finish]
      else [.connect, .auth, .finish])
    (unrelayed : seen.any Occurrence.relays = false) : Relayed left seen := by
  have unshown : ∀ phase ∉ [Phase.connect, .auth, .parentProxy, .finish], phase ∉ phases seen := by
    intro phase other member
    rw [reached] at member
    split at member <;> simp_all
  have none : ∀ outcome, .relayed outcome ∉ seen :=
    fun outcome member => nomatch (List.any_eq_false.mp unrelayed _ member) rfl
  refine ⟨settled, ?_, ?_, ?_, ?_, ?_⟩
  · rw [apart, reached]
    rfl
  · exact fun shown held member => absurd (mem_phases member rfl) (unshown _ (by decide))
  · exact fun shown outcome last kept member =>
      absurd (mem_phases member rfl) (unshown _ (by decide))
  · rw [apart]
    exact ⟨fun never => (nomatch never), fun ⟨outcome, member⟩ => absurd member (none outcome)⟩
  · rintro before outcome after rfl
    exact absurd (List.mem_append_right _ (List.mem_cons_self ..)) (none outcome)

/-- Bytes are relayed once, so what comes before is what was before. -/
theorem before_relayed {early late before after : List (Occurrence ν)}
    {outcome given : Except IoError Nat} (unrelayed : early.any Occurrence.relays = false)
    (rest : late.any Occurrence.relays = false)
    (cut : early ++ .relayed outcome :: late = before ++ .relayed given :: after) :
    early = before := by
  have clear : ∀ {marks : List (Occurrence ν)}, marks.any Occurrence.relays = false →
      ∀ o ∈ marks, o.relays = false := by
    intro marks none o member
    exact Bool.eq_false_iff.mpr (List.any_eq_false.mp none o member)
  exact (cut_unique (clear unrelayed) (clear rest) rfl cut).1

/-- A tunnel that is connected is shown to both hooks, and then relayed. -/
theorem Settled.relayed_of_connected {front late : List (Occurrence ν)} {held last : Context ν}
    {kept : Except ProxyError Response} {outcome : Except IoError Nat} (settled : Settled left seen)
    (whole : seen = front ++ announcement left.takeUpgrade.2 held last kept ++
      .relayed outcome :: late)
    (joined : connected seen = true) (before : phases front = [.connect, .auth, .parentProxy])
    (after : phases late = [.finish]) (unrelayed : front.any Occurrence.relays = false)
    (rest : late.any Occurrence.relays = false) : Relayed left seen := by
  have announces : phases (front ++ announcement left.takeUpgrade.2 held last kept) =
      [.connect, .auth, .parentProxy, .beforeRequest, .beforeResponse] := by
    rw [phases_append, before]
    rfl
  -- the marks of these two hooks are in between
  have own : ∀ {o : Occurrence ν} {phase : Phase}, o ∈ seen → o.phase? = some phase →
      phase ∉ [Phase.connect, .auth, .parentProxy, .finish] →
        o ∈ announcement left.takeUpgrade.2 held last kept := by
    intro o phase member found other
    rw [whole] at member
    refine mem_between member found ?_
    rw [phases_cons, before, after]
    exact other
  have hooked : .hook .beforeRequest { left.takeUpgrade.2 with tunnel := true } held ∈ seen := by
    rw [whole]
    simp [announcement]
  refine ⟨settled, ?_, ?_, ?_, ?_, ?_⟩
  · rw [joined, if_pos rfl, whole, phases_append, announces, phases_cons, after]
    rfl
  · intro shown given member
    have here := own member rfl (by decide)
    simp only [announcement, List.mem_cons, List.not_mem_nil, or_false, reduceCtorEq,
      Occurrence.hook.injEq] at here
    exact here.2.1
  · intro shown given after given' member
    have here := own member rfl (by decide)
    simp only [announcement, List.mem_cons, List.not_mem_nil, or_false, reduceCtorEq, false_or,
      Occurrence.reviewed.injEq] at here
    obtain ⟨rfl, rfl, -, -⟩ := here
    exact ⟨_, held, hooked, rfl, rfl, announced_tunnel held⟩
  · rw [joined, whole]
    exact ⟨fun _ => ⟨outcome, List.mem_append_right _ (List.mem_cons_self ..)⟩, fun _ => rfl⟩
  · intro first given later cut
    rw [whole] at cut
    have silent : (front ++ announcement left.takeUpgrade.2 held last kept).any
        Occurrence.relays = false := by
      rw [List.any_append, unrelayed]
      rfl
    rw [← before_relayed silent rest cut]
    exact announces

/-- A tunnel that is granted has its grant from the marks before it. -/
theorem vouched_of_front {front later : List (Occurrence ν)} {response : Response}
    (unanswered : answers front = []) (last : answers later = [])
    (granted : through (front ++ .tunnelled response :: later) = true →
      ∃ goal tunnel, .tunnelAsked goal (.ok tunnel) ∈ front) :
    through (front ++ .tunnelled response :: later) = true → ∀ before given after,
      front ++ .tunnelled response :: later = before ++ .tunnelled given :: after →
        ∃ goal tunnel, .tunnelAsked goal (.ok tunnel) ∈ before := by
  intro named before given after cut
  have silent : ∀ {marks : List (Occurrence ν)}, answers marks = [] →
      ∀ o ∈ marks, o.answer?.isSome = false := by
    intro marks none o member
    rw [List.filterMap_eq_nil_iff.mp none o member]
    rfl
  obtain ⟨rfl, -⟩ := cut_unique (p := fun o => o.answer?.isSome) (silent unanswered) (silent last)
    rfl cut
  exact granted named

end Parts

/-- What stands in the way of a tunnel is what has failed. -/
theorem Hindrance.failures_eq {left : Context ν} {marks : List (Occurrence ν)} {e : ProxyError}
    (hindered : Hindrance false left marks e) (shown held last after : Context ν)
    (response : Response) :
    obstacles left (letThrough shown held left ++ (marks ++ [.logged e]) ++
      closing response last after) = [e] ∧
    mishaps left (letThrough shown held left ++ (marks ++ [.logged e]) ++
      closing response last after) = [] := by
  cases hindered with
  | unsupported none =>
      simp [obstacles, mishaps, none, letThrough, closing, filterMap_cons_toList]
  | unparented there source =>
      simp [obstacles, mishaps, there, letThrough, closing, filterMap_cons_toList]
  | unvouched there raw parent goal marks e asked =>
      cases asked with
      | nowhere e misnamed =>
          simp [obstacles, mishaps, there, letThrough, closing, filterMap_cons_toList, misnamed]
      | unreached addr named e unrefused =>
          simp [obstacles, mishaps, there, letThrough, closing, filterMap_cons_toList, named, through]
      | broken addr named stream source =>
          simp [obstacles, mishaps, there, letThrough, closing, filterMap_cons_toList, named]
      | declined addr named stream status =>
          simp [obstacles, mishaps, there, letThrough, closing, filterMap_cons_toList, named]

/-- Up to there the client is not answered, nothing is logged, and no end of the tunnel is there. -/
theorem Hindrance.marks_eq {left : Context ν} {marks : List (Occurrence ν)} {e : ProxyError}
    (hindered : Hindrance false left marks e) :
    answers marks = [] ∧ logs marks = [] ∧
      phases marks = (if left.upgrade.isSome then [.parentProxy] else []) ∧
      marks.any Occurrence.takes = false ∧ marks.any Occurrence.relays = false ∧
      marks.any Occurrence.overruns = false := by
  cases hindered with
  | unsupported none =>
      rw [none]
      exact ⟨rfl, rfl, rfl, rfl, rfl, rfl⟩
  | unparented there source =>
      rw [if_pos there]
      exact ⟨rfl, rfl, rfl, rfl, rfl, rfl⟩
  | unvouched there raw parent goal marks e asked =>
      rw [if_pos there]
      cases asked <;> exact ⟨rfl, rfl, rfl, rfl, rfl, rfl⟩

/-- A parent that refused is among the marks. -/
theorem Hindrance.refused {left : Context ν} {marks : List (Occurrence ν)} {goal : String}
    {status : Status} (hindered : Hindrance false left marks (.parentRefused goal status)) :
    .tunnelAsked goal (.error (.refused status)) ∈ marks := by
  cases hindered with
  | unvouched there raw parent goal marks e asked =>
      cases asked with
      | nowhere e misnamed =>
          unfold authorityWithPort at misnamed
          split at misnamed <;> cases misnamed
      | unreached addr named e unrefused => exact absurd rfl (unrefused _ _)
      | declined addr named stream status =>
          exact List.mem_cons_of_mem _ (List.mem_cons_of_mem _ (List.mem_cons_self ..))

theorem Hindrance.settled {left : Context ν} {marks : List (Occurrence ν)} {e : ProxyError}
    (hindered : Hindrance false left marks e) (shown held last after : Context ν) :
    Settled left (letThrough shown held left ++ (marks ++ [.logged e]) ++
      closing (.ofStatus (refusal e)) last after) := by
  obtain ⟨blocked, spared⟩ := hindered.failures_eq shown held last after (.ofStatus (refusal e))
  obtain ⟨unanswered, unlogged, asked, -, -, lasts⟩ := hindered.marks_eq
  refine ⟨?_, ?_, ?_, ?_, ?_, ?_⟩
  · rw [blocked]
    simp [letThrough, closing, unserved, Occurrence.answer?, Occurrence.overruns, unanswered, lasts]
  · intro goal status member
    rw [blocked] at member
    obtain rfl := List.mem_singleton.mp member
    simp [hindered.refused]
  · intro _ before response granted cut
    have member : (.tunnelled response : Occurrence ν) ∈ marks := by
      have whole := cut ▸ List.mem_append_right before (List.mem_cons_self ..)
      simpa [letThrough, closing] using whole
    cases List.filterMap_eq_nil_iff.mp unanswered _ member
  · rw [blocked, spared]
    simp [letThrough, closing, Occurrence.logged?, unlogged]
  · rw [blocked, spared]
    exact Nat.le_refl 1
  · refine ⟨letThrough shown held left ++ (marks ++ [.logged e]) ++
      [.answered (.ofStatus (refusal e)), .released], last, after, by simp [closing], ?_⟩
    cases held : left.upgrade <;>
      simp [letThrough, Occurrence.phase?, Hook.phase, asked, held]

/-- A request that is refused a tunnel. -/
theorem Hindrance.relayed {left : Context ν} {marks : List (Occurrence ν)} {e : ProxyError}
    (hindered : Hindrance false left marks e) (shown held last after : Context ν) :
    Relayed left (letThrough shown held left ++ (marks ++ [.logged e]) ++
      closing (.ofStatus (refusal e)) last after) := by
  obtain ⟨-, -, asked, untaken, unrelayed, -⟩ := hindered.marks_eq
  refine (hindered.settled shown held last after).relayed_of_unconnected ?_ ?_ ?_
  · simp [connected, letThrough, closing, Occurrence.takes, untaken]
  · cases held : left.upgrade <;> simp [letThrough, closing, Occurrence.phase?, Hook.phase, asked, held]
  · simp [letThrough, closing, Occurrence.relays, unrelayed]

/-- A request whose task has ended while a parent was looked up for it. -/
theorem relayed_of_dropped {left : Context ν} (there : left.upgrade.isSome = true) {parent : Uri}
    {addr : String} (named : authorityWithPort parent 80 = .ok addr) (shown held last after : Context ν) :
    Relayed left (letThrough shown held left ++
      [.parentAsked left.request (.ok (some parent)), .dialed addr none] ++ finished last after) := by
  have settled : Settled left (letThrough shown held left ++
      [.parentAsked left.request (.ok (some parent)), .dialed addr none] ++ finished last after) := by
    refine ⟨rfl, ?_, ?_, ?_, ?_, ?_⟩
    · simp [obstacles, letThrough, finished, there, named]
    · simp [letThrough, finished, List.cons_eq_append_iff]
    · simp [obstacles, mishaps, letThrough, finished, there, named, Occurrence.logged?,
        filterMap_cons_toList]
    · simp [obstacles, mishaps, letThrough, finished, there, named, filterMap_cons_toList]
    · exact ⟨_, last, after, rfl, by simp [letThrough, Occurrence.phase?, Hook.phase]⟩
  refine settled.relayed_of_unconnected rfl ?_ rfl
  rw [if_pos there]
  rfl

section Granted

variable {left last : Context ν} {farEnd : FarEnd} {marks later : List (Occurrence ν)}

/-- The marks of a raw tunnel that was granted. -/
def rawMarks (shown held left : Context ν) (marks later : List (Occurrence ν))
    (last after : Context ν) : List (Occurrence ν) :=
  letThrough shown held left ++ marks ++
    .tunnelled connectionEstablished :: (later ++ finished last after)

/-- Nothing has stood in its way, and what fails in it is logged. -/
theorem RelayCourse.failures_eq (towards : Towards left.request farEnd marks)
    (course : RelayCourse left.takeUpgrade.2 farEnd (tunnelTarget left.request.uri) later last)
    (there : left.upgrade.isSome = true) (shown held after : Context ν) :
    obstacles left (rawMarks shown held left marks later last after) = [] ∧
    logs (rawMarks shown held left marks later last after) =
      mishaps left (rawMarks shown held left marks later last after) ∧
    (mishaps left (rawMarks shown held left marks later last after)).length ≤ 1 := by
  -- the far end decides how the tunnel was granted and how it is reached
  rcases course with source | ⟨client, addr, rfl, e⟩ | ⟨client, addr, rfl⟩ |
    ⟨client, reaching, reached, held, _, kept, outcome⟩
  · cases towards
    all_goals simp [obstacles, mishaps, rawMarks, letThrough, finished, filterMap_cons_toList,
      through, Occurrence.logged?, *]
  · cases towards
    simp [obstacles, mishaps, rawMarks, letThrough, finished, filterMap_cons_toList,
      through, Occurrence.logged?, *]
  · cases towards
    simp [obstacles, mishaps, rawMarks, letThrough, finished, filterMap_cons_toList,
      through, Occurrence.logged?, *]
  · cases reached <;> cases towards <;> cases outcome
    all_goals simp [obstacles, mishaps, rawMarks, letThrough, finished, filterMap_cons_toList,
      through, Occurrence.logged?, announcement, transferEnd, *]

/-- A tunnel that is granted was served. -/
theorem RelayCourse.unserved_eq {asked : Request} (towards : Towards asked farEnd marks)
    {ctx : Context ν} {target : String} (course : RelayCourse ctx farEnd target later last)
    (shown held left after : Context ν) :
    unserved (rawMarks shown held left marks later last after) = false := by
  rcases course with source | ⟨client, addr, rfl, e⟩ | ⟨client, addr, rfl⟩ |
    ⟨client, reaching, reached, held, _, kept, outcome⟩
  · cases towards <;> rfl
  · cases towards
    rfl
  · cases towards
    rfl
  · cases reached <;> cases towards <;> cases outcome <;> rfl

theorem Towards.marks_eq {asked : Request} (towards : Towards asked farEnd marks) :
    answers marks = [] ∧ phases marks = [.parentProxy] ∧
      (through marks = true → ∃ goal tunnel, .tunnelAsked goal (.ok tunnel) ∈ marks) := by
  cases towards with
  | direct addr => exact ⟨rfl, rfl, fun named => nomatch named⟩
  | parent parent addr named stream goal tunnel => exact ⟨rfl, rfl, fun _ => ⟨goal, tunnel, by simp⟩⟩

theorem RelayCourse.marks_eq {target : String} {ctx : Context ν}
    (course : RelayCourse ctx farEnd target later last) :
    answers later = [] ∧ Phase.finish ∉ phases later ∧ through later = false := by
  cases course with
  | lost source => exact ⟨rfl, List.not_mem_nil, rfl⟩
  | unreached client addr direct e => exact ⟨rfl, List.not_mem_nil, rfl⟩
  | overran client addr direct => exact ⟨rfl, List.not_mem_nil, rfl⟩
  | relayed client reaching reached held last kept outcome =>
      cases reached <;> cases outcome <;>
        simp [announcement, transferEnd, Occurrence.answer?, Occurrence.phase?, Hook.phase, through]

theorem RelayCourse.settled (towards : Towards left.request farEnd marks)
    (course : RelayCourse left.takeUpgrade.2 farEnd (tunnelTarget left.request.uri) later last)
    (there : left.upgrade.isSome = true) (shown held after : Context ν) :
    Settled left (rawMarks shown held left marks later last after) := by
  obtain ⟨unblocked, logged, single⟩ := course.failures_eq towards there shown held after
  obtain ⟨unanswered, asked, named⟩ := towards.marks_eq
  obtain ⟨silent, unfinished, unnamed⟩ := course.marks_eq
  refine ⟨?_, ?_, vouched_of_front ?_ ?_ fun given => ?_, ?_, ?_, ?_⟩
  · rw [unblocked, course.unserved_eq towards]
    simp [rawMarks, letThrough, finished, unanswered, silent, Occurrence.answer?]
  · rw [unblocked]
    exact fun _ _ member => absurd member List.not_mem_nil
  · simp [letThrough, unanswered, Occurrence.answer?]
  · simp [finished, silent, Occurrence.answer?]
  -- a parent is named on the way to the grant, or not at all
  · have among : through marks = true := by
      rw [through] at unnamed
      simpa [through, letThrough, finished, unnamed] using given
    obtain ⟨goal, tunnel, member⟩ := named among
    exact ⟨goal, tunnel, List.mem_append_right _ member⟩
  · rw [unblocked]
    exact logged
  · rw [unblocked]
    exact single
  · refine ⟨letThrough shown held left ++ marks ++ .tunnelled connectionEstablished :: later, last,
      after, by simp [rawMarks, finished], ?_⟩
    simp [letThrough, asked, unfinished, Occurrence.phase?, Hook.phase]

/-- A tunnel that is granted and loses one of its ends before they are connected is shown to no
hook. -/
theorem Settled.relayed_of_broken {shown held after : Context ν}
    (settled : Settled left (rawMarks shown held left marks later last after))
    (towards : Towards left.request farEnd marks) (there : left.upgrade.isSome = true)
    (apart : connected (rawMarks shown held left marks later last after) = false)
    (unshown : phases later = []) (unrelayed : later.any Occurrence.relays = false) :
    Relayed left (rawMarks shown held left marks later last after) := by
  obtain ⟨-, asked, -⟩ := towards.marks_eq
  refine settled.relayed_of_unconnected apart ?_ ?_
  · rw [if_pos there]
    simp [rawMarks, letThrough, finished, asked, unshown, Occurrence.phase?, Hook.phase]
  · have unrelayed' : marks.any Occurrence.relays = false := by cases towards <;> rfl
    simp [rawMarks, letThrough, finished, unrelayed, unrelayed', Occurrence.relays]

/-- A raw tunnel that is granted. -/
theorem RelayCourse.relayed_of_towards (towards : Towards left.request farEnd marks)
    (course : RelayCourse left.takeUpgrade.2 farEnd (tunnelTarget left.request.uri) later last)
    (there : left.upgrade.isSome = true) (shown held after : Context ν) :
    Relayed left (rawMarks shown held left marks later last after) := by
  have settled := course.settled towards there shown held after
  rcases course with source | ⟨client, addr, rfl, e⟩ | ⟨client, addr, rfl⟩ |
    ⟨client, reaching, reached, held', _, kept, outcome⟩
  · exact settled.relayed_of_broken towards there (by cases towards <;> rfl) rfl rfl
  · exact settled.relayed_of_broken towards there (by cases towards; rfl) rfl rfl
  · exact settled.relayed_of_broken towards there (by cases towards; rfl) rfl rfl
  · refine settled.relayed_of_connected
      (show _ = (letThrough shown held left ++ marks ++ .tunnelled connectionEstablished ::
          .takenOver (.ok client) :: reaching) ++ announcement left.takeUpgrade.2 held' last kept ++
        .relayed outcome :: (transferEnd (tunnelTarget left.request.uri) outcome ++
          finished last after) from by simp [rawMarks]) ?_ ?_ ?_ ?_ ?_
    · cases reached <;> cases towards <;> cases outcome <;> rfl
    · cases reached <;> cases towards <;> rfl
    · cases outcome <;> rfl
    · cases reached <;> cases towards <;> rfl
    · cases outcome <;> rfl

end Granted

/-- **A raw tunnel is granted, shown and relayed as it should be.** Whatever the hooks and the network
do, and whatever other exchanges do beside it: once a proxy without a certificate authority has let a
request for a tunnel through, it is on a course that keeps to `Relayed`, and has taken it when it
ends. -/
theorem Proxy.tunnel_relayed [EmptyCollection ν] (proxy : Proxy σ ν) (world : σ) (capacity : Nat)
    (ttl : Duration) (moves : List (Move Inbound)) {thread : Attendance σ ν}
    (member : thread ∈ (Weave.run proxy.attendTo (.initial world capacity ttl none) moves).threads)
    {left : Context ν} (auth : authorized thread.seen = some left) (grants : left.abort = false)
    (way : route left.request = .tunnel) :
    ∃ later, Relayed left (thread.seen ++ later) ∧ (thread.Ended → later = []) := by
  have standing : Decrypts false (.initial world capacity ttl none : ProxyState σ ν) := rfl
  obtain ⟨rest, shown, held, marks, served, later, grant, ends, whole, ended⟩ :=
    tunnel_of_run standing member auth grants way
  refine ⟨rest, ?_, ended⟩
  rw [whole]
  cases grant with
  | refused marks e hindered =>
      cases ends with
      | answered response after =>
          exact hindered.relayed shown held left.takeUpgrade.2 after
  | dropped there raw parent addr named =>
      cases ends with
      | dropped exchange after => exact relayed_of_dropped there named shown held left.takeUpgrade.2 after
  | decrypted handle there decrypts => exact nomatch decrypts
  | raw handle there raw farEnd marks towards =>
      cases ends with
      | tunnelled response task rest course =>
          unfold run at course
          rw [Strand.yieldsUnder_bind] at course
          obtain ⟨relaying, last, rest, rfl, relayed, course⟩ := course
          obtain ⟨after, rfl⟩ := seen_finish course.yields
          have handled : left.upgrade.isSome = true := by rw [there]; rfl
          exact (relayCourse_of_runRelay relayed.yields).relayed_of_towards towards handled shown held
            after

/-- A proxy behind a parent that grants every tunnel, whose clients hand over their connections, and
whose hook before the request empties the context and asks to stop. -/
def erasing : Proxy Stage Notes where
  delegate := {
    beforeRequest := fun _ => return { Context.empty with abort := true, needMock := true }
    parentProxy := fun _ =>
      return .ok (some (.authority ⟨"127.0.0.1:80", by decide, by decide, by decide⟩)) }
  transport := ⟨fun _ => return .ok {}⟩
  network := { Stage.network with
    connect := fun _ _ => return .ok ⟨0⟩
    requestTunnel := fun _ _ => return .ok ⟨1⟩
    takeOver := fun _ => return .ok ⟨2⟩ }

/-- An exchange of it, from its beginning to its end. -/
def erasedWeave : Weave Inbound (Occurrence Notes) (ProxyState Stage Notes) Unit :=
  Weave.run erasing.attendTo
    (.initial ⟨{}, [], [], 0, ⟨⟨.p256, []⟩, 1⟩⟩ 1 (.ofSecs 1) none)
    (.start ⟨{ method := .connect, uri := .authority ⟨"b:443", by decide, by decide, by decide⟩ },
      none, some ⟨0⟩⟩ :: List.replicate 30 (.advance 0))

theorem tunnel_relayed_erasing :
    ∃ thread ∈ erasedWeave.threads, ∃ left, Relayed left thread.seen ∧
      answers thread.seen = [connectionEstablished] ∧
      ∃ outcome, .relayed outcome ∈ thread.seen := by
  have course : (erasedWeave.threads[0]?.any fun thread => thread.value?.isSome &&
      answers thread.seen == [connectionEstablished] && connected thread.seen &&
      (authorized thread.seen).any fun left => !left.abort && route left.request == .tunnel) =
        true := by decide +kernel
  obtain ⟨thread, there, holds⟩ := (Option.any_eq_true ..).mp course
  simp only [Bool.and_eq_true, beq_iff_eq] at holds
  obtain ⟨⟨⟨ended, granted⟩, joined⟩, passes⟩ := holds
  obtain ⟨left, auth, passes⟩ := (Option.any_eq_true ..).mp passes
  simp only [Bool.and_eq_true, Bool.not_eq_true', beq_iff_eq] at passes
  have member := List.mem_of_getElem? there
  obtain ⟨later, kept, all⟩ := erasing.tunnel_relayed _ _ _ _ member auth passes.1 passes.2
  rw [all ended, List.append_nil] at kept
  exact ⟨thread, member, left, kept, granted, kept.relays.mp joined⟩

/-- The hook after the response is shown a context that is not marked as a tunnel's. -/
def Occurrence.unmarked : Occurrence ν → Bool
  | .reviewed shown .. => !shown.tunnel
  | _ => false

/-- Marked or not, the hook after the response is shown what the hook before the request left. -/
theorem tunnel_unmarked_by_hook :
    ∃ thread ∈ erasedWeave.threads, thread.Ended ∧
      (∃ left, authorized thread.seen = some left ∧ left.abort = false ∧
        route left.request = .tunnel) ∧
      connected thread.seen = true ∧
      ∃ shown outcome last kept, .reviewed shown outcome last kept ∈ thread.seen ∧
        shown.tunnel = false := by
  have course : (erasedWeave.threads[0]?.any fun thread => thread.value?.isSome &&
      connected thread.seen &&
      (authorized thread.seen).any (fun left => !left.abort && route left.request == .tunnel) &&
      thread.seen.any Occurrence.unmarked) = true := by decide +kernel
  obtain ⟨thread, there, holds⟩ := (Option.any_eq_true ..).mp course
  simp only [Bool.and_eq_true] at holds
  obtain ⟨⟨⟨ended, joined⟩, passes⟩, unmarked⟩ := holds
  obtain ⟨left, auth, passes⟩ := (Option.any_eq_true ..).mp passes
  simp only [Bool.and_eq_true, Bool.not_eq_true', beq_iff_eq] at passes
  obtain ⟨o, reviewed, unmarked⟩ := List.any_eq_true.mp unmarked
  unfold Occurrence.unmarked at unmarked
  split at unmarked
  · exact ⟨thread, List.mem_of_getElem? there, ended, ⟨left, auth, passes⟩, joined, _, _, _, _,
      reviewed, by simpa using unmarked⟩
  · cases unmarked

end Interceptor

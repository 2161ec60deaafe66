/-
# Interceptor.Proofs.Exchange.InFlight — exchanges are counted until they are over

Any number of exchanges are attended to at the same time; each is a thread of a
weave over one proxy's state. `Whole` is the shape of what an exchange leaves
from its beginning to its end: it goes on the count, then come things that are
neither beginning nor end, then the last hook, and it goes off the count. What
must be over when the last hook runs is said by `Over`. A response is kept for as
long as the schedule lets its thread rest.

* `closes_run`: whatever is done for a tunnel ends its exchange once;
* `whole_of_attend`: every exchange that is attended to to its end is whole, in
  whatever way it goes;
* `turn_of_advance`: a step of one thread puts it on the count, takes it off, or
  leaves the count as it is, and the number in flight moves with it;
* `counted_of_run`: so the number in flight is the number of threads on the
  count, after every schedule;
* `exchanges_accounted`: what follows from these for a proxy that starts anew.
-/
import Interceptor.Proofs.Exchange.Steps
import Interceptor.Proofs.Exchange.Passage
import Interceptor.Script

namespace Interceptor

set_option autoImplicit false

open Http Net

variable {σ ν α β : Type}

/-! ## Whole exchanges -/

/-- What must be over when the last hook runs: the body of the response that carries the exchange;
or, of a tunnel, the response inside it, or all that is done for the tunnel but to log an error. When
the task that was serving the request has ended before there was either, a dial is the last thing it
has done. -/
def Over (before after : List (Occurrence ν)) : Prop :=
  ((∃ response, .answered response ∈ before) ∧ .released ∈ before) ∨
  ((∃ response, .tunnelled response ∈ before) ∧
    ((∃ response, .responded response ∈ before) ∨
      ∀ o ∈ after, o = .retired ∨ ∃ e, o = .logged e)) ∨
  ∃ earlier addr, before = earlier ++ [.dialed addr none]

/-- What an exchange leaves from its beginning to its end. -/
inductive Whole : List (Occurrence ν) → Prop
  | intro (before : List (Occurrence ν)) (shown left : Context ν) (after : List (Occurrence ν))
      (quietBefore : ∀ o ∈ before, o.bounds = false) (quietAfter : ∀ o ∈ after, o.bounds = false)
      (isOver : Over (.began :: before) (.retired :: after)) :
      Whole (.began :: (before ++ .hook .finish shown left :: .retired :: after))

/-! ## The count -/

theorem countP_of_quiet {seen : List (Occurrence ν)} (quiet : ∀ o ∈ seen, o.bounds = false) :
    seen.countP Occurrence.begins = 0 ∧ seen.countP Occurrence.finishes = 0 ∧
      seen.countP Occurrence.retires = 0 := by
  simp only [Occurrence.bounds, Bool.or_eq_false_iff] at quiet
  refine ⟨?_, ?_, ?_⟩
  · exact List.countP_eq_zero.mpr fun o member => by simp [(quiet o member).1.1]
  · exact List.countP_eq_zero.mpr fun o member => by simp [(quiet o member).1.2]
  · exact List.countP_eq_zero.mpr fun o member => by simp [(quiet o member).2]

/-- A step leaves at most one mark, and moves the number in flight by what the mark says. -/
def TallyStep (before : ProxyState σ ν) (marks : List (Occurrence ν)) (after : ProxyState σ ν) :
    Prop :=
  marks.length ≤ 1 ∧ after.inFlight =
    before.inFlight + marks.countP Occurrence.begins - marks.countP Occurrence.retires

/-- Every step moves the number in flight by what its mark says. -/
def Tallied (t : ProxyM σ ν α) : Prop := t.Upholds (fun _ => True) TallyStep fun _ => True

/-- The computation ends an exchange once, and what must be over by then is. -/
def Closes (t : ProxyM σ ν α) : Prop :=
  ∀ seen result, t.Yields seen result → ∃ before shown left after,
    seen = before ++ .hook .finish shown left :: .retired :: after ∧
    (∀ o ∈ before, o.bounds = false) ∧ (∀ o ∈ after, o.bounds = false) ∧
    ((∃ response, .responded response ∈ before) ∨ ∀ o ∈ after, ∃ e, o = .logged e)

theorem closes_finish (proxy : Proxy σ ν) (exchange : Exchange ν) :
    Closes (exchange.finish proxy) := by
  intro seen result course
  obtain ⟨left, rfl⟩ := seen_finish course
  exact ⟨[], exchange.ctx, left, [], rfl, by simp, by simp, .inr (by simp)⟩

theorem Quiet.closes {t : ProxyM σ ν α} {f : α → ProxyM σ ν β} (quiet : Quiet t)
    (closes : ∀ value, Closes (f value)) : Closes (t >>= f) := by
  intro seen result course
  rw [Strand.yields_bind] at course
  obtain ⟨first, value, later, rfl, course, closing⟩ := course
  obtain ⟨before, shown, left, after, rfl, inner, rest, isOver⟩ := closes value later result closing
  refine ⟨first ++ before, shown, left, after, by simp, ?_, rest, ?_⟩
  · intro o member
    rcases List.mem_append.mp member with member | member
    · exact quiet.seen course o member
    · exact inner o member
  · exact isOver.imp (fun ⟨response, member⟩ => ⟨response, List.mem_append_right _ member⟩) id

/-- When there is nothing to serve the request with, a dial is the last thing that was done. -/
def DropsLast (t : ProxyM σ ν (Served ν)) : Prop :=
  ∀ seen left, t.Yields seen (.dropped left) → ∃ earlier addr, seen = earlier ++ [.dialed addr none]

theorem dropsLast_pure {served : Served ν} (given : ∀ left, served ≠ .dropped left) :
    DropsLast (pure served : ProxyM σ ν (Served ν)) :=
  fun _ left course => absurd (Strand.yields_done.mp course).2.symm (given left)

theorem DropsLast.bind {t : ProxyM σ ν α} {f : α → ProxyM σ ν (Served ν)}
    (later : ∀ value, DropsLast (f value)) : DropsLast (t >>= f) := by
  intro seen left course
  rw [Strand.yields_bind] at course
  obtain ⟨first, value, rest, rfl, -, course⟩ := course
  obtain ⟨earlier, addr, rfl⟩ := later value rest left course
  exact ⟨first ++ earlier, addr, (List.append_assoc ..).symm⟩

theorem dropsLast_ofAnswer (t : ProxyM σ ν (Response × Exchange ν)) :
    DropsLast (Served.ofAnswer <$> t) := by
  rw [map_eq_pure_bind]
  exact DropsLast.bind fun answer => dropsLast_pure fun left same => nomatch same

/-- The marks of a decrypted stream's end. -/
def endLogged (target : String) (ended : Option String) : List (Occurrence ν) :=
  (ended.map fun source => .logged (.serve target source)).toList

namespace Proxy

variable (proxy : Proxy σ ν)

theorem closes_giveUp (exchange : Exchange ν) (e : ProxyError) :
    Closes (proxy.giveUp exchange e) :=
  (proxy.inner_log e).quiet.closes fun _ => closes_finish proxy exchange

theorem seen_logEnd {proxy : Proxy σ ν} {target : String} {ended : Option String}
    {seen : List (Occurrence ν)} {result : Unit}
    (course : (if let some source := ended then proxy.log (.serve target source)
      else pure () : ProxyM σ ν Unit).Yields seen result) : seen = endLogged target ended := by
  cases ended with
  | none => exact (Strand.yields_done.mp course).1
  | some source =>
      obtain rfl := seen_outside course
      rfl

/-- Answering the requests inside a tunnel ends its exchange once the first is answered; when there
is none, nothing else is done. -/
theorem closes_answerAll (exchange : Exchange ν) (client : Stream) (target : String)
    (requests : List Request) (ended : Option String) :
    Closes (do
      proxy.answerAll exchange client target requests
      if let some source := ended then
        proxy.log (.serve target source)) := by
  intro seen result course
  rw [Strand.yields_bind] at course
  obtain ⟨answering, _, logging, rfl, answered, logged⟩ := course
  have quietLog := (proxy.inner_logEnd target ended).quiet.seen logged
  cases requests with
  | nil =>
      obtain ⟨left, rfl⟩ := seen_finish answered
      have only : ∀ o ∈ logging, ∃ e, o = .logged e := by
        rw [seen_logEnd logged]
        cases ended <;> simp [endLogged]
      exact ⟨[], exchange.ctx, left, logging, rfl, by simp, quietLog, .inr only⟩
  | cons first others =>
      unfold answerAll at answered
      rw [Strand.yields_bind] at answered
      obtain ⟨relaying, ⟨response, exchange⟩, rest, rfl, relayed, answered⟩ := answered
      rw [Strand.yields_bind] at answered
      obtain ⟨responding, _, rest, rfl, responded, answered⟩ := answered
      rw [Strand.yields_bind] at answered
      obtain ⟨finishing, _, turning, rfl, finished, turned⟩ := answered
      obtain rfl := seen_outside responded
      obtain ⟨left, rfl⟩ := seen_finish finished
      -- the others are turned away after the exchange has ended, and are none of their own
      refine ⟨relaying ++ [.responded response], exchange.ctx, left, turning ++ logging, by simp,
        ?_, ?_, .inl ⟨response, by simp⟩⟩
      · intro o member
        rcases List.mem_append.mp member with member | member
        · exact (proxy.inner_answerDecrypted _ _ _).quiet.seen relayed o member
        · rw [List.mem_singleton.mp member]
          rfl
      · intro o member
        rcases List.mem_append.mp member with member | member
        · exact (proxy.inner_turnAway _ _).quiet.seen turned o member
        · exact quietLog o member

theorem closes_runDecrypt (exchange : Exchange ν) (upgrade : UpgradeHandle) (target : String) :
    Closes (proxy.runDecrypt exchange upgrade target) := by
  refine (proxy.inner_leafFor target).quiet.closes fun made => ?_
  split
  · exact closes_finish proxy exchange
  · exact closes_finish proxy exchange
  · exact proxy.closes_giveUp _ _
  -- there is a leaf: the client's stream is taken and encrypted
  refine (inner_outside fun _ => rfl).quiet.closes fun taken => ?_
  cases taken with
  | error source => exact proxy.closes_giveUp _ _
  | ok client =>
      refine (inner_outside fun _ => rfl).quiet.closes fun accepted => ?_
      split
      · exact proxy.closes_giveUp _ _
      · exact proxy.closes_giveUp _ _
      refine (inner_outside fun _ => rfl).quiet.closes fun ⟨requests, ended⟩ => ?_
      exact proxy.closes_answerAll exchange _ target requests ended

theorem closes_run (task : TunnelTask ν) : Closes (proxy.run task) := by
  cases task with
  | relay exchange upgrade farEnd target =>
      exact (proxy.inner_runRelay _ _ _ _).quiet.closes fun exchange => closes_finish proxy exchange
  | decrypt exchange upgrade target => exact proxy.closes_runDecrypt _ _ _

/-- A parent that is not reached at all was the last to be dialed. -/
theorem seen_dialParent_none {proxy : Proxy σ ν} {parent : Uri} {target : String}
    {seen : List (Occurrence ν)} (course : (proxy.dialParent parent target).Yields seen none) :
    ∃ addr, seen = [.dialed addr none] := by
  unfold dialParent at course
  split at course
  · exact nomatch (Strand.yields_done.mp course).2
  rename_i addr named
  rw [Strand.yields_bind] at course
  obtain ⟨dialing, dialed, rest, rfl, dial, course⟩ := course
  obtain ⟨_, -, rfl⟩ := Strand.yields_act.mp dial
  rcases dialed with _ | (e | stream)
  · obtain ⟨rfl, -⟩ := Strand.yields_done.mp course
    exact ⟨addr, rfl⟩
  · exact nomatch (Strand.yields_done.mp course).2
  · simp only at course
    rw [Strand.yields_bind] at course
    obtain ⟨_, asked, rest, -, -, course⟩ := course
    rcases asked with (source | status) | tunnel <;> exact nomatch (Strand.yields_done.mp course).2

theorem dropsLast_openTunnel (exchange : Exchange ν) : DropsLast (proxy.openTunnel exchange) := by
  unfold openTunnel
  simp only
  split
  · refine DropsLast.bind fun answer => ?_
    cases answer with
    | error source => exact dropsLast_ofAnswer _
    | ok parent =>
        refine DropsLast.bind fun state => ?_
        split
        · exact dropsLast_pure fun left same => nomatch same
        split
        · exact dropsLast_ofAnswer _
        split
        · exact dropsLast_pure fun left same => nomatch same
        intro seen left course
        rw [Strand.yields_bind] at course
        obtain ⟨dialing, dialed, rest, rfl, dial, course⟩ := course
        rcases dialed with _ | (e | tunnel)
        · obtain ⟨rfl, -⟩ := Strand.yields_done.mp course
          obtain ⟨addr, rfl⟩ := seen_dialParent_none dial
          exact ⟨[], addr, rfl⟩
        · obtain ⟨earlier, addr, rfl⟩ := dropsLast_ofAnswer _ rest left course
          exact ⟨dialing ++ earlier, addr, (List.append_assoc ..).symm⟩
        · exact nomatch (Strand.yields_done.mp course).2
  · exact dropsLast_ofAnswer _

variable [EmptyCollection ν] {request : Request} {remote : Option SocketAddr}
  {upgrade : Option UpgradeHandle}

/-- Serving begins an exchange and does nothing else that counts. -/
theorem seen_serve {proxy : Proxy σ ν} {seen : List (Occurrence ν)} {served : Served ν}
    (course : (proxy.serve request remote upgrade).Yields seen served) :
    ∃ later, seen = .began :: later ∧ ∀ o ∈ later, o.bounds = false := by
  unfold serve at course
  rw [Strand.yields_bind] at course
  obtain ⟨beginning, exchange, later, rfl, began, course⟩ := course
  obtain rfl := seen_begin began
  exact ⟨later, rfl, (proxy.inner_dispatch exchange).quiet.seen course⟩

theorem dropsLast_serve : DropsLast (proxy.serve request remote upgrade) := by
  refine DropsLast.bind fun exchange => DropsLast.bind fun ctx => ?_
  split
  · exact dropsLast_pure fun left same => nomatch same
  refine DropsLast.bind fun ctx => ?_
  split
  · exact dropsLast_pure fun left same => nomatch same
  split
  · exact proxy.dropsLast_openTunnel _
  · exact dropsLast_ofAnswer _

/-- Every exchange that is attended to is whole, in whatever way it goes. -/
theorem whole_of_attend {proxy : Proxy σ ν} {seen : List (Occurrence ν)} {result : Unit}
    (course : (proxy.attend request remote upgrade).Yields seen result) : Whole seen := by
  unfold attend at course
  rw [Strand.yields_bind] at course
  obtain ⟨serving, served, rest, rfl, serves, course⟩ := course
  obtain ⟨first, rfl, quiet⟩ := seen_serve serves
  cases served with
  | answered response =>
      simp only at course
      rw [Strand.yields_bind] at course
      obtain ⟨answering, _, rest, rfl, answered, course⟩ := course
      obtain ⟨_, -, rfl⟩ := Strand.yields_act.mp answered
      obtain ⟨left, rfl⟩ := seen_release course
      have inner : ∀ o ∈ first ++ [.answered response.shown, .released], o.bounds = false := by
        intro o member
        rcases List.mem_append.mp member with member | member
        · exact quiet o member
        · simp only [List.mem_cons, List.not_mem_nil, or_false] at member
          rcases member with rfl | rfl <;> rfl
      have whole := Whole.intro (first ++ [.answered response.shown, .released])
        response.body.exchange.ctx left [] inner (by simp)
        (.inl ⟨⟨response.shown, by simp⟩, by simp⟩)
      simpa using whole
  | tunnelled response task =>
      simp only at course
      rw [Strand.yields_bind] at course
      obtain ⟨answering, _, rest, rfl, answered, course⟩ := course
      obtain ⟨_, -, rfl⟩ := Strand.yields_act.mp answered
      obtain ⟨before, shown, left, after, rfl, inner, quietAfter, isOver⟩ :=
        proxy.closes_run task rest result course
      have quietBefore : ∀ o ∈ first ++ .tunnelled response :: before, o.bounds = false := by
        intro o member
        rcases List.mem_append.mp member with member | member
        · exact quiet o member
        · rcases List.mem_cons.mp member with rfl | member
          · rfl
          · exact inner o member
      have whole := Whole.intro (first ++ .tunnelled response :: before) shown left after quietBefore
        quietAfter (.inr (.inl ⟨⟨response, by simp⟩, isOver.imp
          (fun ⟨inside, member⟩ => ⟨inside, by simp [member]⟩) fun logs o member => ?_⟩))
      · simpa using whole
      · exact (List.mem_cons.mp member).imp id (logs o)
  | dropped exchange =>
      obtain ⟨left, rfl⟩ := seen_finish course
      obtain ⟨earlier, addr, last⟩ := proxy.dropsLast_serve _ _ serves
      exact Whole.intro first exchange.ctx left [] quiet (by simp) (.inr (.inr ⟨earlier, addr, last⟩))

end Proxy

/-! ## What a whole exchange leaves, and every beginning of one -/

theorem Whole.countP_eq {seen : List (Occurrence ν)} (whole : Whole seen) :
    seen.countP Occurrence.begins = 1 ∧ seen.countP Occurrence.finishes = 1 ∧
      seen.countP Occurrence.retires = 1 := by
  obtain ⟨before, shown, left, after, quietBefore, quietAfter, -⟩ := whole
  obtain ⟨begun, finished, retired⟩ := countP_of_quiet quietBefore
  obtain ⟨begun', finished', retired'⟩ := countP_of_quiet quietAfter
  simp only [List.countP_cons, List.countP_append, begun, finished, retired, begun', finished',
    retired']
  exact ⟨rfl, rfl, rfl⟩

theorem Whole.head {seen : List (Occurrence ν)} (whole : Whole seen) :
    ∃ later, seen = .began :: later := by
  obtain ⟨before, shown, left, after, -, -, -⟩ := whole
  exact ⟨_, rfl⟩

theorem retires_of_begins {o : Occurrence ν} (begins : o.begins = true) : o.retires = false := by
  cases o with
  | began => rfl
  | _ => exact nomatch begins

/-- What goes on the count has left nothing before. -/
theorem nil_of_begins {seen later : List (Occurrence ν)} {o : Occurrence ν}
    (whole : Whole (seen ++ o :: later)) (begins : o.begins = true) : seen = [] := by
  have total := whole.countP_eq.1
  obtain ⟨rest, head⟩ := whole.head
  cases seen with
  | nil => rfl
  | cons first seen =>
      have sooner : 0 < (first :: seen).countP Occurrence.begins :=
        List.countP_pos_iff.mpr ⟨first, List.mem_cons_self, by rw [(List.cons.inj head).1]; rfl⟩
      rw [List.countP_append, List.countP_cons_of_pos begins] at total
      omega

/-- What goes off the count was on it before. -/
theorem underway_of_retires {seen later : List (Occurrence ν)} {o : Occurrence ν}
    (whole : Whole (seen ++ o :: later)) (retires : o.retires = true) :
    seen.any Occurrence.begins = true ∧ seen.any Occurrence.retires = false := by
  constructor
  · obtain ⟨rest, head⟩ := whole.head
    cases seen with
    | nil =>
        rw [(List.cons.inj head).1] at retires
        exact nomatch retires
    | cons first seen =>
        rw [(List.cons.inj head).1]
        rfl
  · have total := whole.countP_eq.2.2
    rw [List.countP_append, List.countP_cons, if_pos retires] at total
    rw [← Bool.not_eq_true, List.any_eq_true]
    rintro ⟨other, member, found⟩
    have := List.countP_pos_iff.mpr ⟨other, member, found⟩
    omega

/-- A list can be cut in one way only at something that is nowhere else in it. -/
theorem cut_unique {p : α → Bool} {before after first later : List α} {here there : α}
    (clear : ∀ o ∈ before, p o = false) (clear' : ∀ o ∈ after, p o = false) (found : p there = true)
    (same : before ++ here :: after = first ++ there :: later) :
    before = first ∧ after = later := by
  rcases List.append_eq_append_iff.mp same with ⟨middle, rfl, cut⟩ | ⟨middle, rfl, cut⟩
  · cases middle with
    | nil =>
        obtain ⟨-, rfl⟩ := List.cons.inj cut
        exact ⟨(List.append_nil _).symm, rfl⟩
    | cons next middle =>
        have member : there ∈ after := by simp [(List.cons.inj cut).2]
        exact absurd found (by simp [clear' there member])
  · cases middle with
    | nil =>
        obtain ⟨-, rfl⟩ := List.cons.inj cut
        exact ⟨List.append_nil _, rfl⟩
    | cons next middle =>
        have member : there ∈ first ++ next :: middle := by simp [(List.cons.inj cut).1]
        exact absurd found (by simp [clear there member])

/-- The last hook is nowhere else in a whole exchange. -/
theorem Whole.last_eq {seen before after first later : List (Occurrence ν)}
    {shown left shown' left' : Context ν} (whole : Whole seen)
    (cut : seen = before ++ .hook .finish shown left :: after)
    (cut' : seen = first ++ .hook .finish shown' left' :: later) :
    before = first ∧ shown = shown' ∧ after = later := by
  have once := whole.countP_eq.2.1
  rw [cut, List.countP_append, List.countP_cons_of_pos rfl] at once
  have none : before.countP Occurrence.finishes = 0 ∧ after.countP Occurrence.finishes = 0 := by omega
  simp only [List.countP_eq_zero, Bool.not_eq_true] at none
  have same := cut.symm.trans cut'
  obtain ⟨rfl, rfl⟩ := cut_unique none.1 none.2 rfl same
  have here := List.cons.inj (List.append_cancel_left same)
  exact ⟨rfl, (Occurrence.hook.inj here.1).2.1, rfl⟩

/-- The last hook of a whole exchange runs when everything is over that must be. -/
theorem Whole.isOver {seen before after : List (Occurrence ν)} (whole : Whole seen)
    {shown left : Context ν} (cut : seen = before ++ .hook .finish shown left :: after) :
    Over before after := by
  have form := whole
  obtain ⟨inner, shown', left', rest, -, -, isOver⟩ := form
  obtain ⟨rfl, -, rfl⟩ := whole.last_eq cut (List.cons_append ..).symm
  exact isOver

/-- What has gone off the count has had its last hook. -/
theorem Whole.finishes_of_retires {seen later : List (Occurrence ν)} (whole : Whole (seen ++ later))
    (retired : seen.any Occurrence.retires = true) : seen.any Occurrence.finishes = true := by
  obtain ⟨o, member, retires⟩ := List.any_eq_true.mp retired
  obtain ⟨first, rest, rfl⟩ := List.append_of_mem member
  -- what takes it off the count is the mark after the last hook
  generalize same : first ++ o :: rest ++ later = all at whole
  obtain ⟨inner, shown, left, after, quietBefore, quietAfter, -⟩ := whole
  simp only [Occurrence.bounds, Bool.or_eq_false_iff] at quietBefore quietAfter
  have clear : ∀ o ∈ Occurrence.began :: (inner ++ [.hook .finish shown left]), o.retires = false := by
    intro o member
    simp only [List.mem_cons, List.mem_append, List.not_mem_nil, or_false] at member
    rcases member with rfl | member | rfl
    · rfl
    · exact (quietBefore o member).2
    · rfl
  have cut : .began :: (inner ++ [.hook .finish shown left]) ++ .retired :: after =
      first ++ o :: (rest ++ later) := by simpa using same.symm
  obtain ⟨found, -⟩ := cut_unique clear (fun o member => (quietAfter o member).2) retires cut
  exact List.any_eq_true.mpr ⟨.hook .finish shown left, by simp [← found], rfl⟩

/-- What was over stays over when less has come after it. -/
theorem Over.of_append {before after later : List (Occurrence ν)} (isOver : Over before (after ++ later)) :
    Over before after :=
  isOver.imp id fun later => later.imp
    (fun ⟨tunnelled, ended⟩ =>
      ⟨tunnelled, ended.imp id fun logs o member => logs o (List.mem_append_left _ member)⟩) id

/-! ## Exchanges side by side -/

/-- A request as it comes in. -/
structure Inbound where
  request : Request
  remote : Option SocketAddr
  upgrade : Option UpgradeHandle

/-- Attends to a request that comes in. -/
def Proxy.attendTo [EmptyCollection ν] (proxy : Proxy σ ν) (inbound : Inbound) : ProxyM σ ν Unit :=
  proxy.attend inbound.request inbound.remote inbound.upgrade

/-- A thread of a proxy. -/
abbrev Attendance (σ ν : Type) := Thread Inbound (Occurrence ν) (ProxyState σ ν) Unit

/-- The exchange has begun, and is not off the count yet. -/
def Underway (thread : Attendance σ ν) : Bool :=
  thread.seen.any Occurrence.begins && !thread.seen.any Occurrence.retires

section Threads

variable [EmptyCollection ν] {proxy : Proxy σ ν} {thread : Attendance σ ν}

/-- What a thread has left is the beginning of a whole exchange, and all of it once it has ended. -/
theorem exists_whole (way : (proxy.attendTo thread.origin).Reaches thread.seen thread.rest)
    (state : ProxyState σ ν) :
    ∃ later, Whole (thread.seen ++ later) ∧ (thread.Ended → later = []) := by
  refine ⟨thread.rest.trace state, ?_, ?_⟩
  · exact Proxy.whole_of_attend (way.yields (Strand.yields_run thread.rest state))
  · intro ended
    obtain ⟨value, given⟩ := Option.isSome_iff_exists.mp ended
    rw [Thread.rest_of_value? given]
    rfl

/-- Where a step takes a thread: nowhere, on the count, or off it. The number in flight moves
along. -/
inductive Turn (thread next : Attendance σ ν) (before after : Nat) : Prop
  | stay (same : Underway next = Underway thread)
      (retired : next.seen.any Occurrence.retires = thread.seen.any Occurrence.retires)
      (count : after = before)
  | enter (out : Underway thread = false) (entered : Underway next = true)
      (count : after = before + 1)
  | leave (underway : Underway thread = true) (left : Underway next = false)
      (count : after = before - 1)

theorem turn_of_advance (way : (proxy.attendTo thread.origin).Reaches thread.seen thread.rest)
    (tallied : Tallied thread.rest) (state : ProxyState σ ν) :
    Turn thread (thread.advance state).1 state.inFlight (thread.advance state).2.inFlight := by
  have relied : (fun _ => True : ProxyState σ ν → Prop) state := trivial
  rcases thread.advance_guarantees tallied relied with same | ⟨marks, seen, short, count⟩
  · rw [same]
    exact .stay rfl rfl rfl
  have onCourse : (proxy.attendTo (thread.advance state).1.origin).Reaches
      (thread.advance state).1.seen (thread.advance state).1.rest := by
    rw [Thread.advance_origin]
    exact Thread.reaches_advance way state
  obtain ⟨later, whole, -⟩ := exists_whole onCourse state
  rw [seen, List.append_assoc] at whole
  -- the step leaves no mark, or one; what one is, is read off the whole exchange
  rcases marks with _ | ⟨o, _ | ⟨next, marks⟩⟩
  · rw [List.append_nil] at seen
    exact .stay (by rw [Underway, Underway, seen]) (by rw [seen]) count
  · have out : Underway (thread.advance state).1 =
        ((thread.seen.any Occurrence.begins || o.begins) &&
          !(thread.seen.any Occurrence.retires || o.retires)) := by
      simp only [Underway, seen, List.any_append, List.any_cons, List.any_nil, Bool.or_false]
    simp only [List.countP_singleton] at count
    cases begins : o.begins with
    | true =>
        have nothing := nil_of_begins whole begins
        have keeps := retires_of_begins begins
        refine .enter ?_ ?_ ?_
        · rw [Underway, nothing]
          rfl
        · rw [out, nothing, begins, keeps]
          rfl
        · rw [count, begins, keeps]
          rfl
    | false =>
        cases retires : o.retires with
        | true =>
            obtain ⟨begun, here⟩ := underway_of_retires whole retires
            refine .leave ?_ ?_ ?_
            · rw [Underway, begun, here]
              rfl
            · rw [out, retires, Bool.or_true, Bool.not_true, Bool.and_false]
            · rw [count, begins, retires]
              rfl
        | false =>
            refine .stay ?_ ?_ ?_
            · rw [out, begins, retires, Bool.or_false, Bool.or_false]
              rfl
            · rw [seen, List.any_append, List.any_cons, retires]
              exact Bool.or_false _
            · rw [count, begins, retires]
              rfl
  · simp at short

end Threads

section Runs

variable [EmptyCollection ν] {proxy : Proxy σ ν}

/-- The number in flight is right, and every thread is on its course. -/
structure Counted (proxy : Proxy σ ν) (w : Weave Inbound (Occurrence ν) (ProxyState σ ν) Unit) :
    Prop where
  count : w.state.inFlight = w.threads.countP Underway
  onCourse : ∀ thread ∈ w.threads, (proxy.attendTo thread.origin).Reaches thread.seen thread.rest
  tallied : ∀ thread ∈ w.threads, Tallied thread.rest

/-- What is true of the exchanges of a proxy at any time. -/
structure Accounted (w : Weave Inbound (Occurrence ν) (ProxyState σ ν) Unit) : Prop where
  /-- The number in flight is that of the exchanges that have begun and are not off the count. -/
  count : w.state.inFlight = w.threads.countP Underway
  /-- The last hook runs at most once; -/
  once : ∀ thread ∈ w.threads, thread.seen.countP Occurrence.finishes ≤ 1
  /-- and once in every exchange that has come to its end. -/
  ends : ∀ thread ∈ w.threads, thread.Ended → thread.seen.countP Occurrence.finishes = 1
  /-- What is off the count has had its last hook. -/
  retires : ∀ thread ∈ w.threads, thread.seen.any Occurrence.retires = true →
    thread.seen.countP Occurrence.finishes = 1
  /-- The last hook comes when everything is over that must be. -/
  last : ∀ thread ∈ w.threads, ∀ before shown left after,
    thread.seen = before ++ .hook .finish shown left :: after → Over before after
  /-- Whatever goes off the count is one of those on it, so the number does not fall below zero. -/
  falls : ∀ thread ∈ w.threads, thread.seen.any Occurrence.retires = false →
    (thread.advance w.state).1.seen.any Occurrence.retires = true →
      (thread.advance w.state).2.inFlight + 1 = w.state.inFlight
  /-- Nobody is in flight when every exchange has come to its end. -/
  idle : (∀ thread ∈ w.threads, thread.Ended) → w.state.inFlight = 0

variable {w : Weave Inbound (Occurrence ν) (ProxyState σ ν) Unit} {thread : Attendance σ ν}

/-- What a thread that has ended has left is a whole exchange. -/
theorem Counted.whole (counted : Counted proxy w) (member : thread ∈ w.threads)
    (ended : thread.Ended) : Whole thread.seen := by
  obtain ⟨later, whole, complete⟩ := exists_whole (counted.onCourse thread member) w.state
  rw [complete ended, List.append_nil] at whole
  exact whole

theorem Counted.not_underway (counted : Counted proxy w) (member : thread ∈ w.threads)
    (ended : thread.Ended) : Underway thread = false := by
  have retired := (counted.whole member ended).countP_eq.2.2
  have found : thread.seen.any Occurrence.retires = true :=
    List.any_eq_true.mpr (List.countP_pos_iff.mp (by omega))
  rw [Underway, found, Bool.not_true, Bool.and_false]

theorem Counted.falls (counted : Counted proxy w) (member : thread ∈ w.threads)
    (here : thread.seen.any Occurrence.retires = false)
    (gone : (thread.advance w.state).1.seen.any Occurrence.retires = true) :
    (thread.advance w.state).2.inFlight + 1 = w.state.inFlight := by
  cases turn_of_advance (counted.onCourse thread member) (counted.tallied thread member) w.state with
  | stay _ retired moved =>
      rw [retired, here] at gone
      exact nomatch gone
  | enter out entered moved =>
      rw [Underway, gone, Bool.not_true, Bool.and_false] at entered
      exact nomatch entered
  | leave underway left moved =>
      have counts : 0 < w.threads.countP Underway :=
        List.countP_pos_iff.mpr ⟨thread, member, underway⟩
      rw [moved, counted.count]
      omega

theorem Counted.accounted (counted : Counted proxy w) : Accounted w where
  count := counted.count
  once thread member := by
    obtain ⟨later, whole, -⟩ := exists_whole (counted.onCourse thread member) w.state
    have total := whole.countP_eq.2.1
    rw [List.countP_append] at total
    omega
  ends thread member ended := (counted.whole member ended).countP_eq.2.1
  retires thread member retired := by
    obtain ⟨later, whole, -⟩ := exists_whole (counted.onCourse thread member) w.state
    have total := whole.countP_eq.2.1
    have ran := List.countP_pos_iff.mpr (List.any_eq_true.mp (whole.finishes_of_retires retired))
    rw [List.countP_append] at total
    omega
  last thread member before shown left after cut := by
    obtain ⟨later, whole, -⟩ := exists_whole (counted.onCourse thread member) w.state
    rw [cut, List.append_assoc, List.cons_append] at whole
    exact (whole.isOver rfl).of_append
  falls thread member here gone := counted.falls member here gone
  idle ended := by
    rw [counted.count, List.countP_eq_zero]
    intro thread member
    rw [counted.not_underway member (ended thread member)]
    decide

/-- Two exchanges with hooks that do nothing; the response of the second is read before that of the
first. -/
example :
    (Weave.run (Proxy.attendTo ⟨Stage.delegate, Stage.transport, Stage.network, .ofSecs 5, .ofSecs 5⟩)
      (.initial ⟨{}, [], [], 0, ⟨⟨.p256, []⟩, 1⟩⟩ 1 (.ofSecs 1) none)
      ([.start ⟨{}, none, none⟩, .start ⟨{}, none, none⟩] ++ List.replicate 6 (.advance 0) ++
        List.replicate 10 (.advance 1))).state.inFlight = 1 := by
  decide +kernel

end Runs

end Interceptor

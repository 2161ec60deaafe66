/-
# Interceptor.Proofs.Tunnel.Decryption — a tunnel that is decrypted is never relayed unread

A proxy with a certificate authority decrypts. Once it has granted a tunnel, it
does not fall back: whatever fails on the way to the request inside, nothing is
dialed for the client and no byte is relayed unread; the failure is logged, and
that is all. The one request it handles was read after TLS had been accepted, and
goes where its `Host` says, over https.

`DecryptCourse` lists the courses of the task, read off the text of `runDecrypt`;
`Intercepted` is what every one of them has.
-/
import Interceptor.Proofs.Exchange.InFlight
import Interceptor.Proofs.Exchange.Outbound
import Interceptor.Proofs.Exchange.Phases
import Interceptor.Proofs.Tunnel.Grant

namespace Interceptor

set_option autoImplicit false

open Http Net Certificate

variable {σ ν : Type}

/-! ## Courses -/

/-- What keeps a granted tunnel from being decrypted: the marks up to it, and the error. -/
inductive Failing (target : String) (timeout : Duration) :
    List (Occurrence ν) → ProxyError → Prop
  | certificate (e : CertificateError) :
      Failing target timeout [.certified (some (.error (.refused e)))] (.certificate target e)
  | upgrade (leaf : Leaf) (source : String) :
      Failing target timeout [.certified (some (.ok leaf)), .takenOver (.error source)]
        (.upgrade target source)
  | handshake (leaf : Leaf) (client : Stream) (e : IoError) :
      Failing target timeout [.certified (some (.ok leaf)), .takenOver (.ok client),
        .accepted (.error (.failed e))] (.handshake target e)
  | handshakeTimeout (leaf : Leaf) (client : Stream) :
      Failing target timeout [.certified (some (.ok leaf)), .takenOver (.ok client),
        .accepted (.error .timedOut)] (.handshakeTimeout target timeout)

/-- The marks up to the requests of a decrypted stream. -/
def opened (leaf : Leaf) (client tls : Stream) (requests : List Request) (ended : Option String) :
    List (Occurrence ν) :=
  [.certified (some (.ok leaf)), .takenOver (.ok client), .accepted (.ok tls),
    .received requests ended]

/-- What comes after the end of the exchange: other requests are turned away. -/
def aftermath (others : List Request) (target : String) (ended : Option String) :
    List (Occurrence ν) :=
  others.map (fun _ => .responded (.ofStatus .badGateway)) ++ endLogged target ended

/-- What may happen in a tunnel that is decrypted. -/
inductive DecryptCourse (ctx : Context ν) (target : String) (timeout : Duration) :
    List (Occurrence ν) → Prop
  /-- The authority cannot write a leaf down at all. -/
  | unwritable (left : Context ν) :
      DecryptCourse ctx target timeout
        (.certified (some (.error .unwritable)) :: finished ctx left)
  | failed (marks : List (Occurrence ν)) (e : ProxyError) (failing : Failing target timeout marks e)
      (left : Context ν) :
      DecryptCourse ctx target timeout (marks ++ .logged e :: finished ctx left)
  /-- The client sends no request. -/
  | unused (leaf : Leaf) (client tls : Stream) (ended : Option String) (left : Context ν) :
      DecryptCourse ctx target timeout
        (opened leaf client tls [] ended ++ (finished ctx left ++ endLogged target ended))
  /-- The first request is handled, and the others are turned away. -/
  | served (leaf : Leaf) (client tls : Stream) (first : Request) (others : List Request)
      (ended : Option String) (marks : List (Occurrence ν)) (answer : Response × Exchange ν)
      (answered : RelayAnswer ctx (withTunnelOrigin first target) marks answer)
      (left : Context ν) :
      DecryptCourse ctx target timeout
        (opened leaf client tls (first :: others) ended ++ (marks ++
          .responded answer.1 :: finished answer.2.ctx left ++ aftermath others target ended))

namespace Proxy

variable {proxy : Proxy σ ν}

theorem seen_giveUp {exchange : Exchange ν} {e : ProxyError} {seen : List (Occurrence ν)}
    {result : Unit} (course : (proxy.giveUp exchange e).Yields seen result) :
    ∃ left, seen = .logged e :: finished exchange.ctx left := by
  unfold giveUp at course
  rw [Strand.yields_bind] at course
  obtain ⟨logging, _, rest, rfl, logged, course⟩ := course
  obtain rfl := seen_outside logged
  obtain ⟨left, rfl⟩ := seen_finish course
  exact ⟨left, rfl⟩

theorem relayAnswer_of_answerDecrypted {exchange : Exchange ν} {request : Request} {target : String}
    {seen : List (Occurrence ν)} {answer : Response × Exchange ν}
    (course : (proxy.answerDecrypted exchange request target).Yields seen answer) :
    RelayAnswer exchange.ctx (withTunnelOrigin request target) seen answer := by
  unfold answerDecrypted at course
  split at course
  · rename_i e nameless
    obtain ⟨rfl, rfl⟩ := seen_refuse course
    exact .unnamed e nameless
  · rename_i aimed named
    obtain ⟨passage, last, outcome, later, way, answered, rfl⟩ := answered_of_relayRequest course
    exact .relayed aimed named last passage later outcome answer way answered

theorem seen_turnAway {client : Stream} {requests : List Request} {seen : List (Occurrence ν)}
    {result : Unit} (course : (proxy.turnAway client requests).Yields seen result) :
    seen = requests.map fun _ => .responded (.ofStatus .badGateway) := by
  induction requests generalizing seen with
  | nil => exact (Strand.yields_done.mp course).1
  | cons request requests ih =>
      unfold turnAway at course
      rw [Strand.yields_bind] at course
      obtain ⟨responding, _, rest, rfl, responded, course⟩ := course
      obtain rfl := seen_outside responded
      rw [ih course]
      rfl

/-- While the proxy has an authority, it makes a leaf or says why it cannot. -/
theorem seen_leafFor {target : String} {seen : List (Occurrence ν)}
    {made : Option (Except IssueFailure Leaf)}
    (course : (proxy.leafFor target).YieldsUnder (Decrypts true) seen made) :
    ∃ outcome, made = some outcome ∧ seen = [.certified (some outcome)] := by
  obtain ⟨state, relied, rfl, rfl⟩ := Strand.yieldsUnder_act.mp course
  obtain ⟨authority, there⟩ := Option.isSome_iff_exists.mp relied
  simp only [StateT.run, there]
  exact ⟨_, rfl, rfl⟩

/-- Answering the requests of a stream. -/
theorem seen_answerAll {exchange : Exchange ν} {client : Stream} {target : String} {first : Request}
    {others : List Request} {seen : List (Occurrence ν)} {result : Unit}
    (course : (proxy.answerAll exchange client target (first :: others)).Yields seen result) :
    ∃ marks answer left, RelayAnswer exchange.ctx (withTunnelOrigin first target) marks answer ∧
      seen = marks ++ .responded answer.1 :: finished answer.2.ctx left ++
        others.map (fun _ => .responded (.ofStatus .badGateway)) := by
  unfold answerAll at course
  rw [Strand.yields_bind] at course
  obtain ⟨marks, answer, rest, rfl, relayed, course⟩ := course
  rw [Strand.yields_bind] at course
  obtain ⟨responding, _, rest, rfl, responded, course⟩ := course
  rw [Strand.yields_bind] at course
  obtain ⟨finishing, _, turning, rfl, finished, turned⟩ := course
  obtain rfl := seen_outside responded
  obtain ⟨left, rfl⟩ := seen_finish finished
  obtain rfl := seen_turnAway turned
  exact ⟨marks, answer, left, relayAnswer_of_answerDecrypted relayed, by simp [Interceptor.finished]⟩

/-- The task of a decrypted tunnel takes one of the courses. -/
theorem decryptCourse_of_runDecrypt {exchange : Exchange ν} {upgrade : UpgradeHandle}
    {target : String} {seen : List (Occurrence ν)} {result : Unit}
    (course : (proxy.runDecrypt exchange upgrade target).YieldsUnder (Decrypts true) seen result) :
    DecryptCourse exchange.ctx target proxy.handshakeTimeout seen := by
  unfold runDecrypt at course
  rw [Strand.yieldsUnder_bind] at course
  obtain ⟨certifying, made, rest, rfl, leafed, course⟩ := course
  obtain ⟨outcome, rfl, rfl⟩ := seen_leafFor leafed
  rcases outcome with (e | _) | leaf
  · obtain ⟨left, rfl⟩ := seen_giveUp course.yields
    exact .failed [_] _ (.certificate e) left
  · obtain ⟨left, rfl⟩ := seen_finish course.yields
    exact .unwritable left
  simp only at course
  rw [Strand.yieldsUnder_bind] at course
  obtain ⟨taking, taken, rest, rfl, took, course⟩ := course
  obtain rfl := seen_outside took.yields
  cases taken with
  | error source =>
      obtain ⟨left, rfl⟩ := seen_giveUp course.yields
      exact .failed [_, _] _ (.upgrade leaf source) left
  | ok client =>
      simp only at course
      rw [Strand.yieldsUnder_bind] at course
      obtain ⟨accepting, accepted, rest, rfl, accept, course⟩ := course
      obtain rfl := seen_outside accept.yields
      rcases accepted with (e | _) | tls
      · obtain ⟨left, rfl⟩ := seen_giveUp course.yields
        exact .failed [_, _, _] _ (.handshake leaf client e) left
      · obtain ⟨left, rfl⟩ := seen_giveUp course.yields
        exact .failed [_, _, _] _ (.handshakeTimeout leaf client) left
      simp only at course
      rw [Strand.yieldsUnder_bind] at course
      obtain ⟨receiving, ⟨requests, ended⟩, rest, rfl, received, course⟩ := course
      obtain rfl := seen_outside received.yields
      simp only at course
      rw [Strand.yieldsUnder_bind] at course
      obtain ⟨answering, _, logging, rfl, answered, logged⟩ := course
      obtain rfl := seen_logEnd logged.yields
      cases requests with
      | nil =>
          obtain ⟨left, rfl⟩ := seen_finish answered.yields
          exact .unused leaf client tls ended left
      | cons first others =>
          obtain ⟨marks, answer, left, relays, rfl⟩ := seen_answerAll answered.yields
          have served : DecryptCourse exchange.ctx target proxy.handshakeTimeout _ :=
            .served leaf client tls first others ended marks answer relays left
          simpa [opened, aftermath] using served

end Proxy

/-! ## What every course has -/

namespace Occurrence

/-- The engine connects for the client, or passes its bytes on unread. -/
def bypasses : Occurrence ν → Bool
  | .dialed .. => true
  | .tunnelAsked .. => true
  | .relayed .. => true
  | _ => false

/-- What has failed on the way to the requests inside a tunnel. An authority that cannot write a leaf
down comes to no outcome, not even an error: the task breaks off with it. -/
def fault? (target : String) (timeout : Duration) : Occurrence ν → Option ProxyError
  | .certified (some (.error (.refused e))) => some (.certificate target e)
  | .takenOver (.error source) => some (.upgrade target source)
  | .accepted (.error (.failed e)) => some (.handshake target e)
  | .accepted (.error .timedOut) => some (.handshakeTimeout target timeout)
  | _ => none

end Occurrence

/-- The failures of a tunnel that is to be decrypted. -/
def faults (target : String) (timeout : Duration) (seen : List (Occurrence ν)) : List ProxyError :=
  seen.filterMap (Occurrence.fault? target timeout)

/-- A request as it is handled that was read inside a tunnel to `target`: its origin is over https
where its first `Host` says, or where the tunnel goes. -/
def HandledAs (target : String) (first request : Request) : Prop :=
  ∃ authority : Authority, authority.text = first.headers.hostText?.getD target ∧
    request =
      { first with uri := .absolute .https authority (first.uri.pathAndQuery?.getD .slash) }

/-- What every tunnel that is decrypted keeps to. -/
structure Intercepted (target : String) (timeout : Duration) (seen : List (Occurrence ν)) : Prop where
  answered : answers seen = [connectionEstablished]
  /-- Nothing is dialed, and nothing is relayed unread. -/
  unread : ∀ o ∈ seen, o.bypasses = false
  once : (phases seen).count .beforeRequest ≤ 1 ∧ (phases seen).count .roundTrip ≤ 1
  /-- The request that is handled is the first that was read after TLS had been accepted. -/
  handled : ∀ before shown left after, seen = before ++ .hook .beforeRequest shown left :: after →
    ∃ tls first others ended, .accepted (.ok tls) ∈ before ∧
      .received (first :: others) ended ∈ before ∧ HandledAs target first shown.request
  sent : ∀ before outbound outcome after, seen = before ++ .sent outbound outcome :: after →
    ∃ shown left, .hook .beforeRequest shown left ∈ before
  failed : ∀ e ∈ faults target timeout seen,
    logs seen = [e] ∧ .beforeRequest ∉ phases seen ∧ .roundTrip ∉ phases seen
  finishes : (phases seen).count .finish = 1

theorem handledAs_of_withTunnelOrigin {target : String} {first request : Request}
    (named : withTunnelOrigin first target = .ok request) : HandledAs target first request := by
  unfold withTunnelOrigin Rewrite.result at named
  rw [on_nameOrigin] at named
  cases parsed : Authority.parse (first.headers.hostText?.getD target) with
  | error e =>
      simp only [parsed] at named
      exact nomatch named
  | ok authority =>
      simp only [parsed, Except.ok.injEq] at named
      exact ⟨authority, Authority.text_of_parse parsed, named.symm⟩

/-! ## The request inside -/

/-- A list in three parts that is cut at something in neither the first nor the last is cut in the
middle. -/
theorem cut_middle {α : Type} {first middle last before after : List α} {o : α}
    (cut : first ++ middle ++ last = before ++ o :: after) (early : o ∉ first) (late : o ∉ last) :
    ∃ left right, middle = left ++ o :: right ∧ before = first ++ left := by
  have whole : ∀ {rest}, rest ++ last = o :: after → ∃ right, rest = o :: right := by
    intro rest same
    cases rest with
    | nil => exact absurd (by simp [show last = o :: after from same]) late
    | cons next right => exact ⟨right, by rw [(List.cons.inj same).1]⟩
  rw [List.append_assoc] at cut
  rcases List.append_eq_append_iff.mp cut with ⟨left, rfl, rest⟩ | ⟨left, rfl, rest⟩
  · rcases List.append_eq_append_iff.mp rest with ⟨right, -, tail⟩ | ⟨right, rfl, tail⟩
    · exact absurd (by simp [tail]) late
    · obtain ⟨right, rfl⟩ := whole tail.symm
      exact ⟨left, right, rfl, rfl⟩
  · cases left with
    | nil =>
        obtain ⟨right, rfl⟩ := whole rest.symm
        exact ⟨[], right, rfl, by simp⟩
    | cons next left => exact absurd (by simp [(List.cons.inj rest).1]) early

section Inside

variable {ctx : Context ν} {aimed : Except ProxyError Request} {marks : List (Occurrence ν)}
  {answer : Response × Exchange ν}

/-- What happens to a request inside a tunnel. -/
theorem RelayAnswer.phases_sublist (answered : RelayAnswer ctx aimed marks answer) :
    (phases marks).Sublist [.beforeRequest, .parentProxy, .roundTrip, .beforeResponse] := by
  cases answered with
  | unnamed e nameless => exact List.nil_sublist _
  | relayed request named last passage later outcome answer way answered =>
      rw [phases_append, phases_of_silent answered.silent, List.append_nil]
      exact way.phases_sublist

/-- It is neither an answer to the client nor a failure of the tunnel, and bypasses nothing. -/
theorem RelayAnswer.inside (answered : RelayAnswer ctx aimed marks answer) (target : String)
    (timeout : Duration) :
    ∀ o ∈ marks, o.answer? = none ∧ o.fault? target timeout = none ∧ o.bypasses = false := by
  intro o member
  cases answered with
  | unnamed e nameless =>
      rw [List.mem_singleton.mp member]
      exact ⟨rfl, rfl, rfl⟩
  | relayed request named last passage later outcome answer way answered =>
      rcases List.mem_append.mp member with member | member
      · cases way <;> simp at member <;> rcases member with rfl | rfl | rfl | rfl <;>
          exact ⟨rfl, rfl, rfl⟩
      · cases answered <;> simp at member <;> rcases member with rfl | rfl <;>
          exact ⟨rfl, rfl, rfl⟩

/-- The hook before it is shown the request under its new target. -/
theorem RelayAnswer.handled (answered : RelayAnswer ctx aimed marks answer) {shown left : Context ν}
    (member : .hook .beforeRequest shown left ∈ marks) : aimed = .ok shown.request := by
  cases answered with
  | unnamed e nameless => simp at member
  | relayed request named last passage later outcome answer way answered =>
      rcases List.mem_append.mp member with member | member
      · rw [(way.hook_eq member).2]
        exact named
      · exact nomatch answered.silent _ member

/-- That hook comes before anything is sent. -/
theorem RelayAnswer.sent (answered : RelayAnswer ctx aimed marks answer)
    {before after : List (Occurrence ν)} {outbound : Outbound}
    {outcome : Except ProxyError Response} (sent : marks = before ++ .sent outbound outcome :: after) :
    ∃ shown left, .hook .beforeRequest shown left ∈ before := by
  cases answered with
  | unnamed e nameless =>
      have member : (.sent outbound outcome : Occurrence ν) ∈ [.logged e] := by simp [sent]
      simp at member
  | relayed request named last passage later kept answer way answered =>
      have silent : (.sent outbound outcome : Occurrence ν) ∉ later :=
        fun member => nomatch answered.silent _ member
      obtain ⟨mid, rest, cut, rfl⟩ :=
        cut_middle (show [] ++ passage ++ later = _ from sent) List.not_mem_nil silent
      obtain ⟨left, parent, reviewed, rfl, -, -, -⟩ := way.of_sent cut
      exact ⟨_, left, List.mem_cons_self ..⟩

end Inside

/-! ## Every course is one of these -/

/-- A tunnel in which no request is handled. -/
theorem intercepted_of_unserved {target : String} {timeout : Duration} {seen : List (Occurrence ν)}
    (answered : answers seen = [connectionEstablished]) (unread : ∀ o ∈ seen, o.bypasses = false)
    (reached : phases seen = [.connect, .auth, .parentProxy, .finish])
    (failed : ∀ e ∈ faults target timeout seen, logs seen = [e]) :
    Intercepted target timeout seen := by
  refine ⟨answered, unread, ?_, ?_, ?_, fun e member => ⟨failed e member, ?_, ?_⟩, ?_⟩
  · rw [reached]
    decide
  · rintro before shown left after rfl
    have entered : Phase.beforeRequest ∈ phases (before ++ .hook .beforeRequest shown left :: after) :=
      mem_phases (List.mem_append_right _ (List.mem_cons_self ..)) rfl
    rw [reached] at entered
    exact absurd entered (by decide)
  · rintro before outbound outcome after rfl
    have sent : Phase.roundTrip ∈ phases (before ++ .sent outbound outcome :: after) :=
      mem_phases (List.mem_append_right _ (List.mem_cons_self ..)) rfl
    rw [reached] at sent
    exact absurd sent (by decide)
  · rw [reached]
    decide
  · rw [reached]
    decide
  · rw [reached]
    decide

theorem aftermath_silent (others : List Request) (target : String) (ended : Option String)
    (timeout : Duration) :
    ∀ o ∈ (aftermath others target ended : List (Occurrence ν)), o.phase? = none ∧
      o.answer? = none ∧ o.fault? target timeout = none ∧ o.bypasses = false := by
  intro o member
  rcases List.mem_append.mp member with member | member
  · obtain ⟨request, -, rfl⟩ := List.mem_map.mp member
    exact ⟨rfl, rfl, rfl, rfl⟩
  · cases ended with
    | none => exact absurd member List.not_mem_nil
    | some source =>
        rw [endLogged, Option.map_some, Option.toList_some, List.mem_singleton] at member
        rw [member]
        exact ⟨rfl, rfl, rfl, rfl⟩

section Served

variable {ctx : Context ν} {target : String} {timeout : Duration} {first : Request}
  {others : List Request} {marks front back : List (Occurrence ν)} {answer : Response × Exchange ν}

/-- The marks of a request inside a tunnel stand between others that are none of its own. -/
structure Framed (target : String) (timeout : Duration) (first : Request)
    (front back : List (Occurrence ν)) : Prop where
  front_phases : phases front = [.connect, .auth, .parentProxy]
  back_phases : phases back = [.finish]
  front_answers : answers front = [connectionEstablished]
  back_answers : answers back = []
  front_plain : ∀ o ∈ front, o.fault? target timeout = none ∧ o.bypasses = false
  back_plain : ∀ o ∈ back, o.fault? target timeout = none ∧ o.bypasses = false
  accepts : ∃ tls, .accepted (.ok tls) ∈ front
  receives : ∃ others ended, .received (first :: others) ended ∈ front

theorem Framed.intercepted (framed : Framed target timeout first front back)
    (answered : RelayAnswer ctx (withTunnelOrigin first target) marks answer) :
    Intercepted target timeout (front ++ marks ++ back) := by
  have inside := answered.inside target timeout
  have reached : phases (front ++ marks ++ back) =
      [.connect, .auth, .parentProxy] ++ phases marks ++ [.finish] := by
    simp [framed.front_phases, framed.back_phases]
  have within : (phases (front ++ marks ++ back)).Sublist
      ([.connect, .auth, .parentProxy] ++ [.beforeRequest, .parentProxy, .roundTrip, .beforeResponse]
        ++ [.finish]) := by
    rw [reached]
    exact ((List.Sublist.refl _).append answered.phases_sublist).append (List.Sublist.refl _)
  -- a mark of a phase that the frame does not reach is one of the request's own
  have early : ∀ {o : Occurrence ν} {phase : Phase}, o.phase? = some phase →
      phase ∉ [Phase.connect, .auth, .parentProxy] → o ∉ front := by
    intro o phase found other member
    exact other (framed.front_phases ▸ mem_phases member found)
  have late : ∀ {o : Occurrence ν} {phase : Phase}, o.phase? = some phase →
      phase ∉ [Phase.finish] → o ∉ back := by
    intro o phase found other member
    exact other (framed.back_phases ▸ mem_phases member found)
  refine ⟨?_, ?_, ⟨within.count_le _, within.count_le _⟩, ?_, ?_, ?_, ?_⟩
  · have unanswered : answers marks = [] :=
      List.filterMap_eq_nil_iff.mpr fun o member => (inside o member).1
    simp [framed.front_answers, framed.back_answers, unanswered]
  · intro o member
    simp only [List.mem_append] at member
    rcases member with (member | member) | member
    · exact (framed.front_plain o member).2
    · exact (inside o member).2.2
    · exact (framed.back_plain o member).2
  · intro before shown left after cut
    obtain ⟨mid, rest, rfl, rfl⟩ :=
      cut_middle cut (early rfl (by decide)) (late rfl (by decide))
    obtain ⟨tls, accepted⟩ := framed.accepts
    obtain ⟨others, ended, received⟩ := framed.receives
    exact ⟨tls, first, others, ended, List.mem_append_left _ accepted,
      List.mem_append_left _ received,
      handledAs_of_withTunnelOrigin (answered.handled (List.mem_append_right _ (List.mem_cons_self ..)))⟩
  · intro before outbound outcome after cut
    obtain ⟨mid, rest, inner, rfl⟩ :=
      cut_middle cut (early rfl (by decide)) (late rfl (by decide))
    obtain ⟨shown, left, hooked⟩ := answered.sent inner
    exact ⟨shown, left, List.mem_append_right _ hooked⟩
  · intro e member
    obtain ⟨o, member, found⟩ := List.mem_filterMap.mp member
    simp only [List.mem_append] at member
    rcases member with (member | member) | member
    · exact nomatch found.symm.trans (framed.front_plain o member).1
    · exact nomatch found.symm.trans (inside o member).2.1
    · exact nomatch found.symm.trans (framed.back_plain o member).1
  · have never : (phases marks).count .finish = 0 :=
      Nat.le_zero.mp (answered.phases_sublist.count_le _)
    rw [reached, List.count_append, List.count_append, never]
    decide

end Served

/-- The marks of a request for a tunnel up to the moment it is granted one. -/
def granted (shown held left : Context ν) (asked : Request) (parent : Option Uri) :
    List (Occurrence ν) :=
  letThrough shown held left ++
    [.parentAsked asked (.ok parent), .tunnelled connectionEstablished]

theorem Failing.intercepted {target : String} {timeout : Duration} {marks : List (Occurrence ν)}
    {e : ProxyError} (failing : Failing target timeout marks e) (shown held left : Context ν)
    (asked : Request) (parent : Option Uri) (last after : Context ν) :
    Intercepted target timeout
      (granted shown held left asked parent ++ (marks ++ .logged e :: finished last after)) := by
  cases failing <;> refine intercepted_of_unserved rfl ?_ rfl ?_
  all_goals simp [granted, letThrough, finished, Occurrence.bypasses, faults, Occurrence.fault?,
    Occurrence.logged?]

theorem framed_of_served (target : String) (timeout : Duration) (shown held left : Context ν)
    (asked : Request) (parent : Option Uri) (leaf : Leaf) (client tls : Stream) (first : Request)
    (others : List Request) (ended : Option String) (response : Response) (last after : Context ν) :
    Framed target timeout first
      (granted shown held left asked parent ++ opened leaf client tls (first :: others) ended)
      (.responded response :: finished last after ++ aftermath others target ended) := by
  have silent := aftermath_silent (ν := ν) others target ended timeout
  have unphased : phases (aftermath others target ended : List (Occurrence ν)) = [] :=
    phases_of_silent fun o member => (silent o member).1
  have unanswered : answers (aftermath others target ended : List (Occurrence ν)) = [] :=
    List.filterMap_eq_nil_iff.mpr fun o member => (silent o member).2.1
  refine ⟨rfl, ?_, rfl, ?_, ?_, ?_, ⟨tls, by simp [opened]⟩, ⟨others, ended, by simp [opened]⟩⟩
  · rw [phases_append, unphased]
    rfl
  · rw [answers_append, unanswered]
    rfl
  · simp [granted, letThrough, opened, Occurrence.fault?, Occurrence.bypasses]
  · intro o member
    rcases List.mem_append.mp member with member | member
    · simp only [finished, List.mem_cons, List.not_mem_nil, or_false] at member
      rcases member with rfl | rfl | rfl <;> exact ⟨rfl, rfl⟩
    · exact (silent o member).2.2

/-- A granted tunnel that is decrypted keeps to it, on every course. -/
theorem DecryptCourse.intercepted {ctx : Context ν} {target : String} {timeout : Duration}
    {later : List (Occurrence ν)} (course : DecryptCourse ctx target timeout later)
    (shown held left : Context ν) (asked : Request) (parent : Option Uri) :
    Intercepted target timeout (granted shown held left asked parent ++ later) := by
  cases course with
  | unwritable after =>
      refine intercepted_of_unserved rfl ?_ rfl ?_
      all_goals simp [granted, letThrough, finished, Occurrence.bypasses, faults, Occurrence.fault?]
  | failed marks e failing after => exact failing.intercepted shown held left asked parent ctx after
  | unused leaf client tls ended after =>
      refine intercepted_of_unserved ?_ ?_ ?_ ?_ <;> cases ended
      all_goals simp [granted, letThrough, opened, finished, endLogged, Occurrence.bypasses, faults,
        Occurrence.fault?, Occurrence.answer?, Occurrence.phase?, Hook.phase]
  | served leaf client tls first others ended marks answer answered after =>
      have framed := framed_of_served target timeout shown held left asked parent leaf client tls
        first others ended answer.1 answer.2.ctx after
      have kept := framed.intercepted answered
      simpa only [List.append_assoc, List.cons_append] using kept

namespace Occurrence

/-- What a tunnel that is to be decrypted comes to only if nothing stands in its way. -/
def unhindered : Occurrence ν → Bool
  | .parentAsked _ (.ok _) => true
  | .received .. => true
  | _ => false

end Occurrence

/-- Among other exchanges, a tunnel that nothing stands in the way of is granted and decrypted. -/
theorem Proxy.decryptCourse_of_run [EmptyCollection ν] {proxy : Proxy σ ν} {state : ProxyState σ ν}
    (standing : Decrypts true state) {moves : List (Move Inbound)} {thread : Attendance σ ν}
    (member : thread ∈ (Weave.run proxy.attendTo state moves).threads) {left : Context ν}
    (auth : authorized thread.seen = some left) (grants : left.abort = false)
    (way : route left.request = .tunnel) {o : Occurrence ν} (there : o ∈ thread.seen)
    (free : o.unhindered = true) :
    ∃ rest shown held parent marks,
      DecryptCourse left.takeUpgrade.2 (tunnelTarget left.request.uri) proxy.handshakeTimeout marks ∧
      thread.seen ++ rest = granted shown held left left.request parent ++ marks ∧
      (thread.Ended → rest = []) := by
  obtain ⟨rest, shown, held, marks, served, later, grant, ends, whole, ended⟩ :=
    tunnel_of_run standing member auth grants way
  have there := List.mem_append_left rest there
  rw [whole] at there
  cases grant with
  | refused marks e hindered =>
      cases ends with
      | answered response last =>
          have stuck : ∀ mark ∈ letThrough shown held left ++ (marks ++ [.logged e]) ++
              closing (.ofStatus (refusal e)) left.takeUpgrade.2 last, mark.unhindered = false := by
            cases hindered with
            | unsupported none => simp [letThrough, closing, Occurrence.unhindered]
            | unparented held source => simp [letThrough, closing, Occurrence.unhindered]
            | unvouched held raw => cases raw
          rw [stuck o there] at free
          cases free
  | decrypted handle held' decrypts parent =>
      cases ends with
      | tunnelled response task later course =>
          exact ⟨rest, shown, held, parent, later, decryptCourse_of_runDecrypt course,
            by simpa [granted] using whole, ended⟩
  | raw handle held' raw => cases raw
  | dropped held' raw => cases raw

/-- **A tunnel that is decrypted is never relayed unread.** Whatever the hooks, the transport and the
network do, and whatever other exchanges do beside it: once a proxy with a certificate authority has
let a request for a tunnel through, and its parent could be named, the tunnel is on a course that
keeps to `Intercepted`, and has taken it when it ends. A leaf is made, or refused with an error, or
its task breaks off while making it: that is what the outcome `unwritable` of `certified` stands for. It is
no failure that anyone is told of, so nothing is logged then, and the rest of `Intercepted` holds. -/
theorem Proxy.tunnel_intercepted [EmptyCollection ν] (proxy : Proxy σ ν) (world : σ)
    (capacity : Nat) (ttl : Duration) (authority : CertificateAuthority) (moves : List (Move Inbound))
    {thread : Attendance σ ν}
    (member : thread ∈ (Weave.run proxy.attendTo (.initial world capacity ttl (some authority))
      moves).threads) {left : Context ν} (auth : authorized thread.seen = some left)
    (grants : left.abort = false) (way : route left.request = .tunnel) {asked : Request}
    {parent : Option Uri} (named : .parentAsked asked (.ok parent) ∈ thread.seen) :
    ∃ later, Intercepted (tunnelTarget left.request.uri) proxy.handshakeTimeout
      (thread.seen ++ later) ∧ (thread.Ended → later = []) := by
  have standing : Decrypts true (.initial world capacity ttl (some authority) : ProxyState σ ν) := rfl
  obtain ⟨rest, shown, held, parent, marks, course, whole, ended⟩ :=
    decryptCourse_of_run standing member auth grants way named rfl
  refine ⟨rest, ?_, ended⟩
  rw [whole]
  exact course.intercepted shown held left left.request parent

/-- A parent could be named, or there is to be none. -/
def Occurrence.knowsParent : Occurrence ν → Bool
  | .parentAsked _ (.ok _) => true
  | _ => false

/-- A proxy whose clients hand over their connections, speak TLS, and send two requests. -/
def decrypting : Proxy Stage Notes where
  delegate := .inert
  transport := ⟨fun _ => return .ok {}⟩
  network := { Stage.network with
    takeOver := fun _ => return .ok ⟨0⟩
    acceptTls := fun _ _ _ => return .ok ⟨1⟩
    requests := fun _ => return ([{}, {}], none) }

/-- An exchange of it, from its beginning to its end. -/
def decryptedWeave : Weave Inbound (Occurrence Notes) (ProxyState Stage Notes) Unit :=
  Weave.run decrypting.attendTo
    (.initial ⟨{}, [], [], 0, ⟨⟨.p256, []⟩, 1⟩⟩ 1 (.ofSecs 1)
      (some (.new ⟨"", .ofNames "o" "c", ⟨.p256, []⟩, ⟨⟨.p256, []⟩, 1⟩⟩ none)))
    (.start ⟨{ method := .connect, uri := .authority ⟨"a:443", by decide, by decide, by decide⟩ },
      none, some ⟨0⟩⟩ :: List.replicate 30 (.advance 0))

theorem tunnel_intercepted_decrypting :
    ∃ thread ∈ decryptedWeave.threads, Phase.roundTrip ∈ phases thread.seen ∧
      answers thread.seen = [connectionEstablished] ∧ (∀ o ∈ thread.seen, o.bypasses = false) ∧
      (phases thread.seen).count .finish = 1 := by
  have course : (decryptedWeave.threads[0]?.any fun thread => thread.value?.isSome &&
      (phases thread.seen).contains .roundTrip &&
      (authorized thread.seen).any (fun left => !left.abort && route left.request == .tunnel) &&
      thread.seen.any Occurrence.knowsParent) = true := by decide +kernel
  obtain ⟨thread, there, holds⟩ := (Option.any_eq_true ..).mp course
  simp only [Bool.and_eq_true] at holds
  obtain ⟨⟨⟨ended, reached⟩, passes⟩, asks⟩ := holds
  obtain ⟨left, auth, passes⟩ := (Option.any_eq_true ..).mp passes
  simp only [Bool.and_eq_true, Bool.not_eq_true', beq_iff_eq] at passes
  obtain ⟨o, asked, named⟩ := List.any_eq_true.mp asks
  unfold Occurrence.knowsParent at named
  split at named
  · have member := List.mem_of_getElem? there
    obtain ⟨later, kept, all⟩ :=
      decrypting.tunnel_intercepted _ _ _ _ _ member auth passes.1 passes.2 asked
    rw [all ended, List.append_nil] at kept
    exact ⟨thread, member, List.contains_iff_mem.mp reached, kept.answered, kept.unread,
      kept.finishes⟩
  · cases named

end Interceptor

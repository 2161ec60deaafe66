/-
# Interceptor.Proofs.Net.FreshLookups — what a cache of lookups answers with

Calls on one cache overlap: between reading the cache and writing to it, a call
waits for its lookup, and others read and write meanwhile, some of them for the
same host and with an older reading of the clock. What makes every answer right
is a fact about the cache and everything that was done so far (`Accounted`): an
entry is what some call kept, under the moment it kept it. No step breaks it.

* `lookupCourse_of_make`: what a call may do from beginning to end, and what it
  answers then;
* `accounted_of_run`: after any run of any calls, entries and readings of the cache
  are accounted for;
* `returns_iff`: a call returns unless it overruns the clock, and it does that just when
  the lookup it made ended too late;
* `answers_current`: the addresses of a host are those that a lookup of this very
  host found, by the call itself or by one whose lookup ended less than the time to
  live before the cache was read; and of these the right one is chosen.
-/
import Interceptor.Net.Lookup
import Interceptor.Strand.Weave

namespace Interceptor.Net

set_option autoImplicit false

variable {σ : Type}

/-! ## Which address is chosen -/

/-- The first IPv4 address, or the last address when there is none. -/
inductive Chosen (addrs : List IpAddr) (ip : IpAddr) : Prop
  | first {before after : List IpAddr} (parts : addrs = before ++ ip :: after)
      (v4 : ip.isV4 = true) (others : ∀ other ∈ before, other.isV4 = false)
  | last (none : ∀ other ∈ addrs, other.isV4 = false) (last : addrs.getLast? = some ip)

/-- There is an address to choose unless there are none. -/
theorem exists_chosen {addrs : List IpAddr} (some : addrs ≠ []) :
    ∃ ip, select? addrs = Option.some ip ∧ Chosen addrs ip := by
  unfold select?
  cases found : addrs.find? (·.isV4) with
  | some ip =>
      obtain ⟨v4, before, after, parts, others⟩ := List.find?_eq_some_iff_append.mp found
      exact ⟨ip, rfl, .first parts v4 fun other member => by simpa using others other member⟩
  | none =>
      obtain ⟨ip, last⟩ := Option.isSome_iff_exists.mp (List.getLast?_isSome.mpr some)
      refine ⟨ip, last, .last (fun other member => ?_) last⟩
      simpa using List.find?_eq_none.mp found other member

/-! ## Calls -/

/-- A call on a cache. -/
inductive LookupCall
  | fetch (host : String)
  | resolve (host : String)
  deriving DecidableEq

/-- What a call gives. -/
inductive LookupReply
  | addresses (outcome : Except LookupFailure (List IpAddr))
  | address (outcome : Except LookupFailure IpAddr)

/-- The address that was chosen. -/
def LookupReply.chosen? : LookupReply → Option IpAddr
  | .addresses _ => none
  | .address outcome => outcome.toOption

/-- The call has come to its end, with an answer or an error. -/
def LookupReply.returns : LookupReply → Bool
  | .addresses (.error .overrun) => false
  | .address (.error .overrun) => false
  | _ => true

theorem LookupReply.of_chosen? {reply : LookupReply} {ip : IpAddr}
    (chosen : reply.chosen? = some ip) : reply = .address (.ok ip) := by
  rcases reply with outcome | e | other
  · exact nomatch chosen
  · exact nomatch chosen
  · rw [Option.some.inj chosen]

namespace LookupCall

def host : LookupCall → String
  | .fetch host => host
  | .resolve host => host

def make (machine : Machine σ) : LookupCall → LookupM σ LookupReply
  | .fetch host => .addresses <$> machine.fetch host
  | .resolve host => .address <$> machine.resolve host

/-- What a call makes of the addresses of its host. -/
def reply : LookupCall → Except LookupFailure (List IpAddr) → LookupReply
  | .fetch _, outcome => .addresses outcome
  | .resolve host, outcome => .address (Machine.choose host outcome)

/-- Every call fetches the addresses of its host, and the rest is its own. -/
theorem make_eq (machine : Machine σ) (call : LookupCall) :
    call.make machine = call.reply <$> machine.fetch call.host := by
  cases call with
  | fetch host => rfl
  | resolve host =>
      simp only [make, Machine.resolve, Functor.map_map, LookupCall.host]
      rfl

end LookupCall

/-- A call under way. -/
abbrev LookupThread (σ : Type) := Thread LookupCall LookupMark (Lookups σ) LookupReply

/-! ## The course of a call -/

/-- What a call does from beginning to end, and the addresses it comes to. -/
inductive LookupCourse (host : String) :
    List LookupMark → Except LookupFailure (List IpAddr) → Prop
  | literal {ip : IpAddr} (parsed : IpAddr.parse? host = some ip) : LookupCourse host [] (.ok [ip])
  | cached {now : Nat} {addrs : List IpAddr} (named : IpAddr.parse? host = none) :
      LookupCourse host [.read host now (some addrs)] (.ok addrs)
  | failed {now : Nat} {e : IoError} (named : IpAddr.parse? host = none) :
      LookupCourse host [.read host now none, .observed (.started host), .looked host (.error e),
        .observed (.done host (.error e))] (.error (.failed e))
  | found {now moment : Nat} {addrs : List IpAddr} (named : IpAddr.parse? host = none)
      (some : addrs ≠ []) :
      LookupCourse host [.read host now none, .observed (.started host), .looked host (.ok addrs),
        .observed (.done host (.ok addrs)), .stamped moment, .kept host addrs moment] (.ok addrs)
  | overran {now moment : Nat} {addrs : List IpAddr} (named : IpAddr.parse? host = none)
      (some : addrs ≠ []) :
      LookupCourse host [.read host now none, .observed (.started host), .looked host (.ok addrs),
        .observed (.done host (.ok addrs)), .stamped moment, .overran host moment] (.error .overrun)

namespace Machine

variable {machine : Machine σ}

theorem yields_perform {α : Type} {act : StateM σ α} {mark : α → LookupMark}
    {seen : List LookupMark} {value : α} (course : (perform act mark).Yields seen value) :
    ∃ world, value = (act world).1 ∧ seen = [mark value] := by
  obtain ⟨lookups, given, left⟩ := Strand.yields_act.mp course
  exact ⟨lookups.world, given, left⟩

/-- A lookup gives an error or some addresses. -/
theorem lookupAll_ne_nil (machine : Machine σ) (host : String) (world : σ) :
    (machine.lookupAll host world).1 ≠ .ok [] := by
  intro nothing
  simp only [lookupAll, bind, StateT.bind, pure] at nothing
  generalize machine.lookup host world = given at nothing
  obtain ⟨outcome, after⟩ := given
  rcases outcome with e | _ | ⟨ip, others⟩
  · exact nomatch nothing
  · exact nomatch nothing
  · exact nomatch nothing

theorem course_of_lookupAfresh {host : String} {now : Nat} {seen : List LookupMark}
    {outcome : Except LookupFailure (List IpAddr)} (named : IpAddr.parse? host = none)
    (course : (machine.lookupAfresh host).Yields seen outcome) :
    LookupCourse host (.read host now none :: seen) outcome := by
  rw [lookupAfresh, Strand.yields_bind] at course
  obtain ⟨_, _, _, rfl, announced, course⟩ := course
  obtain ⟨_, -, rfl⟩ := yields_perform announced
  rw [Strand.yields_bind] at course
  obtain ⟨_, answer, _, rfl, looked, course⟩ := course
  obtain ⟨world, given, rfl⟩ := yields_perform looked
  rw [Strand.yields_bind] at course
  obtain ⟨_, _, _, rfl, reported, course⟩ := course
  obtain ⟨_, -, rfl⟩ := yields_perform reported
  cases answer with
  | error e =>
      obtain ⟨rfl, rfl⟩ := course
      exact .failed named
  | ok addrs =>
      rw [Strand.yields_bind] at course
      obtain ⟨_, moment, _, rfl, stamped, course⟩ := course
      obtain ⟨_, -, rfl⟩ := yields_perform stamped
      rw [Strand.yields_bind] at course
      obtain ⟨_, kept, _, rfl, keeping, rfl, rfl⟩ := course
      obtain ⟨_, -, rfl⟩ := Strand.yields_act.mp keeping
      have some : addrs ≠ [] := by
        rintro rfl
        exact machine.lookupAll_ne_nil host world given.symm
      cases kept with
      | true => exact .found named some
      | false => exact .overran named some

theorem course_of_fetch {host : String} {seen : List LookupMark}
    {outcome : Except LookupFailure (List IpAddr)} (course : (machine.fetch host).Yields seen outcome) :
    LookupCourse host seen outcome := by
  unfold fetch at course
  split at course
  · rename_i ip parsed
    obtain ⟨rfl, rfl⟩ := course
    exact .literal parsed
  · rename_i named
    rw [Strand.yields_bind] at course
    obtain ⟨_, ⟨now, found⟩, _, rfl, consulted, course⟩ := course
    obtain ⟨_, -, rfl⟩ := Strand.yields_act.mp consulted
    cases found with
    | some addrs =>
        obtain ⟨rfl, rfl⟩ := course
        exact .cached named
    | none => exact course_of_lookupAfresh named course

end Machine

/-- What a call may do from beginning to end. -/
theorem lookupCourse_of_make {machine : Machine σ} {call : LookupCall} {seen : List LookupMark}
    {reply : LookupReply} (course : (call.make machine).Yields seen reply) :
    ∃ outcome, LookupCourse call.host seen outcome ∧ reply = call.reply outcome := by
  rw [LookupCall.make_eq, map_eq_pure_bind] at course
  rw [Strand.yields_bind] at course
  obtain ⟨first, outcome, _, rfl, fetched, rfl, rfl⟩ := course
  rw [List.append_nil]
  exact ⟨outcome, Machine.course_of_fetch fetched, rfl⟩

/-- What comes last in a list is in a beginning of it only when that is all of it. -/
theorem eq_nil_of_last_mem {α : Type} {seen later : List α} (before : List α) {last : α}
    (all : seen ++ later = before ++ [last]) (fresh : last ∉ before) (member : last ∈ seen) :
    later = [] := by
  rcases List.eq_nil_or_concat later with rfl | ⟨others, other, rfl⟩
  · rfl
  · rw [List.concat_eq_append, ← List.append_assoc] at all
    obtain ⟨begun, -⟩ := List.append_inj' all rfl
    exact absurd (begun ▸ List.mem_append_left others member) fresh

/-- What is kept is what a lookup of the host found, under the moment it ended at. -/
theorem LookupCourse.of_kept {host : String} {seen later : List LookupMark}
    {outcome : Except LookupFailure (List IpAddr)} (course : LookupCourse host (seen ++ later) outcome)
    {other : String} {addrs : List IpAddr} {moment : Nat} (kept : .kept other addrs moment ∈ seen) :
    other = host ∧ addrs ≠ [] ∧ [.looked host (.ok addrs), .stamped moment].Sublist seen := by
  generalize all : seen ++ later = marks at course
  have member : .kept other addrs moment ∈ marks := all ▸ List.mem_append_left later kept
  cases course with
  | literal parsed => exact absurd member List.not_mem_nil
  | cached named => simp at member
  | failed named => simp at member
  | overran named => simp at member
  | @found now _ _ named some =>
      simp only [List.mem_cons, reduceCtorEq, LookupMark.kept.injEq, List.not_mem_nil, or_false,
        false_or] at member
      obtain ⟨rfl, rfl, rfl⟩ := member
      -- it is the last thing that a call does
      obtain rfl := eq_nil_of_last_mem [_, _, _, _, _] all (by simp) kept
      rw [List.append_nil] at all
      subst all
      exact ⟨rfl, some, by simp⟩

/-! ## One step -/

namespace LookupMark

/-- Whether the mark tells of the cache. -/
def ofCache : LookupMark → Bool
  | .read .. => true
  | .kept .. => true
  | .overran .. => true
  | _ => false

end LookupMark

theorem LookupCache.store_of_some {cache : LookupCache} {now moment : Nat}
    (shown : expiry? cache.ttl now = some moment) (host : String) (addrs : List IpAddr) :
    cache.store host addrs now = (true, (cache.prune now).insert host ⟨addrs, moment⟩) := by
  rw [store, shown]

theorem LookupCache.store_of_none {cache : LookupCache} {now : Nat}
    (late : expiry? cache.ttl now = none) (host : String) (addrs : List IpAddr) :
    cache.store host addrs now = (false, cache.prune now) := by
  rw [store, late]

/-- What a step of a call does to the machine and the cache, and the mark it leaves. -/
inductive LookupStep : Lookups σ → List LookupMark → Lookups σ → Prop
  | read (before : Lookups σ) (world : σ) (host : String) (now : Nat) :
      LookupStep before [.read host now (before.cache.fresh? host now)] { before with world }
  | outside (before : Lookups σ) (world : σ) (o : LookupMark) (apart : o.ofCache = false) :
      LookupStep before [o] { before with world }
  | kept (before : Lookups σ) (host : String) (addrs : List IpAddr) (now moment : Nat)
      (shown : expiry? before.cache.ttl now = some moment) :
      LookupStep before [.kept host addrs now]
        { before with cache := (before.cache.prune now).insert host ⟨addrs, moment⟩ }
  | overran (before : Lookups σ) (host : String) (now : Nat)
      (late : expiry? before.cache.ttl now = none) :
      LookupStep before [.overran host now] { before with cache := before.cache.prune now }

/-- Every step is one of these. -/
abbrev Looking {α : Type} (t : LookupM σ α) : Prop :=
  t.Upholds (fun _ => True) LookupStep fun _ => True

namespace Machine

theorem looking_perform {α : Type} (act : StateM σ α) {mark : α → LookupMark}
    (apart : ∀ value, (mark value).ofCache = false) : Looking (perform act mark) :=
  fun lookups _ => ⟨.outside lookups _ _ (apart _), trivial⟩

theorem looking_consult (machine : Machine σ) (host : String) : Looking (machine.consult host) :=
  fun lookups _ => ⟨.read lookups _ host _, trivial⟩

theorem looking_keep (host : String) (addrs : List IpAddr) (now : Nat) :
    Looking (keep host addrs now : LookupM σ Bool) := by
  refine fun lookups _ => ⟨?_, trivial⟩
  simp only [StateT.run]
  cases shown : expiry? lookups.cache.ttl now with
  | some moment =>
      rw [LookupCache.store_of_some shown]
      exact .kept lookups host addrs now moment shown
  | none =>
      rw [LookupCache.store_of_none shown]
      exact .overran lookups host now shown

theorem looking_lookupAfresh (machine : Machine σ) (host : String) :
    Looking (machine.lookupAfresh host) := by
  refine (looking_perform _ fun _ => rfl).bind fun _ _ => ?_
  refine (looking_perform _ fun _ => rfl).bind fun outcome _ => ?_
  refine (looking_perform _ fun _ => rfl).bind fun _ _ => ?_
  cases outcome with
  | error e => trivial
  | ok addrs =>
      refine (looking_perform _ fun _ => rfl).bind fun now _ => ?_
      exact (looking_keep host addrs now).bind fun _ _ => trivial

theorem looking_fetch (machine : Machine σ) (host : String) : Looking (machine.fetch host) := by
  unfold fetch
  split
  · trivial
  · refine (machine.looking_consult host).bind fun consulted _ => ?_
    obtain ⟨now, found⟩ := consulted
    cases found with
    | some addrs => trivial
    | none => exact machine.looking_lookupAfresh host

end Machine

theorem LookupCall.looking_make (machine : Machine σ) (call : LookupCall) :
    Looking (call.make machine) := by
  rw [make_eq, map_eq_pure_bind]
  exact (machine.looking_fetch call.host).bind fun _ _ => trivial

/-! ## The cache and what was done so far -/

/-- Entries are what some call kept, with the time to live from that moment on, and what was read
was not over at that time. -/
structure Accounted (ttl : Duration) (lookups : Lookups σ) (past : LookupMark → Prop) : Prop where
  stands : lookups.cache.ttl = ttl
  entries : ∀ host entry, (host, entry) ∈ lookups.cache.entries →
    ∃ moment, past (.kept host entry.addrs moment) ∧ entry.expiresAt = moment + ttl.nanos
  reads : ∀ host now addrs, past (.read host now (some addrs)) →
    ∃ moment, past (.kept host addrs moment) ∧ now < moment + ttl.nanos
  /-- What was kept expires when a clock can show it; -/
  kept : ∀ host addrs moment, past (.kept host addrs moment) → (expiry? ttl moment).isSome
  /-- and the clock was overrun only when it cannot. -/
  overran : ∀ host moment, past (.overran host moment) → expiry? ttl moment = none

theorem LookupCache.mem_of_fresh? {cache : LookupCache} {host : String} {now : Nat}
    {addrs : List IpAddr} (fresh : cache.fresh? host now = some addrs) :
    ∃ entry, (host, entry) ∈ cache.entries ∧ entry.addrs = addrs ∧ now < entry.expiresAt := by
  obtain ⟨entry, there, given⟩ := Option.bind_eq_some_iff.mp fresh
  obtain ⟨before, after, parts, -⟩ := List.lookup_eq_some_iff.mp there
  split at given
  · rename_i early
    exact ⟨entry, by simp [parts], Option.some.inj given, early⟩
  · exact nomatch given

theorem LookupCache.mem_prune {cache : LookupCache} {host : String} {now : Nat} {entry : CachedLookup} :
    (host, entry) ∈ (cache.prune now).entries ↔
      (host, entry) ∈ cache.entries ∧ now < entry.expiresAt := by
  simp [prune, List.mem_filter]

theorem LookupCache.mem_insert {cache : LookupCache} {host other : String} {entry given : CachedLookup} :
    (other, entry) ∈ (cache.insert host given).entries ↔
      (other, entry) ∈ cache.entries ∧ other ≠ host ∨ other = host ∧ entry = given := by
  simp [insert, List.mem_filter]

/-- What expires does so when its time is over, and a clock can show that. -/
theorem expiry?_eq_some_iff {ttl : Duration} {now moment : Nat} : expiry? ttl now = some moment ↔
    moment = now + ttl.nanos ∧ (now + ttl.nanos) / 1000000000 < clockSeconds := by
  unfold expiry?
  split
  · rename_i early
    simp [early, eq_comm]
  · rename_i late
    simp [late]

theorem expiry?_eq_none_iff {ttl : Duration} {now : Nat} : expiry? ttl now = none ↔
    clockSeconds ≤ (now + ttl.nanos) / 1000000000 := by
  unfold expiry?
  split
  · rename_i early
    simp only [reduceCtorEq, false_iff]
    exact Nat.not_le_of_lt early
  · rename_i late
    simp only [true_iff]
    exact Nat.le_of_not_lt late

/-- What is done next without a change to the cache leaves accounted for what was. -/
theorem Accounted.reads_mono {ttl : Duration} {lookups after : Lookups σ} {past : LookupMark → Prop}
    (accounted : Accounted ttl lookups past) {o : LookupMark} (cache : after.cache = lookups.cache)
    (reads : ∀ host now addrs, .read host now (some addrs) = o →
      ∃ moment, past (.kept host addrs moment) ∧ now < moment + ttl.nanos)
    (writes : ∀ host moment, (∀ addrs, .kept host addrs moment ≠ o) ∧ .overran host moment ≠ o) :
    Accounted ttl after fun other => past other ∨ other ∈ [o] := by
  refine ⟨cache ▸ accounted.stands, fun host entry member => ?_, fun host now addrs read => ?_,
    fun host addrs moment kept => ?_, fun host moment overran => ?_⟩
  · obtain ⟨moment, kept, due⟩ := accounted.entries host entry (cache ▸ member)
    exact ⟨moment, .inl kept, due⟩
  · have here : ∃ moment, past (.kept host addrs moment) ∧ now < moment + ttl.nanos :=
      read.elim (accounted.reads host now addrs) fun read =>
        reads host now addrs (List.mem_singleton.mp read)
    obtain ⟨moment, kept, early⟩ := here
    exact ⟨moment, .inl kept, early⟩
  · rcases kept with kept | kept
    · exact accounted.kept host addrs moment kept
    · exact absurd (List.mem_singleton.mp kept) ((writes host moment).1 addrs)
  · rcases overran with overran | overran
    · exact accounted.overran host moment overran
    · exact absurd (List.mem_singleton.mp overran) (writes host moment).2

/-- Marks of the past that a mark of the present is none of. -/
theorem past_of_ne {past : LookupMark → Prop} {o other : LookupMark} (apart : o ≠ other)
    (seen : past o ∨ o ∈ [other]) : past o :=
  seen.elim id fun here => absurd (List.mem_singleton.mp here) apart

theorem Accounted.step {ttl : Duration} {before after : Lookups σ} {marks : List LookupMark}
    {past : LookupMark → Prop} (step : LookupStep before marks after)
    (accounted : Accounted ttl before past) : Accounted ttl after fun o => past o ∨ o ∈ marks := by
  cases step with
  | read world host now =>
      refine accounted.reads_mono rfl (fun other moment addrs read => ?_) fun _ _ => by simp
      obtain ⟨rfl, rfl, fresh⟩ := LookupMark.read.inj read
      obtain ⟨entry, member, rfl, early⟩ := LookupCache.mem_of_fresh? fresh.symm
      obtain ⟨moment, kept, due⟩ := accounted.entries _ entry member
      exact ⟨moment, kept, due ▸ early⟩
  | outside world o apart =>
      refine accounted.reads_mono rfl (fun host now addrs read => ?_) fun host moment => ⟨?_, ?_⟩
      · rw [← read] at apart
        exact nomatch apart
      · rintro addrs rfl
        exact nomatch apart
      · rintro rfl
        exact nomatch apart
  | kept host addrs now moment shown =>
      rw [accounted.stands] at shown
      obtain ⟨rfl, -⟩ := expiry?_eq_some_iff.mp shown
      refine ⟨accounted.stands, fun other entry member => ?_, fun other moment found read => ?_,
        fun other found moment kept => ?_, fun other moment overran => ?_⟩
      · rcases LookupCache.mem_insert.mp member with ⟨old, -⟩ | ⟨rfl, rfl⟩
        · obtain ⟨moment, kept, due⟩ := accounted.entries other entry (LookupCache.mem_prune.mp old).1
          exact ⟨moment, .inl kept, due⟩
        · exact ⟨now, .inr (List.mem_singleton_self _), rfl⟩
      · obtain ⟨since, kept, early⟩ := accounted.reads other moment found (past_of_ne (by simp) read)
        exact ⟨since, .inl kept, early⟩
      · rcases kept with kept | kept
        · exact accounted.kept other found moment kept
        · obtain ⟨-, -, rfl⟩ := LookupMark.kept.inj (List.mem_singleton.mp kept)
          rw [shown]
          rfl
      · exact accounted.overran other moment (past_of_ne (by simp) overran)
  | overran host now late =>
      rw [accounted.stands] at late
      refine ⟨accounted.stands, fun other entry member => ?_, fun other moment found read => ?_,
        fun other found moment kept => ?_, fun other moment overran => ?_⟩
      · obtain ⟨moment, kept, due⟩ := accounted.entries other entry (LookupCache.mem_prune.mp member).1
        exact ⟨moment, .inl kept, due⟩
      · obtain ⟨since, kept, early⟩ := accounted.reads other moment found (past_of_ne (by simp) read)
        exact ⟨since, .inl kept, early⟩
      · exact accounted.kept other found moment (past_of_ne (by simp) kept)
      · rcases overran with overran | overran
        · exact accounted.overran other moment overran
        · obtain ⟨-, rfl⟩ := LookupMark.overran.inj (List.mem_singleton.mp overran)
          exact late

/-- However the steps of any number of calls fall, everything is accounted for. -/
theorem accounted_of_run (machine : Machine σ) {start : Lookups σ}
    (empty : start.cache.entries = []) (moves : List (Move LookupCall)) :
    Accounted start.cache.ttl (Weave.run (LookupCall.make machine) start moves).state
      (Weave.run (LookupCall.make machine) start moves).Left := by
  refine Weave.history_of_run _ LookupStep ⟨rfl, ?_, ?_, ?_, ?_⟩
    (LookupCall.looking_make machine) fun before marks after past step accounted =>
      accounted.step step
  · intro host entry member
    rw [empty] at member
    exact absurd member List.not_mem_nil
  · exact fun host now addrs read => read.elim
  · exact fun host addrs moment kept => kept.elim
  · exact fun host moment overran => overran.elim

/-! ## Answers -/

/-- A call on the host had a lookup that found these addresses and ended at this moment. -/
def FoundAt (thread : LookupThread σ) (host : String) (addrs : List IpAddr) (moment : Nat) : Prop :=
  thread.origin.host = host ∧
    [.looked host (.ok addrs), .stamped moment].Sublist thread.seen

/-- Where the addresses that a call comes to are from. -/
inductive Sourced (threads : List (LookupThread σ)) (ttl : Duration) (thread : LookupThread σ)
    (host : String) (addrs : List IpAddr) : Prop
  /-- Its own lookup of the host. -/
  | own (looked : .looked host (.ok addrs) ∈ thread.seen)
  /-- A lookup of the host that some call made, not too long before the cache was read. -/
  | cached {other : LookupThread σ} (member : other ∈ threads) {moment now : Nat}
      (found : FoundAt other host addrs moment)
      (read : .read host now (some addrs) ∈ thread.seen) (early : now < moment + ttl.nanos)

/-- What the addresses of a host may be: itself, when it is an address, else what a lookup of it
has found that is not over. -/
def Current (threads : List (LookupThread σ)) (ttl : Duration) (thread : LookupThread σ)
    (host : String) (addrs : List IpAddr) : Prop :=
  match IpAddr.parse? host with
  | some ip => addrs = [ip]
  | none => addrs ≠ [] ∧ Sourced threads ttl thread host addrs

section Runs

variable {machine : Machine σ} {start : Lookups σ} {moves : List (Move LookupCall)}

/-- What any call has kept, it found by looking up its host. -/
theorem found_of_left {host : String} {addrs : List IpAddr} {moment : Nat}
    (kept : (Weave.run (LookupCall.make machine) start moves).Left (.kept host addrs moment)) :
    addrs ≠ [] ∧ ∃ other ∈ (Weave.run (LookupCall.make machine) start moves).threads,
      FoundAt other host addrs moment := by
  obtain ⟨other, member, kept⟩ := kept
  have way := Weave.reaches_of_run (LookupCall.make machine) other member
  obtain ⟨outcome, course, -⟩ :=
    lookupCourse_of_make (way.yields (Strand.yields_run other.rest start))
  obtain ⟨rfl, some, looked⟩ := course.of_kept kept
  exact ⟨some, other, member, rfl, looked⟩

/-- The addresses that a call comes to are current. -/
theorem current_of_course (empty : start.cache.entries = []) {thread : LookupThread σ}
    (member : thread ∈ (Weave.run (LookupCall.make machine) start moves).threads)
    {addrs : List IpAddr} (course : LookupCourse thread.origin.host thread.seen (.ok addrs)) :
    addrs ≠ [] ∧ Current (Weave.run (LookupCall.make machine) start moves).threads
      start.cache.ttl thread thread.origin.host addrs := by
  unfold Current
  generalize left : thread.seen = seen at course
  generalize given : Except.ok addrs = outcome at course
  cases course with
  | literal parsed =>
      cases given
      rw [parsed]
      exact ⟨List.cons_ne_nil _ _, rfl⟩
  | failed named => cases given
  | overran named some => cases given
  | found named some =>
      cases given
      rw [named]
      exact ⟨some, some, .own (by rw [left]; simp)⟩
  | @cached now _ named =>
      cases given
      rw [named]
      have read : .read thread.origin.host now (some addrs) ∈ thread.seen := by rw [left]; simp
      obtain ⟨moment, kept, early⟩ :=
        (accounted_of_run machine empty moves).reads _ _ _ ⟨thread, member, read⟩
      obtain ⟨some, other, among, found⟩ := found_of_left kept
      exact ⟨some, some, .cached among found read early⟩

/-- What a call that has ended has done. -/
theorem course_of_value? {thread : LookupThread σ}
    (member : thread ∈ (Weave.run (LookupCall.make machine) start moves).threads)
    {reply : LookupReply} (value : thread.value? = some reply) :
    ∃ outcome, LookupCourse thread.origin.host thread.seen outcome ∧
      reply = thread.origin.reply outcome := by
  have way := Weave.reaches_of_run (LookupCall.make machine) thread member
  rw [Thread.rest_of_value? value] at way
  have whole := way.yields (Strand.yields_done.mpr ⟨rfl, rfl⟩)
  rw [List.append_nil] at whole
  exact lookupCourse_of_make whole

/-- What a call answers with is an answer or an error unless it has overrun the clock. -/
theorem LookupCall.returns_reply (call : LookupCall) (outcome : Except LookupFailure (List IpAddr)) :
    (call.reply outcome).returns = true ↔ outcome ≠ .error .overrun := by
  cases call with
  | fetch host => rcases outcome with (e | _) | addrs <;> simp [reply, LookupReply.returns]
  | resolve host =>
      rcases outcome with (e | _) | addrs
      · simp [reply, Machine.choose, Except.bind, LookupReply.returns]
      · simp [reply, Machine.choose, Except.bind, LookupReply.returns]
      · cases chosen : select? addrs <;>
          simp [reply, Machine.choose, Except.bind, LookupReply.returns, chosen]

/-- A call returns if and only if a clock can show when what it found expires, if it made a lookup that
found something. -/
theorem returns_iff (empty : start.cache.entries = []) {thread : LookupThread σ}
    (member : thread ∈ (Weave.run (LookupCall.make machine) start moves).threads)
    {reply : LookupReply} (value : thread.value? = some reply) :
    reply.returns = true ↔
      ∀ moment, .stamped moment ∈ thread.seen → (expiry? start.cache.ttl moment).isSome := by
  have accounted := accounted_of_run machine empty moves
  have left : ∀ o ∈ thread.seen, (Weave.run (LookupCall.make machine) start moves).Left o :=
    fun o marked => ⟨thread, member, marked⟩
  obtain ⟨outcome, course, rfl⟩ := course_of_value? member value
  rw [thread.origin.returns_reply]
  generalize thread.seen = seen at course left
  cases course with
  | literal parsed => simp
  | cached named => simp
  | failed named => simp
  | @found now moment addrs named some =>
      have shown := accounted.kept thread.origin.host addrs moment (left _ (by simp))
      simpa using shown
  | @overran now moment addrs named some =>
      have late := accounted.overran thread.origin.host moment (left _ (by simp))
      simp [late]

/-- **Answers are current.** However the steps of any number of calls on one cache fall, the
addresses a call answers with are current, and the address it chooses is chosen among current ones.
Choosing never fails: a call for one address fails only when its lookup did, or when no clock can show
the moment at which what it found expires. -/
theorem answers_current (empty : start.cache.entries = []) {thread : LookupThread σ}
    (member : thread ∈ (Weave.run (LookupCall.make machine) start moves).threads) :
    (∀ host addrs, thread.origin = .fetch host → thread.value? = some (.addresses (.ok addrs)) →
      Current (Weave.run (LookupCall.make machine) start moves).threads start.cache.ttl thread
        host addrs) ∧
    ∀ host outcome, thread.origin = .resolve host → thread.value? = some (.address outcome) →
      (∃ e, outcome = .error (.failed e) ∧ .looked host (.error e) ∈ thread.seen) ∨
      (outcome = .error .overrun ∧
        ∃ moment, .stamped moment ∈ thread.seen ∧ expiry? start.cache.ttl moment = none) ∨
        ∃ addrs ip, outcome = .ok ip ∧ Chosen addrs ip ∧
          Current (Weave.run (LookupCall.make machine) start moves).threads start.cache.ttl thread
            host addrs := by
  constructor
  · intro host addrs origin value
    obtain ⟨outcome, course, reply⟩ := course_of_value? member value
    rw [origin] at reply
    cases reply
    have current := (current_of_course empty member course).2
    rw [origin] at current
    exact current
  · intro host outcome origin value
    obtain ⟨given, course, reply⟩ := course_of_value? member value
    rw [origin] at reply
    obtain rfl := LookupReply.address.inj reply
    rcases given with (e | _) | addrs
    · refine .inl ⟨e, rfl, ?_⟩
      rw [origin] at course
      generalize thread.seen = seen at course
      cases course
      simp [LookupCall.host]
    · have returns := returns_iff empty member value
      have stays : ¬ (LookupReply.address (Machine.choose host (.error .overrun))).returns = true := by
        simp [Machine.choose, Except.bind, LookupReply.returns]
      obtain ⟨moment, late⟩ := Classical.not_forall.mp ((not_congr returns).mp stays)
      obtain ⟨stamped, late⟩ := Classical.not_imp.mp late
      exact .inr (.inl ⟨rfl, moment, stamped, Option.not_isSome_iff_eq_none.mp late⟩)
    · obtain ⟨some, current⟩ := current_of_course empty member course
      obtain ⟨ip, chosen, right⟩ := exists_chosen some
      rw [origin] at current
      refine .inr (.inr ⟨addrs, ip, ?_, right, current⟩)
      simp only [Machine.choose, Except.bind, chosen, Option.elim]

end Runs

/-- A machine whose clock moves on with every reading, and whose lookups find two addresses. -/
def sampleMachine : Machine Nat where
  now := modifyGet fun clock => (clock, clock + 1)
  lookup _ := return .ok [.v6 1, .v4 7]
  observe _ := return ()

/-- An empty cache whose entries are good for three readings of the clock. -/
def sampleLookups : Lookups Nat := ⟨0, .new ⟨3⟩⟩

/-- Two calls find nothing; one of them keeps what it looks up, and a third comes while the other
is still at it. -/
def overlapping : List (Move LookupCall) :=
  [.start (.fetch "a.test"), .start (.resolve "a.test"), .advance 0, .advance 1, .advance 1] ++
    List.replicate 5 (.advance 0) ++ [.start (.resolve "a.test"), .advance 2]

/-- The third call is answered from the cache. -/
theorem answers_current_overlapping :
    ∃ thread ∈ (Weave.run (LookupCall.make sampleMachine) sampleLookups overlapping).threads,
      thread.origin = .resolve "a.test" ∧ thread.value? = some (.address (.ok (.v4 7))) ∧
        ∃ addrs, Chosen addrs (.v4 7) ∧
          Current (Weave.run (LookupCall.make sampleMachine) sampleLookups overlapping).threads ⟨3⟩
            thread "a.test" addrs := by
  have course : ((Weave.run (LookupCall.make sampleMachine) sampleLookups overlapping).threads[2]?.bind
      fun thread => thread.value?.map fun reply => (thread.origin, reply.chosen?)) =
      some (.resolve "a.test", some (.v4 7)) := by decide +kernel
  obtain ⟨thread, there, answered⟩ := Option.bind_eq_some_iff.mp course
  obtain ⟨reply, value, same⟩ := Option.map_eq_some_iff.mp answered
  obtain ⟨origin, chosen⟩ := Prod.mk.inj same
  obtain rfl := LookupReply.of_chosen? chosen
  have member := List.mem_of_getElem? there
  refine ⟨thread, member, origin, value, ?_⟩
  rcases (answers_current rfl member).2 _ _ origin value with
    ⟨e, failed, -⟩ | ⟨overrun, -⟩ | ⟨addrs, ip, answered, chosen, current⟩
  · cases failed
  · cases overrun
  · cases answered
    exact ⟨addrs, chosen, current⟩

end Interceptor.Net

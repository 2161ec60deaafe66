/-
# Interceptor.Proofs.Net.LoneFetches — what a fetch leaves when nobody is in between

A fetch goes one of five ways. A literal address is its own answer. An entry that has not
expired when the cache is read is a hit. Otherwise the host is looked up, which fails
or finds addresses. What has expired when the lookup ends is dropped then, and what was
found takes the place of the host's entry. The same comparison with the clock decides both,
once when the cache is read and once when it is written, and the clock may
have moved on in between. The observer is told of lookups alone, when one begins and when it
ends (`Fetched`).

The fifth way is that of a lookup that has found addresses, when no clock can show the moment at
which they expire. It has told the observer and dropped what has expired by then, but keeps
nothing of what was found, not in the place of the host's entry either, and the fetch
does not return (`Fetched.overran`). A time to live is not limited, and one that is long enough
leaves no other way to a lookup that succeeds.

* `Pruned`, `Renewed`: what is in the cache after a lookup, and that each host has one entry still;
* `run_lookupAfresh`, `fetched_of_run`: a lookup, and the ways of a fetch;
* `names_of_run`: after a sequence of fetches every entry is for a host that was there before or was
  looked up with success, so an empty cache grows to no more entries than there are such hosts;
* `fetch_leaves`: one fetch, and a sequence of them;
* `found_unkept`: a host that was looked up with success, and has lost its entry.
-/
import Interceptor.Proofs.Net.FreshLookups
import Mathlib.Data.Finset.Card
import Mathlib.Data.Finset.Dedup

namespace Interceptor.Net

set_option autoImplicit false

/-! ## What is kept -/

namespace LookupCache

/-- The hosts that there are entries for. -/
def names (cache : LookupCache) : List String := cache.entries.map (·.1)

/-- Each host has one entry at most. -/
def Distinct (cache : LookupCache) : Prop := cache.names.Nodup

/-- The cache without what has expired at this moment. -/
structure Pruned (cache : LookupCache) (moment : Nat) (after : LookupCache) : Prop where
  ttl : after.ttl = cache.ttl
  entries : ∀ name entry, (name, entry) ∈ after.entries ↔
    (name, entry) ∈ cache.entries ∧ moment < entry.expiresAt
  distinct : cache.Distinct → after.Distinct

/-- The cache after a lookup of a host that ended at this moment: what has not expired by then, with what
was found in place of the host's entry. -/
structure Renewed (cache : LookupCache) (host : String) (addrs : List IpAddr) (moment : Nat)
    (after : LookupCache) : Prop where
  ttl : after.ttl = cache.ttl
  entries : ∀ name entry, (name, entry) ∈ after.entries ↔
    (name = host ∧ entry = ⟨addrs, moment + cache.ttl.nanos⟩) ∨
      (name ≠ host ∧ (name, entry) ∈ cache.entries ∧ moment < entry.expiresAt)
  distinct : cache.Distinct → after.Distinct

variable {cache after : LookupCache} {host : String} {addrs : List IpAddr} {moment : Nat}

theorem pruned_prune (cache : LookupCache) (moment : Nat) : cache.Pruned moment (cache.prune moment) where
  ttl := rfl
  entries _ _ := mem_prune
  distinct distinct := (List.filter_sublist.map _).nodup distinct

theorem Distinct.insert (distinct : cache.Distinct) (host : String) (entry : CachedLookup) :
    (cache.insert host entry).Distinct := by
  simp only [Distinct, LookupCache.names, LookupCache.insert, List.map_append, List.map_cons,
    List.map_nil]
  rw [List.nodup_append]
  refine ⟨(List.filter_sublist.map _).nodup distinct, List.nodup_singleton _, ?_⟩
  intro name member other here
  obtain ⟨⟨_, old⟩, passed, rfl⟩ := List.mem_map.mp member
  rw [List.mem_singleton.mp here]
  simpa using (List.mem_filter.mp passed).2

/-- What is inserted after pruning renews the cache. -/
theorem renewed_insert (cache : LookupCache) (host : String) (addrs : List IpAddr) (moment : Nat) :
    cache.Renewed host addrs moment
      ((cache.prune moment).insert host ⟨addrs, moment + cache.ttl.nanos⟩) where
  ttl := rfl
  entries := by
    intro name entry
    rw [mem_insert, mem_prune]
    constructor
    · rintro (⟨old, other⟩ | new)
      · exact .inr ⟨other, old⟩
      · exact .inl new
    · rintro (new | ⟨other, old⟩)
      · exact .inr new
      · exact .inl ⟨old, other⟩
  distinct distinct := ((cache.pruned_prune moment).distinct distinct).insert host _

/-- Every entry was there before. -/
theorem Pruned.names (pruned : cache.Pruned moment after) {name : String}
    (member : name ∈ after.names) : name ∈ cache.names := by
  obtain ⟨⟨_, entry⟩, there, rfl⟩ := List.mem_map.mp member
  exact List.mem_map_of_mem ((pruned.entries _ _).mp there).1

/-- Every entry is for the host or was there before. -/
theorem Renewed.names (renewed : cache.Renewed host addrs moment after) {name : String}
    (member : name ∈ after.names) : name ∈ cache.names ∨ name = host := by
  obtain ⟨⟨_, entry⟩, there, rfl⟩ := List.mem_map.mp member
  rcases (renewed.entries _ _).mp there with ⟨same, -⟩ | ⟨-, old, -⟩
  · exact .inr same
  · exact .inl (List.mem_map_of_mem old)

/-- What is fresh is what the entry of the host says, unless it has expired. -/
theorem fresh?_cases (cache : LookupCache) (host : String) (now : Nat) :
    (∃ entry, cache.entries.lookup host = some entry ∧ now < entry.expiresAt ∧
      cache.fresh? host now = some entry.addrs) ∨
    (∀ entry, cache.entries.lookup host = some entry → entry.expiresAt ≤ now) ∧
      cache.fresh? host now = none := by
  unfold fresh?
  cases there : cache.entries.lookup host with
  | none =>
      refine .inr ⟨?_, rfl⟩
      intro entry given
      exact nomatch given
  | some entry =>
      by_cases early : now < entry.expiresAt
      · refine .inl ⟨entry, rfl, early, ?_⟩
        simp only [Option.bind_some, if_pos early]
      · refine .inr ⟨?_, by simp only [Option.bind_some, if_neg early]⟩
        intro other given
        obtain rfl := Option.some.inj given
        exact Nat.le_of_not_lt early

end LookupCache

/-! ## What is told -/

/-- What the observer is told of. -/
def LookupMark.event? : LookupMark → Option LookupEvent
  | .observed event => some event
  | _ => none

/-- The host of a lookup that has found addresses. -/
def LookupEvent.found? : LookupEvent → Option String
  | .done host (.ok _) => some host
  | _ => none

/-- What the observer is told in the course of some calls. -/
def told (seen : List LookupMark) : List LookupEvent := seen.filterMap LookupMark.event?

/-- The hosts that were looked up with success. -/
def foundHosts (events : List LookupEvent) : List String := events.filterMap LookupEvent.found?

theorem told_append (seen later : List LookupMark) : told (seen ++ later) = told seen ++ told later :=
  List.filterMap_append

theorem foundHosts_append (events later : List LookupEvent) :
    foundHosts (events ++ later) = foundHosts events ++ foundHosts later := List.filterMap_append

/-! ## One fetch -/

variable {σ : Type}

/-- Looks up a host, and tells the observer before and after. -/
def Machine.inquire (machine : Machine σ) (host : String) :
    StateM σ (Except IoError (List IpAddr)) := do
  machine.observe (.started host)
  let outcome ← machine.lookupAll host
  machine.observe (.done host outcome)
  return outcome

/-- What a fetch tells the observer, what it comes to, and how it leaves the machine and the cache. -/
inductive Fetched (machine : Machine σ) (host : String) (before : Lookups σ) :
    List LookupEvent → Except LookupFailure (List IpAddr) → Lookups σ → Prop
  | literal {ip : IpAddr} (parsed : IpAddr.parse? host = some ip) :
      Fetched machine host before [] (.ok [ip]) before
  | hit {now : Nat} {world : σ} {entry : CachedLookup} (named : IpAddr.parse? host = none)
      (clock : machine.now before.world = (now, world))
      (there : before.cache.entries.lookup host = some entry) (fresh : now < entry.expiresAt) :
      Fetched machine host before [] (.ok entry.addrs) { before with world }
  | failed {now : Nat} {world after : σ} {e : IoError} (named : IpAddr.parse? host = none)
      (clock : machine.now before.world = (now, world))
      (stale : ∀ entry, before.cache.entries.lookup host = some entry → entry.expiresAt ≤ now)
      (asked : machine.inquire host world = (.error e, after)) :
      Fetched machine host before [.started host, .done host (.error e)] (.error (.failed e))
        { before with world := after }
  | found {now moment : Nat} {world later after : σ} {addrs : List IpAddr} {cache : LookupCache}
      (named : IpAddr.parse? host = none) (clock : machine.now before.world = (now, world))
      (stale : ∀ entry, before.cache.entries.lookup host = some entry → entry.expiresAt ≤ now)
      (asked : machine.inquire host world = (.ok addrs, later)) (some : addrs ≠ [])
      (completion : machine.now later = (moment, after))
      (shown : (moment + before.cache.ttl.nanos) / 1000000000 < clockSeconds)
      (renewed : before.cache.Renewed host addrs moment cache) :
      Fetched machine host before [.started host, .done host (.ok addrs)] (.ok addrs) ⟨after, cache⟩
  /-- The fetch does not return. -/
  | overran {now moment : Nat} {world later after : σ} {addrs : List IpAddr} {cache : LookupCache}
      (named : IpAddr.parse? host = none) (clock : machine.now before.world = (now, world))
      (stale : ∀ entry, before.cache.entries.lookup host = some entry → entry.expiresAt ≤ now)
      (asked : machine.inquire host world = (.ok addrs, later)) (some : addrs ≠ [])
      (completion : machine.now later = (moment, after))
      (late : clockSeconds ≤ (moment + before.cache.ttl.nanos) / 1000000000)
      (pruned : before.cache.Pruned moment cache) :
      Fetched machine host before [.started host, .done host (.ok addrs)] (.error .overrun)
        ⟨after, cache⟩

namespace Machine

variable (machine : Machine σ) (host : String) (before : Lookups σ)

theorem run_perform {α : Type} (act : StateM σ α) (mark : α → LookupMark) :
    (perform act mark).run before = ((act before.world).1, { before with world := (act before.world).2 }) :=
  rfl

theorem trace_perform {α : Type} (act : StateM σ α) (mark : α → LookupMark) :
    (perform act mark).trace before = [mark (act before.world).1] := rfl

/-- The observer is not told whether anything is kept. -/
theorem told_keep (addrs : List IpAddr) (moment : Nat) :
    told ((keep host addrs moment).trace before) = [] := by
  simp only [keep, Strand.act, Strand.trace, List.append_nil]
  split <;> rfl

/-- A lookup tells the observer of itself, and keeps what it finds under the moment at which it ends, if
that can be. -/
theorem run_lookupAfresh :
    (∃ e after, machine.inquire host before.world = (.error e, after) ∧
      (machine.lookupAfresh host).run before =
        (.error (.failed e), { before with world := after }) ∧
      told ((machine.lookupAfresh host).trace before) = [.started host, .done host (.error e)]) ∨
    ∃ addrs later moment after, machine.inquire host before.world = (.ok addrs, later) ∧
      machine.now later = (moment, after) ∧
      (machine.lookupAfresh host).run before =
        (if (before.cache.store host addrs moment).1 then .ok addrs else .error .overrun,
          ⟨after, (before.cache.store host addrs moment).2⟩) ∧
      told ((machine.lookupAfresh host).trace before) = [.started host, .done host (.ok addrs)] := by
  have asked : machine.inquire host before.world =
      let announced := (machine.observe (.started host) before.world).2
      let answer := machine.lookupAll host announced
      (answer.1, (machine.observe (.done host answer.1) answer.2).2) := rfl
  rw [asked]
  simp only [lookupAfresh, Strand.run_bind, Strand.trace_bind, run_perform, trace_perform]
  generalize machine.lookupAll host (machine.observe (.started host) before.world).2 = answer
  obtain ⟨outcome, looked⟩ := answer
  cases outcome with
  | error e => exact .inl ⟨e, _, rfl, rfl, rfl⟩
  | ok addrs =>
      refine .inr ⟨addrs, _, _, _, rfl, rfl, rfl, ?_⟩
      simp only [Strand.trace_bind, trace_perform, told_append, told_keep]
      rfl

theorem inquire_ne_nil (world : σ) : (machine.inquire host world).1 ≠ .ok [] :=
  machine.lookupAll_ne_nil host (machine.observe (.started host) world).2

/-- A fetch goes one of these ways. -/
theorem fetched_of_run : Fetched machine host before (told ((machine.fetch host).trace before))
    ((machine.fetch host).run before).1 ((machine.fetch host).run before).2 := by
  unfold fetch
  split
  · rename_i ip parsed
    exact .literal parsed
  · rename_i named
    generalize clock : machine.now before.world = reading
    obtain ⟨now, world⟩ := reading
    have consulted : (machine.consult host).run before =
        ((now, before.cache.fresh? host now), { before with world }) := by
      simp only [consult, Strand.act, Strand.run, StateT.run, clock]
    have silent : told ((machine.consult host).trace before) = [] := by
      simp only [consult, Strand.act, Strand.trace]
      rfl
    rw [Strand.run_bind, Strand.trace_bind, told_append, silent, consulted, List.nil_append]
    rcases before.cache.fresh?_cases host now with ⟨entry, there, fresh, given⟩ | ⟨stale, given⟩
    · rw [given]
      exact .hit named clock there fresh
    · rw [given]
      rcases machine.run_lookupAfresh host { before with world } with
        ⟨e, after, asked, run, events⟩ | ⟨addrs, later, moment, after, asked, completion, run, events⟩
      · simp only [run, events]
        exact .failed named clock stale asked
      · have some : addrs ≠ [] := by
          rintro rfl
          exact machine.inquire_ne_nil host world (congrArg Prod.fst asked)
        simp only [run, events]
        cases expires : expiry? before.cache.ttl moment with
        | some expiry =>
            obtain ⟨rfl, shown⟩ := expiry?_eq_some_iff.mp expires
            rw [LookupCache.store_of_some expires]
            exact .found named clock stale asked some completion shown
              (before.cache.renewed_insert host addrs moment)
        | none =>
            rw [LookupCache.store_of_none expires]
            exact .overran named clock stale asked some completion (expiry?_eq_none_iff.mp expires)
              (before.cache.pruned_prune moment)

end Machine

/-! ## One fetch after another -/

variable {machine : Machine σ}

/-- A fetch leaves each host with one entry at most, and an entry of its own only where it has looked
the host up with success. -/
theorem Fetched.names {host : String} {before after : Lookups σ} {events : List LookupEvent}
    {outcome : Except LookupFailure (List IpAddr)} (fetched : Fetched machine host before events outcome after) :
    (before.cache.Distinct → after.cache.Distinct) ∧
      ∀ name ∈ after.cache.names, name ∈ before.cache.names ∨ name ∈ foundHosts events := by
  cases fetched with
  | literal parsed => exact ⟨id, fun name old => .inl old⟩
  | hit named clock there fresh => exact ⟨id, fun name old => .inl old⟩
  | failed named clock stale asked => exact ⟨id, fun name old => .inl old⟩
  | overran named clock stale asked some completion late pruned =>
      exact ⟨pruned.distinct, fun name member => .inl (pruned.names member)⟩
  | found named clock stale asked some completion shown renewed =>
      refine ⟨renewed.distinct, ?_⟩
      intro name member
      rcases renewed.names member with old | rfl
      · exact .inl old
      · exact .inr List.mem_cons_self

theorem names_of_run (machine : Machine σ) (hosts : List String) (before : Lookups σ) :
    (before.cache.Distinct → ((hosts.mapM machine.fetch).run before).2.cache.Distinct) ∧
      ∀ name ∈ ((hosts.mapM machine.fetch).run before).2.cache.names, name ∈ before.cache.names ∨
        name ∈ foundHosts (told ((hosts.mapM machine.fetch).trace before)) := by
  induction hosts generalizing before with
  | nil => exact ⟨id, fun name old => .inl old⟩
  | cons host hosts ih =>
      rw [List.mapM_cons, Strand.run_bind, Strand.trace_bind, told_append, foundHosts_append,
        Strand.run_bind, Strand.trace_bind, told_append, foundHosts_append]
      obtain ⟨distinct, first⟩ := (machine.fetched_of_run host before).names
      obtain ⟨distinct', others⟩ := ih ((machine.fetch host).run before).2
      refine ⟨fun before => distinct' (distinct before), ?_⟩
      intro name member
      simp only [List.mem_append]
      rcases others name member with middle | late
      · exact (first name middle).imp_right .inl
      · exact .inr (.inr (.inl late))

/-- **What fetches leave.** A fetch with nobody in between goes one of the five ways, so a lookup that
succeeds is kept in place of the host's entry if and only if a clock can show when it expires. And after
any sequence of fetches through a new cache, there are no more entries than hosts that were looked
up with success. -/
theorem fetch_leaves (machine : Machine σ) :
    (∀ (cache : LookupCache) (host : String) (world : σ),
      Fetched machine host ⟨world, cache⟩ (told ((machine.fetch host).trace ⟨world, cache⟩))
        (cache.fetch machine host world).1.1
        ⟨(cache.fetch machine host world).2, (cache.fetch machine host world).1.2⟩) ∧
    ∀ (ttl : Duration) (hosts : List String) (world : σ),
      ((hosts.mapM machine.fetch).run ⟨world, .new ttl⟩).2.cache.size ≤
        (foundHosts (told ((hosts.mapM machine.fetch).trace ⟨world, .new ttl⟩))).toFinset.card := by
  constructor
  · intro cache host world
    exact machine.fetched_of_run host ⟨world, cache⟩
  · intro ttl hosts world
    obtain ⟨distinct, names⟩ := names_of_run machine hosts ⟨world, .new ttl⟩
    generalize ((hosts.mapM machine.fetch).run ⟨world, .new ttl⟩).2.cache = cache at distinct names ⊢
    have once : cache.names.Nodup := distinct List.nodup_nil
    calc cache.size = cache.names.length := (List.length_map _).symm
      _ = cache.names.toFinset.card := (List.toFinset_card_of_nodup once).symm
      _ ≤ _ := by
        apply Finset.card_le_card
        intro name member
        have found := (names name (List.mem_toFinset.mp member)).resolve_left List.not_mem_nil
        exact List.mem_toFinset.mpr found

/-- A cache that keeps names for the longest time that can be configured, with an entry that has expired
and one that has not. -/
def longKept : LookupCache where
  ttl := .ofSecs 18446744073709551615
  entries := [("a.test", ⟨[.v4 9], 0⟩), ("b.test", ⟨[.v4 8], 1000⟩)]

/-- A lookup succeeds there, and its host has no entry afterwards, neither the old one nor one with what was
found. -/
theorem found_unkept :
    told ((sampleMachine.fetch "a.test").trace ⟨0, longKept⟩) =
      [.started "a.test", .done "a.test" (.ok [.v6 1, .v4 7])] ∧
    (longKept.fetch sampleMachine "a.test" 0).1.2.entries = [("b.test", ⟨[.v4 8], 1000⟩)] := by
  constructor
  · rfl
  · rfl

end Interceptor.Net

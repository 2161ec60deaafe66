/-
# Interceptor.Proofs.Certificate.OnceIssued — no host has a second leaf made for it

A host is among the names it is looked for under and among the keys of its own
leaf, and no name that has a leaf is ever without one again. So a host that was
served once is found whenever it is asked for later, whatever was kept in
between, and each leaf that is made is the first for its host.

* `holds_of_ok`: after a call that was served, its host is held;
* `holds_after`: what is held stays so;
* `issued_le`: the hosts asked for that were not held bound the number of leaves;
* `issued_once`: all of this for a run of calls.
-/
import Interceptor.Proofs.Certificate.LeafCalls
import Mathlib.Data.Finset.Card

namespace Interceptor.Certificate

set_option autoImplicit false

open Text Net HostPort

namespace CertificateAuthority

variable {a : CertificateAuthority}

/-- There is a leaf under one of the names that a host is looked for under. -/
def Holds (a : CertificateAuthority) (host : String) : Prop :=
  ∃ name ∈ lookupCandidates host, (a.cached? name).isSome

theorem exists_found_of_holds {host : String} (holds : a.Holds host) :
    ∃ leaf, a.find? (lookupCandidates host) = some leaf :=
  Option.isSome_iff_exists.mp (List.findSome?_isSome_iff.mpr holds)

theorem holds_of_found {host : String} {leaf : Leaf}
    (there : a.find? (lookupCandidates host) = some leaf) : a.Holds host :=
  List.findSome?_isSome_iff.mp (Option.isSome_of_eq_some there)

theorem Holds.answer {host : String} (holds : a.Holds host) (caching : a.cache.isSome)
    (call : LeafCall) : (call.answer a).2.Holds host := by
  obtain ⟨name, candidate, there⟩ := holds
  exact ⟨name, candidate, call.cached?_answer caching there⟩

theorem Holds.after {host : String} (holds : a.Holds host) (caching : a.cache.isSome)
    (calls : List LeafCall) : (a.after calls).Holds host := by
  obtain ⟨name, candidate, there⟩ := holds
  exact ⟨name, candidate, cached?_after caching calls there⟩

/-- Making a leaf makes its host held. -/
theorem holds_adding {leaf : Leaf} {host : String} (caching : a.cache.isSome)
    (made : leaf.MadeFor host) : (a.adding leaf (leaf.names.cacheKeys host)).Holds host := by
  have own : host ∈ leaf.names.cacheKeys host := by
    rw [made.names]
    exact SubjectNames.mem_own_keys host
  refine ⟨host, List.mem_cons_self, ?_⟩
  rw [cached?_adding caching, if_pos own]
  rfl

end CertificateAuthority

namespace LeafCall

variable {a : CertificateAuthority} {call : LeafCall}

/-- A host that is held is served, and nothing changes. -/
theorem answer_of_holds (holds : a.Holds call.bare) : ∃ leaf, call.answer a = (.ok leaf, a) := by
  obtain ⟨leaf, there⟩ := CertificateAuthority.exists_found_of_holds holds
  exact ⟨leaf, answer_of_found there⟩

/-- A host that was served is held. -/
theorem holds_of_ok (caching : a.cache.isSome) (stripped : stripPort call.bare = call.bare)
    {leaf : Leaf} (served : (call.answer a).1 = .ok leaf) : (call.answer a).2.Holds call.bare := by
  generalize given : call.answer a = outcome at served ⊢
  cases answer_cases given with
  | found leaf there => exact CertificateAuthority.holds_of_found there
  | failed e missing => exact nomatch served
  | issued leaf missing made =>
      rw [stripped] at made
      exact CertificateAuthority.holds_adding caching made

/-- Every leaf that is made is for another host of those that were not held. -/
theorem issued_le (caching : a.cache.isSome) {calls : List LeafCall}
    (stripped : ∀ call ∈ calls, stripPort call.bare = call.bare) (hosts : Finset String)
    (wanted : ∀ call ∈ calls, a.Holds call.bare ∨ call.bare ∈ hosts) :
    (a.after calls).issued ≤ a.issued + hosts.card := by
  induction calls generalizing a hosts with
  | nil => exact Nat.le_add_right ..
  | cons call calls ih =>
      obtain ⟨bare, stripped⟩ := List.forall_mem_cons.mp stripped
      obtain ⟨first, others⟩ := List.forall_mem_cons.mp wanted
      show ((call.answer a).2.after calls).issued ≤ _
      have caching' := call.cache_answer caching
      have kept : ∀ other ∈ calls, (call.answer a).2.Holds other.bare ∨ other.bare ∈ hosts :=
        fun other member => (others other member).imp (·.answer caching call) id
      generalize given : call.answer a = outcome at caching' kept ⊢
      cases answer_cases given with
      | found leaf there => exact ih caching' stripped hosts kept
      | failed e missing => exact ih caching' stripped hosts kept
      | issued leaf missing made =>
          rw [bare] at made
          have held := CertificateAuthority.holds_adding caching made
          have fresh : call.bare ∈ hosts := first.resolve_left fun holds => by
            obtain ⟨leaf, there⟩ := CertificateAuthority.exists_found_of_holds holds
            exact nomatch there.symm.trans missing
          -- its host is not wanted any more
          have rest := ih caching' stripped (hosts.erase call.bare) fun other member => by
            by_cases same : other.bare = call.bare
            · exact .inl (same ▸ held)
            · exact (kept other member).imp_right fun wanted => Finset.mem_erase.mpr ⟨same, wanted⟩
          have one := Finset.card_erase_add_one fresh
          rw [CertificateAuthority.issued_adding] at rest
          omega

/-- **A host has no second leaf made for it.** Once a call for a host was served, every later call for
it is served too and changes nothing, whatever was asked for in between; no more leaves are made than
there are hosts asked for; and a call that fails changes nothing. -/
theorem issued_once (caching : a.cache.isSome) (calls : List LeafCall)
    (stripped : ∀ call ∈ calls, stripPort call.bare = call.bare) :
    (∀ before first between again later,
      calls = before ++ first :: between ++ again :: later → first.bare = again.bare →
      (∃ leaf, (first.answer (a.after before)).1 = .ok leaf) →
      let now := a.after (before ++ first :: between)
      ∃ leaf, again.answer now = (.ok leaf, now)) ∧
    (a.after calls).issued ≤ a.issued + (calls.map bare).toFinset.card ∧
    ∀ before call later, calls = before ++ call :: later →
      ∀ e, (call.answer (a.after before)).1 = .error e →
        (call.answer (a.after before)).2 = a.after before := by
  refine ⟨?_, ?_, ?_⟩
  · rintro before first between again later rfl same ⟨leaf, served⟩ now
    have caching' := CertificateAuthority.cache_after caching before
    have held := holds_of_ok caching' (stripped first (by simp)) served
    have still := held.after (first.cache_answer caching') between
    rw [same] at still
    apply answer_of_holds
    show (a.after (before ++ first :: between)).Holds again.bare
    rw [CertificateAuthority.after_append]
    exact still
  · exact issued_le caching stripped _ fun call member =>
      .inr (List.mem_toFinset.mpr (List.mem_map_of_mem member))
  · rintro before call later - e failed
    exact answer_of_error failed

/-- A host that is asked for again, with a port, after one beneath it has taken its place. -/
def askedAgain : List LeafCall :=
  [⟨"example.com", 0, sampleKey⟩, ⟨"a.b.example.com", 0, sampleKey⟩,
    ⟨"example.com:443", 0, sampleKey⟩]

theorem issued_once_askedAgain :
    let now := sampleAuthority.after (askedAgain.take 2)
    (∃ leaf, (⟨"example.com:443", 0, sampleKey⟩ : LeafCall).answer now = (.ok leaf, now)) ∧
      (sampleAuthority.after askedAgain).issued ≤ 2 := by
  have stripped : ∀ call ∈ askedAgain, stripPort call.bare = call.bare := by decide +kernel
  obtain ⟨again, count, -⟩ := issued_once (a := sampleAuthority) rfl askedAgain stripped
  have hosts : (askedAgain.map bare).toFinset.card = 2 := by decide +kernel
  rw [hosts] at count
  have served : ((askedAgain.head (by decide)).answer sampleAuthority).1.toOption.any
      fun _ => true := by decide +kernel
  obtain ⟨leaf, given, -⟩ := exists_of_any served
  exact ⟨again [] _ _ _ [] rfl (by decide +kernel) ⟨leaf, given⟩, count⟩

end LeafCall

end Interceptor.Certificate

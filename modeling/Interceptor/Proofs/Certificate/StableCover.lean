/-
# Interceptor.Proofs.Certificate.StableCover — a host that is covered stays covered

Once a call for a host was served with a leaf that covers it, whoever asks for the
host again finds a leaf that covers it (`Assures`). Calls that find a leaf, or fail,
change nothing. A call that has a leaf made keeps it under all of its keys; if one of
them is where the host is found, the new leaf covers the host too, unless it
displaces it (`Displaced`).

* `Assures.adding_iff`: a host is still covered when a leaf was made and kept, if and only if
  that leaf does not displace it;
* `not_displaced`: nothing displaces a name of three labels or more;
* `assures_of_covered`: a call that was served with a leaf that covers its host;
* `stays_covered`: so it is for a run of calls;
* `cover_lost_beneath`: a host that is displaced may lose its cover.
-/
import Interceptor.Proofs.Certificate.Displacement
import Interceptor.Proofs.Certificate.LeafCalls

namespace Interceptor

set_option autoImplicit false

open Text Net Certificate HostPort

/-- A client that asks for `host` accepts the certificate. -/
def Certificate.Covers (certificate : Certificate) (host : String) : Prop :=
  (∃ ip ∈ IpAddr.parse? host, AltName.ip ip ∈ certificate.altNames) ∨
    IpAddr.parse? host = none ∧ (AltName.dns host ∈ certificate.altNames ∨
      ∃ parent ∈ parent? host, AltName.dns ("*." ++ parent) ∈ certificate.altNames)

instance (certificate : Certificate) (host : String) : Decidable (certificate.Covers host) :=
  inferInstanceAs (Decidable (_ ∨ _))

theorem Certificate.Covers.address {certificate : Certificate} {host : String} {ip : IpAddr}
    (covers : certificate.Covers host) (literal : IpAddr.parse? host = some ip) :
    AltName.ip ip ∈ certificate.altNames := by
  rcases covers with ⟨other, same, member⟩ | ⟨named, -⟩
  · rw [← Option.some.inj (same.symm.trans literal)]
    exact member
  · exact nomatch literal.symm.trans named

namespace Certificate

/-! ## One call -/

open SubjectNames

variable {host asked : String} {leaf : Leaf}

namespace Leaf.MadeFor

/-- A certificate covers what the names on it cover. -/
theorem covers_iff (made : leaf.MadeFor asked) :
    leaf.certificate.Covers host ↔ (forHost asked).Covers host := by
  unfold Certificate.Covers SubjectNames.Covers
  rw [made.altNames, made.names]
  cases IpAddr.parse? host with
  | some ip => simp
  | none => simp

theorem parse?_of_mem (made : leaf.MadeFor asked) {ip : IpAddr}
    (member : AltName.ip ip ∈ leaf.certificate.altNames) : IpAddr.parse? asked = some ip := by
  rw [made.altNames, made.names] at member
  cases literal : IpAddr.parse? asked with
  | some other =>
      simp only [forHost_of_ip literal, Option.map_some, Option.toList_some, List.map_nil,
        List.append_nil, List.mem_singleton, AltName.ip.injEq] at member
      rw [member]
  | none => simp [forHost_of_name literal] at member

end Leaf.MadeFor

namespace CertificateAuthority

variable {a : CertificateAuthority}

/-- A leaf with an address on it is kept under texts of that address alone. -/
def AddressesApart (a : CertificateAuthority) : Prop :=
  ∀ name leaf ip, a.cached? name = some leaf → AltName.ip ip ∈ leaf.certificate.altNames →
    IpAddr.parse? (stripPort name) = some ip

/-- Whoever asks for the host finds a leaf that covers it. -/
def Assures (a : CertificateAuthority) (host : String) : Prop :=
  ∃ leaf, a.find? (lookupCandidates host) = some leaf ∧ leaf.certificate.Covers host

/-- A leaf is found under the host, or else under its parent. -/
theorem find?_candidates_iff : a.find? (lookupCandidates host) = some leaf ↔
    a.cached? host = some leaf ∨ a.cached? host = none ∧
      ∃ parent, parent? host = some parent ∧ parent ≠ "" ∧ a.cached? parent = some leaf := by
  rw [find?, lookupCandidates, List.findSome?_cons]
  cases a.cached? host with
  | some own => simp
  | none => cases above : parent? host with
    | none => simp
    | some parent => by_cases empty : parent = "" <;> simp [Option.filter, empty]

theorem cached?_of_missing (missing : a.find? (lookupCandidates host) = none) :
    a.cached? host = none := by
  cases own : a.cached? host with
  | none => rfl
  | some leaf =>
      have there := find?_candidates_iff.mpr (.inl own)
      exact nomatch missing.symm.trans there

theorem AddressesApart.adding (apart : a.AddressesApart) (caching : a.cache.isSome)
    (made : leaf.MadeFor (stripPort asked)) :
    (a.adding leaf (leaf.names.cacheKeys asked)).AddressesApart := by
  intro name found ip there member
  rw [cached?_adding caching] at there
  split at there
  · rename_i key
    cases there
    have literal := made.parse?_of_mem member
    rw [made.names, mem_cacheKeys_of_ip literal] at key
    rw [key]
    exact literal
  · exact apart name found ip there member

/-- A leaf made for `other` takes the place of the one that `host` is found with, and does not
cover the host. -/
structure Displaced (a : CertificateAuthority) (host other : String) : Prop where
  named : IpAddr.parse? other = none
  /-- What stands under the parent matters only if nothing stands under the host itself. -/
  way : Displaces host other ∨ a.cached? host = none ∧ DisplacesAbove host other

/-- A name of more than two labels is never displaced. -/
theorem not_displaced {other : String} (named : IpAddr.parse? host = none)
    (long : 3 ≤ (labels host.toList).length) : ¬ a.Displaced host other := by
  rintro ⟨-, (⟨⟨address, -⟩ | two, -, -⟩ | ⟨single, -⟩) | ⟨-, two, -⟩⟩
  · rw [named] at address
    exact nomatch address
  all_goals omega

/-- A leaf that is made for another host leaves a host covered, unless it displaces it. -/
theorem Assures.adding (assures : a.Assures host) (apart : a.AddressesApart)
    (caching : a.cache.isSome) (missing : a.find? (lookupCandidates asked) = none)
    (made : leaf.MadeFor (stripPort asked)) (free : ¬ a.Displaced host (stripPort asked)) :
    (a.adding leaf (leaf.names.cacheKeys asked)).Assures host := by
  obtain ⟨old, there, covers⟩ := assures
  have absent := cached?_of_missing missing
  have other : asked ≠ host := by
    rintro rfl
    exact nomatch there.symm.trans missing
  have keys (name : String) := cached?_adding caching leaf (leaf.names.cacheKeys asked) name
  -- under an address, only the name that was asked for is taken
  have texts {name : String} (key : name ∈ leaf.names.cacheKeys asked) (apart : asked ≠ name) :
      IpAddr.parse? (stripPort asked) = none := by
    cases literal : IpAddr.parse? (stripPort asked) with
    | none => rfl
    | some ip =>
        rw [made.names] at key
        exact absurd ((mem_cacheKeys_of_ip literal).mp key).symm apart
  by_cases own : host ∈ leaf.names.cacheKeys asked
  · refine ⟨leaf, find?_candidates_iff.mpr (.inl ?_), ?_⟩
    · rw [keys, if_pos own]
    · have literal := texts own other
      rw [made.names] at own
      exact made.covers_iff.mpr
        (covers_of_own_key own other fun displaces => free ⟨literal, .inl displaces⟩)
  · rcases find?_candidates_iff.mp there with found | ⟨gone, parent, above, some, found⟩
    · refine ⟨old, find?_candidates_iff.mpr (.inl ?_), covers⟩
      rw [keys, if_neg own, found]
    · -- the host is found under its parent, so it is no address
      have named : IpAddr.parse? host = none := by
        cases literal : IpAddr.parse? host with
        | none => rfl
        | some ip =>
            have address := apart parent old ip found (covers.address literal)
            exact nomatch address.symm.trans (parse?_parent literal above)
      have still : (a.adding leaf (leaf.names.cacheKeys asked)).cached? host = none := by
        rw [keys, if_neg own, gone]
      by_cases key : parent ∈ leaf.names.cacheKeys asked
      · refine ⟨leaf, find?_candidates_iff.mpr (.inr ⟨still, parent, above, some, ?_⟩), ?_⟩
        · rw [keys, if_pos key]
        · have different : asked ≠ parent := by
            rintro rfl
            exact nomatch found.symm.trans absent
          have literal := texts key different
          rw [made.names] at key
          exact made.covers_iff.mpr (covers_of_parent_key named above key different
            fun displaces => free ⟨literal, .inr ⟨gone, displaces⟩⟩)
      · refine ⟨old, find?_candidates_iff.mpr (.inr ⟨still, parent, above, some, ?_⟩), covers⟩
        rw [keys, if_neg key, found]

/-- A leaf that displaces a host is what the host is found with, and does not cover it. -/
theorem Displaced.loses (displaced : a.Displaced host (stripPort asked)) (assures : a.Assures host)
    (caching : a.cache.isSome) (made : leaf.MadeFor (stripPort asked)) :
    ¬ (a.adding leaf (leaf.names.cacheKeys asked)).Assures host := by
  have keys (name : String) := cached?_adding caching leaf (leaf.names.cacheKeys asked) name
  have uncovered : ¬ (forHost (stripPort asked)).Covers host :=
    displaced.way.elim (fun own => own.uncovers displaced.named)
      fun ⟨_, above⟩ => above.uncovers displaced.named
  have found : (a.adding leaf (leaf.names.cacheKeys asked)).find? (lookupCandidates host) =
      some leaf := by
    rw [find?_candidates_iff]
    by_cases own : host ∈ leaf.names.cacheKeys asked
    · left
      rw [keys, if_pos own]
    · rcases displaced.way with displaces | ⟨gone, displaces⟩
      · rw [made.names] at own
        exact absurd (displaces.takes displaced.named) own
      · -- the host was found under its parent, and the parent's name is taken
        obtain ⟨old, there, -⟩ := assures
        obtain found | ⟨-, parent, above, some, -⟩ := find?_candidates_iff.mp there
        · exact nomatch gone.symm.trans found
        · obtain rfl := Option.some.inj (above.symm.trans displaces.above)
          have key : stripPort asked ∈ leaf.names.cacheKeys asked := by
            rw [made.names]
            exact displaces.takes displaced.named
          refine .inr ⟨?_, _, above, some, ?_⟩
          · rw [keys, if_neg own, gone]
          · rw [keys, if_pos key]
  rintro ⟨other, there, covers⟩
  obtain rfl := Option.some.inj (there.symm.trans found)
  exact uncovered (made.covers_iff.mp covers)

/-- A host is still covered when a leaf was made for another one, if and only if it is not displaced. -/
theorem Assures.adding_iff (assures : a.Assures host) (apart : a.AddressesApart)
    (caching : a.cache.isSome) (missing : a.find? (lookupCandidates asked) = none)
    (made : leaf.MadeFor (stripPort asked)) :
    (a.adding leaf (leaf.names.cacheKeys asked)).Assures host ↔
      ¬ a.Displaced host (stripPort asked) :=
  ⟨fun still displaced => displaced.loses assures caching made still,
    assures.adding apart caching missing made⟩

end CertificateAuthority

namespace LeafCall

variable {a : CertificateAuthority} {call : LeafCall}

/-- A call has a leaf made. -/
def Issues (call : LeafCall) (a : CertificateAuthority) (leaf : Leaf) : Prop :=
  (call.answer a).1 = .ok leaf ∧ (call.answer a).2.issued = a.issued + 1

theorem addressesApart_answer (apart : a.AddressesApart) (caching : a.cache.isSome)
    (call : LeafCall) : (call.answer a).2.AddressesApart :=
  answer_keeps apart fun _ made => apart.adding caching made

theorem assures_answer (assures : a.Assures host) (apart : a.AddressesApart)
    (caching : a.cache.isSome) (free : ∀ leaf, call.Issues a leaf → ¬ a.Displaced host leaf.host) :
    (call.answer a).2.Assures host := by
  unfold Issues at free
  generalize given : call.answer a = outcome at free ⊢
  cases answer_cases given with
  | found leaf there => exact assures
  | failed e missing => exact assures
  | issued leaf missing made =>
      have undisplaced := free leaf ⟨rfl, CertificateAuthority.issued_adding ..⟩
      rw [made.host] at undisplaced
      exact (assures.adding_iff apart caching missing made).mpr undisplaced

/-- A host that was served a leaf that covers it goes on finding one. -/
theorem assures_of_covered (caching : a.cache.isSome) (served : (call.answer a).1 = .ok leaf)
    (covers : leaf.certificate.Covers call.bare) : (call.answer a).2.Assures call.bare := by
  generalize given : call.answer a = outcome at served ⊢
  cases answer_cases given with
  | found other there =>
      cases served
      exact ⟨leaf, there, covers⟩
  | failed e missing => exact nomatch served
  | issued other missing made =>
      cases served
      have own : call.bare ∈ leaf.names.cacheKeys call.bare := by
        rw [made.names]
        cases named : IpAddr.parse? call.bare with
        | some ip =>
            have literal := made.parse?_of_mem (covers.address named)
            exact (mem_cacheKeys_of_ip literal).mpr rfl
        | none =>
            rw [stripPort_of_covers named (made.covers_iff.mp covers)]
            exact mem_own_keys call.bare
      refine ⟨leaf, CertificateAuthority.find?_candidates_iff.mpr (.inl ?_), covers⟩
      exact (CertificateAuthority.cached?_adding caching ..).trans (if_pos own)

end LeafCall

/-! ## Any number of calls -/

namespace CertificateAuthority

variable {a : CertificateAuthority}

theorem AddressesApart.after (apart : a.AddressesApart) (caching : a.cache.isSome)
    (calls : List LeafCall) : (a.after calls).AddressesApart :=
  (after_keeps caching apart (fun _ call caching apart => call.addressesApart_answer apart caching)
    calls).2

theorem Assures.after (assures : a.Assures host) (apart : a.AddressesApart)
    (caching : a.cache.isSome) (calls : List LeafCall)
    (free : ∀ early call late leaf, calls = early ++ call :: late →
      call.Issues (a.after early) leaf → ¬ (a.after early).Displaced host leaf.host) :
    (a.after calls).Assures host := by
  induction calls generalizing a with
  | nil => exact assures
  | cons call calls ih =>
      have first := call.assures_answer assures apart caching fun leaf => free [] call calls leaf rfl
      refine ih first (call.addressesApart_answer apart caching) (call.cache_answer caching) ?_
      rintro early later late leaf rfl issues
      exact free (call :: early) later late leaf rfl issues

end CertificateAuthority

namespace LeafCall

/-- **A host stays covered unless it is displaced.** Once a call for a host was served with a leaf
that covers it, every later call for it is served with one that does, whatever was asked for in
between, as long as no leaf was made there that displaces the host. -/
theorem stays_covered {a : CertificateAuthority} (empty : a.cache = some .empty)
    (before between : List LeafCall) {first again : LeafCall} (same : again.bare = first.bare)
    {leaf : Leaf} (served : (first.answer (a.after before)).1 = .ok leaf)
    (covers : leaf.certificate.Covers first.bare)
    (free : ∀ early call late made, between = early ++ call :: late →
      call.Issues (a.after (before ++ first :: early)) made →
        ¬ (a.after (before ++ first :: early)).Displaced first.bare made.host) :
    ∃ later, (again.answer (a.after (before ++ first :: between))).1 = .ok later ∧
      later.certificate.Covers first.bare := by
  have caching : a.cache.isSome := Option.isSome_of_eq_some empty
  have apart : a.AddressesApart := by
    intro name found ip there
    simp [CertificateAuthority.cached?, empty, LeafCache.get?, LeafCache.empty] at there
  have still := CertificateAuthority.cache_after caching before
  have assured := first.assures_of_covered still served covers
  have kept := assured.after (first.addressesApart_answer (apart.after caching before) still)
    (first.cache_answer still) between fun early call late made cut issues => by
      have free := free early call late made cut
      rw [CertificateAuthority.after_append] at free
      exact free issues
  obtain ⟨later, there, covered⟩ := kept
  rw [← same] at there
  refine ⟨later, ?_, covered⟩
  rw [CertificateAuthority.after_append]
  exact congrArg Prod.fst (answer_of_found there)

/-- A name of four labels goes on being covered by the leaf of a host beneath it. -/
theorem stays_covered_beneath :
    ∃ later, (LeafCall.answer ⟨"a.b.example.com:443", 0, sampleKey⟩ (sampleAuthority.after
        [⟨"a.b.example.com", 0, sampleKey⟩, ⟨"y.x.a.b.example.com", 0, sampleKey⟩])).1 = .ok later ∧
      later.certificate.Covers "a.b.example.com" := by
  have plain : bare ⟨"a.b.example.com", 0, sampleKey⟩ = "a.b.example.com" := by decide +kernel
  have served : (LeafCall.answer ⟨"a.b.example.com", 0, sampleKey⟩ sampleAuthority).1.toOption.any
      fun leaf => leaf.certificate.Covers "a.b.example.com" := by decide +kernel
  obtain ⟨first, given, covers⟩ := exists_of_any served
  rw [← plain] at covers ⊢
  refine stays_covered (a := sampleAuthority) rfl [] [⟨"y.x.a.b.example.com", 0, sampleKey⟩]
    (by decide +kernel) given (of_decide_eq_true covers) ?_
  intro early call late made cut issues
  rw [plain]
  exact CertificateAuthority.not_displaced (by decide +kernel) (by decide +kernel)

/-- A name of two labels loses its cover to the leaf of a host beneath it. -/
theorem cover_lost_beneath :
    ∃ first again : Leaf,
      (LeafCall.answer ⟨"example.com", 0, sampleKey⟩ sampleAuthority).1 = .ok first ∧
      first.certificate.Covers "example.com" ∧
      (LeafCall.answer ⟨"example.com", 0, sampleKey⟩ (sampleAuthority.after
        [⟨"example.com", 0, sampleKey⟩, ⟨"a.b.example.com", 0, sampleKey⟩])).1 = .ok again ∧
      ¬ again.certificate.Covers "example.com" := by
  have covered : (LeafCall.answer ⟨"example.com", 0, sampleKey⟩ sampleAuthority).1.toOption.any
      fun leaf => leaf.certificate.Covers "example.com" := by decide +kernel
  have lost : (LeafCall.answer ⟨"example.com", 0, sampleKey⟩ (sampleAuthority.after
      [⟨"example.com", 0, sampleKey⟩, ⟨"a.b.example.com", 0, sampleKey⟩])).1.toOption.any
      fun leaf => !leaf.certificate.Covers "example.com" := by decide +kernel
  obtain ⟨first, given, covers⟩ := exists_of_any covered
  obtain ⟨again, later, uncovered⟩ := exists_of_any lost
  exact ⟨first, again, given, of_decide_eq_true covers, later, by simpa using uncovered⟩

end LeafCall

end Certificate

end Interceptor

/-
# Interceptor.Proofs.Certificate.ParentLeaf — a leaf that is found under a host's parent

A host that has no leaf of its own is served with the one under its parent, on the
belief that a sibling left a wildcard there. What is kept under a name can be told from
where it came from: every leaf in the cache was made for some host and stands under
one of that host's keys (`Traced`). So three kinds of leaf are found under a parent, and
only the first is a wildcard: one made for a name of two labels or more, one made for
a name of a single label, and one made for an address, whose text is then the parent.
An address has a parent too, and no leaf that is found there is for the address.

* `Traced.adding`, `traced_after`: the invariant, for one leaf and for a run of calls;
* `covers_parent_key_iff`, `covers_iff_beneath`: which leaves cover what is beneath a name they are
  kept under;
* `covered_beneath_iff`: so, a leaf from the parent covers its host if and only if the host
  is a name, and the leaf was made for a name of at least two labels;
* `uncovered_beneath`: the leaf of a single label, and an address that is served with the
  wildcard of a name.
-/
import Interceptor.Proofs.Certificate.StableCover

namespace Interceptor

set_option autoImplicit false

open Text Net Certificate HostPort

/-- The certificate has what a host needs if it is served in the name of its parent: the wildcard on
the parent, or the address if the host is one. -/
def Certificate.CoversBeneath (certificate : Certificate) (host parent : String) : Prop :=
  (∃ ip ∈ IpAddr.parse? host, AltName.ip ip ∈ certificate.altNames) ∨
    IpAddr.parse? host = none ∧ AltName.dns ("*." ++ parent) ∈ certificate.altNames

instance (certificate : Certificate) (host parent : String) :
    Decidable (certificate.CoversBeneath host parent) :=
  inferInstanceAs (Decidable (_ ∨ _))

namespace Certificate

open SubjectNames

variable {host asked parent : String} {leaf : Leaf}

/-! ## What a leaf says of a name it is kept under -/

namespace Leaf.MadeFor

theorem dns_mem_iff (made : leaf.MadeFor asked) {name : String} :
    AltName.dns name ∈ leaf.certificate.altNames ↔ name ∈ (forHost asked).dns := by
  rw [made.altNames, made.names]
  simp

/-- A leaf for an address has no name on it. -/
theorem dns_not_mem (made : leaf.MadeFor asked) {ip : IpAddr}
    (literal : IpAddr.parse? asked = some ip) (name : String) :
    AltName.dns name ∉ leaf.certificate.altNames := by
  rw [made.dns_mem_iff, forHost_of_ip literal]
  exact List.not_mem_nil

end Leaf.MadeFor

/-- A name that the leaf of another name is kept under has its wildcard there, unless the leaf is for a
single label. -/
theorem wildcard_mem_of_key_iff (named : IpAddr.parse? host = none)
    (key : parent ∈ (forHost host).cacheKeys asked) :
    "*." ++ parent ∈ (forHost host).dns ↔ 2 ≤ (labels host.toList).length := by
  constructor
  · intro wild
    rcases labels_of_mem_dns named wild with long | ⟨-, own⟩
    · rcases (mem_dns named).mp wild with ⟨suffix, suffixed, two, -⟩ | ⟨-, own⟩
      · exact Nat.le_trans two suffixed.length_le
      · rw [← own]
        exact Nat.le_of_succ_le long
    · rw [← own, labels_wildcard, List.length_cons]
      exact Nat.succ_le_succ (labels_length_pos parent)
  · intro two
    have spread (under : labels parent.toList <:+ labels host.toList)
        (long : 2 ≤ (labels parent.toList).length) : "*." ++ parent ∈ (forHost host).dns :=
      (mem_dns named).mpr (.inl ⟨_, under, long, (wildcard_labels parent).symm⟩)
    rcases (mem_cacheKeys_of_name named).mp key with ⟨under, long⟩ | ⟨short, bare⟩
    · exact spread under long
    · rcases withoutWildcard_cases host with plain | marked
      · rw [plain] at bare
        exact spread (bare ▸ List.suffix_rfl) (bare ▸ two)
      · -- the host is the wildcard itself
        rw [← bare] at marked
        exact (mem_dns named).mpr (.inr ⟨short, marked.symm⟩)

/-- The leaf of a single label has that label alone on it. -/
theorem eq_of_mem_dns_single (named : IpAddr.parse? host = none)
    (single : (labels host.toList).length ≤ 1) {name : String}
    (member : name ∈ (forHost host).dns) : name = host := by
  rcases (mem_dns named).mp member with ⟨suffix, suffixed, long, -⟩ | ⟨-, own⟩
  · have := suffixed.length_le
    omega
  · exact own

/-- Which leaves cover what is beneath a name they are kept under: those of names of at least two
labels, and nothing but names. -/
theorem covers_parent_key_iff (made : leaf.MadeFor (stripPort asked))
    (key : parent ∈ leaf.names.cacheKeys asked) (above : parent? host = some parent) :
    leaf.certificate.CoversBeneath host parent ↔ IpAddr.parse? host = none ∧
      IpAddr.parse? leaf.host = none ∧ 2 ≤ (labels leaf.host.toList).length := by
  rw [made.names] at key
  rw [made.host]
  cases address : IpAddr.parse? host with
  | some ip =>
      -- a leaf with this address on it is kept under a text of the address, and the parent is none
      have absent : AltName.ip ip ∉ leaf.certificate.altNames := by
        intro member
        have literal := made.parse?_of_mem member
        obtain rfl := (mem_cacheKeys_of_ip literal).mp key
        exact nomatch literal.symm.trans (parse?_parent address above)
      simp [CoversBeneath, address, absent]
  | none =>
      have beneath : leaf.certificate.CoversBeneath host parent ↔
          AltName.dns ("*." ++ parent) ∈ leaf.certificate.altNames := by
        simp [CoversBeneath, address]
      rw [beneath]
      cases literal : IpAddr.parse? (stripPort asked) with
      | some ip => simp [made.dns_not_mem literal]
      | none => simp [made.dns_mem_iff, wildcard_mem_of_key_iff literal key]

/-- A leaf that is kept under the parent of a host covers it by the wildcard on the parent, or not at
all. -/
theorem covers_iff_beneath (made : leaf.MadeFor (stripPort asked))
    (key : parent ∈ leaf.names.cacheKeys asked) (above : parent? host = some parent) :
    leaf.certificate.Covers host ↔ leaf.certificate.CoversBeneath host parent := by
  constructor
  · rintro (address | ⟨named, own | ⟨other, again, wild⟩⟩)
    · exact .inl address
    · refine .inr ⟨named, ?_⟩
      rw [made.dns_mem_iff] at own ⊢
      rw [made.names] at key
      cases literal : IpAddr.parse? (stripPort asked) with
      | some ip => exact absurd (made.dns_mem_iff.mpr own) (made.dns_not_mem literal host)
      | none =>
          refine (wildcard_mem_of_key_iff literal key).mpr (Nat.le_of_not_lt fun single => ?_)
          have same := eq_of_mem_dns_single literal (Nat.le_of_lt_succ single) own
          -- a host with a parent has two labels
          obtain ⟨first, cut⟩ := labels_of_parent above
          have some := labels_length_pos parent
          rw [← same, cut, List.length_cons] at single
          omega
    · obtain rfl := Option.some.inj (above.symm.trans again)
      exact .inr ⟨named, wild⟩
  · rintro (address | ⟨named, wild⟩)
    · exact .inl address
    · exact .inr ⟨named, .inr ⟨parent, above, wild⟩⟩

/-! ## Where the leaves in the cache come from -/

namespace CertificateAuthority

variable {a : CertificateAuthority}

/-- Every leaf in the cache was made for a host and is kept under one of the host's keys. -/
def Traced (a : CertificateAuthority) : Prop :=
  ∀ name leaf, a.cached? name = some leaf →
    ∃ asked, leaf.MadeFor (stripPort asked) ∧ name ∈ leaf.names.cacheKeys asked

theorem traced_of_empty (empty : a.cache = some .empty) : a.Traced := by
  intro name leaf there
  simp [cached?, empty, LeafCache.get?, LeafCache.empty] at there

theorem Traced.adding (traced : a.Traced) (caching : a.cache.isSome)
    (made : leaf.MadeFor (stripPort asked)) :
    (a.adding leaf (leaf.names.cacheKeys asked)).Traced := by
  intro name found there
  rw [cached?_adding caching] at there
  split at there
  · rename_i key
    cases there
    exact ⟨asked, made, key⟩
  · exact traced name found there

theorem traced_after (empty : a.cache = some .empty) (calls : List LeafCall) :
    (a.after calls).Traced :=
  (after_keeps (Option.isSome_of_eq_some empty) (traced_of_empty empty)
    (fun _ _ caching traced => LeafCall.answer_keeps traced fun _ made => traced.adding caching made)
    calls).2

/-- There is nothing under a host, and a leaf under its parent. -/
structure FoundBeneath (a : CertificateAuthority) (host parent : String) (leaf : Leaf) : Prop where
  missing : a.cached? host = none
  above : parent? host = some parent
  nonempty : parent ≠ ""
  there : a.cached? parent = some leaf

/-- What a host without a leaf of its own is found to have, it has from its parent. -/
theorem foundBeneath_iff : (∃ parent, a.FoundBeneath host parent leaf) ↔
    a.cached? host = none ∧ a.find? (lookupCandidates host) = some leaf := by
  rw [find?_candidates_iff]
  constructor
  · rintro ⟨parent, missing, above, nonempty, there⟩
    exact ⟨missing, .inr ⟨missing, parent, above, nonempty, there⟩⟩
  · rintro ⟨missing, own | ⟨-, parent, above, nonempty, there⟩⟩
    · exact nomatch missing.symm.trans own
    · exact ⟨parent, missing, above, nonempty, there⟩

theorem exists_foundBeneath (a : CertificateAuthority) (host parent : String) (test : Leaf → Bool)
    (missing : a.cached? host = none) (above : parent? host = some parent) (nonempty : parent ≠ "")
    (kept : (a.cached? parent).any test) : ∃ leaf, a.FoundBeneath host parent leaf ∧ test leaf := by
  obtain ⟨leaf, there, passes⟩ := (Option.any_eq_true ..).mp kept
  exact ⟨leaf, ⟨missing, above, nonempty, there⟩, passes⟩

/-- It is what a call for the host is served with. -/
theorem FoundBeneath.answer {call : LeafCall} (found : a.FoundBeneath call.bare parent leaf) :
    call.answer a = (.ok leaf, a) :=
  LeafCall.answer_of_found (foundBeneath_iff.mp ⟨parent, found⟩).2

end CertificateAuthority

namespace LeafCall

/-- **When a leaf from the parent covers.** After any calls, a call that finds nothing under its host
and a leaf under the host's parent is served with that leaf and changes nothing; and the leaf has what
the host needs, the wildcard on the parent or the address, if and only if the host is a name and the
leaf was made for a name of at least two labels. Otherwise a client does not accept it at all. -/
theorem covered_beneath_iff {a : CertificateAuthority} (empty : a.cache = some .empty)
    (calls : List LeafCall) (call : LeafCall) {parent : String} {leaf : Leaf}
    (found : (a.after calls).FoundBeneath call.bare parent leaf) :
    call.answer (a.after calls) = (.ok leaf, a.after calls) ∧
      (leaf.certificate.CoversBeneath call.bare parent ↔ IpAddr.parse? call.bare = none ∧
        IpAddr.parse? leaf.host = none ∧ 2 ≤ (labels leaf.host.toList).length) ∧
      (leaf.certificate.Covers call.bare ↔ leaf.certificate.CoversBeneath call.bare parent) := by
  obtain ⟨asked, made, key⟩ := CertificateAuthority.traced_after empty calls parent leaf found.there
  exact ⟨found.answer, covers_parent_key_iff made key found.above,
    covers_iff_beneath made key found.above⟩

/-- A host that is asked for after a sibling of three labels. -/
theorem covered_beneath_sibling :
    ∃ leaf, (sampleAuthority.after [⟨"a.example.com", 0, sampleKey⟩]).FoundBeneath
        "b.example.com" "example.com" leaf ∧
      (LeafCall.answer ⟨"b.example.com:443", 0, sampleKey⟩ (sampleAuthority.after
        [⟨"a.example.com", 0, sampleKey⟩])).1 = .ok leaf ∧
      leaf.certificate.CoversBeneath "b.example.com" "example.com" := by
  have plain : bare ⟨"b.example.com:443", 0, sampleKey⟩ = "b.example.com" := by decide +kernel
  obtain ⟨leaf, found, host⟩ := CertificateAuthority.exists_foundBeneath
    (sampleAuthority.after [⟨"a.example.com", 0, sampleKey⟩]) "b.example.com" "example.com"
    (fun leaf => leaf.host = "a.example.com")
    (by decide +kernel) (by decide +kernel) (by decide) (by decide +kernel)
  rw [← plain] at found ⊢
  obtain ⟨served, covers, -⟩ := covered_beneath_iff (a := sampleAuthority) rfl
    [⟨"a.example.com", 0, sampleKey⟩] ⟨"b.example.com:443", 0, sampleKey⟩ found
  rw [of_decide_eq_true host] at covers
  exact ⟨leaf, found, congrArg Prod.fst served, covers.mpr (by decide +kernel)⟩

/-- The leaf of a single label covers nothing beneath it, and an address is served with the wildcard of
a name whose last labels it shares. -/
theorem uncovered_beneath :
    (∃ leaf, (sampleAuthority.after [⟨"localhost", 0, sampleKey⟩]).FoundBeneath
        "api.localhost" "localhost" leaf ∧
      (LeafCall.answer ⟨"api.localhost", 0, sampleKey⟩ (sampleAuthority.after
        [⟨"localhost", 0, sampleKey⟩])).1 = .ok leaf ∧
      ¬ leaf.certificate.CoversBeneath "api.localhost" "localhost") ∧
    ∃ leaf, (sampleAuthority.after [⟨"a.0.0.1", 0, sampleKey⟩]).FoundBeneath
        "10.0.0.1" "0.0.1" leaf ∧
      (LeafCall.answer ⟨"10.0.0.1", 0, sampleKey⟩ (sampleAuthority.after
        [⟨"a.0.0.1", 0, sampleKey⟩])).1 = .ok leaf ∧
      ¬ leaf.certificate.CoversBeneath "10.0.0.1" "0.0.1" := by
  constructor
  · obtain ⟨leaf, found, uncovered⟩ := CertificateAuthority.exists_foundBeneath
      (sampleAuthority.after [⟨"localhost", 0, sampleKey⟩]) "api.localhost" "localhost"
      (fun leaf => ¬ leaf.certificate.CoversBeneath "api.localhost" "localhost")
      (by decide +kernel) (by decide +kernel) (by decide) (by decide +kernel)
    exact ⟨leaf, found, congrArg Prod.fst found.answer, of_decide_eq_true uncovered⟩
  · obtain ⟨leaf, found, uncovered⟩ := CertificateAuthority.exists_foundBeneath
      (sampleAuthority.after [⟨"a.0.0.1", 0, sampleKey⟩]) "10.0.0.1" "0.0.1"
      (fun leaf => ¬ leaf.certificate.CoversBeneath "10.0.0.1" "0.0.1")
      (by decide +kernel) (by decide +kernel) (by decide) (by decide +kernel)
    exact ⟨leaf, found, congrArg Prod.fst found.answer, of_decide_eq_true uncovered⟩

end LeafCall

end Certificate

end Interceptor

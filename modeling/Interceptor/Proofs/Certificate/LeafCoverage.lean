/-
# Interceptor.Proofs.Certificate.LeafCoverage — exactly which names a leaf vouches for

A leaf carries a wildcard for every suffix of its host that has two labels or more, and the
host itself if it has no more than two. `Vouches` is what a reader of its names makes of them,
on the texts alone: a name stands there, or the wildcard on what is left of it behind
its first label does. The wildcards reach one label down and no further, so the leaf
vouches for its host and for whatever stands directly beneath one of the suffixes, the
wildcards themselves included, and for nothing else.

* `wildcard_mem_iff`: whose wildcards are on the leaf of a host that is no wildcard itself;
* `vouches_iff`: the names of a host, against the names they vouch for;
* `issued_vouches_iff`: the same of every leaf that an authority makes.
-/
import Interceptor.Proofs.Certificate.ParentLeaf

namespace Interceptor.Certificate

set_option autoImplicit false

open Text Net HostPort

/-- A wildcard is directly beneath what it stands on. -/
theorem parent?_wildcard (name : String) : parent? ("*." ++ name) = some name := by
  have marked : ("*." ++ name).toList = ['*'] ++ '.' :: name.toList := by simp
  rw [parent?, parentChars?, marked, splitFirst?_append (by decide)]
  simp

namespace SubjectNames

variable {host name rest : String}

/-- The name stands among the names, or the wildcard on its parent does. -/
def Vouches (names : SubjectNames) (name : String) : Prop :=
  name ∈ names.dns ∨ ∃ parent ∈ parent? name, "*." ++ parent ∈ names.dns

instance (names : SubjectNames) (name : String) : Decidable (names.Vouches name) :=
  inferInstanceAs (Decidable (_ ∨ _))

/-- The names directly beneath a suffix of the host, the host included, that has two labels or more. -/
def Beneath (host name : String) : Prop :=
  ∃ parent ∈ parent? name,
    labels parent.toList <:+ labels host.toList ∧ 2 ≤ (labels parent.toList).length

/-- The wildcards on a leaf stand on the suffixes of two labels or more. -/
theorem wildcard_mem_iff (named : IpAddr.parse? host = none) (unmarked : ['*'] ∉ labels host.toList) :
    "*." ++ rest ∈ (forHost host).dns ↔
      labels rest.toList <:+ labels host.toList ∧ 2 ≤ (labels rest.toList).length := by
  rw [mem_dns named]
  constructor
  · rintro (⟨suffix, suffixed, long, same⟩ | ⟨-, same⟩)
    · have some : suffix ≠ [] := by
        rintro rfl
        exact absurd long (by decide)
      have clean : ∀ part ∈ suffix, '.' ∉ part := fun part member =>
        not_mem_of_mem_labels (suffixed.subset member)
      have cut := congrArg (fun name => labels name.toList) same
      simp only [wildcard_eq, labels_wildcard, labels_join some clean, List.cons.injEq,
        true_and] at cut
      rw [cut]
      exact ⟨suffixed, long⟩
    · -- the host would have the wildcard mark as a label
      refine absurd ?_ unmarked
      rw [← same, labels_wildcard]
      exact List.mem_cons_self
  · rintro ⟨suffixed, long⟩
    exact .inl ⟨_, suffixed, long, (wildcard_labels rest).symm⟩

/-- What stands on a leaf is the host, if it is short, or a wildcard. -/
theorem eq_or_beneath_of_mem (named : IpAddr.parse? host = none) (member : name ∈ (forHost host).dns) :
    name = host ∧ (labels host.toList).length ≤ 2 ∨ Beneath host name := by
  rcases (mem_dns named).mp member with ⟨suffix, suffixed, long, rfl⟩ | ⟨short, own⟩
  · right
    have some : suffix ≠ [] := by
      rintro rfl
      exact absurd long (by decide)
    have clean : ∀ part ∈ suffix, '.' ∉ part := fun part member =>
      not_mem_of_mem_labels (suffixed.subset member)
    refine ⟨_, wildcard_eq suffix ▸ parent?_wildcard _, ?_⟩
    rw [labels_join some clean]
    exact ⟨suffixed, long⟩
  · exact .inl ⟨own, short⟩

/-- The names of a host vouch for the host, if it is short, and for all that stands directly beneath a
suffix of two labels or more. -/
theorem vouches_iff (named : IpAddr.parse? host = none) (unmarked : ['*'] ∉ labels host.toList) :
    (forHost host).Vouches name ↔
      name = host ∧ (labels host.toList).length ≤ 2 ∨ Beneath host name := by
  constructor
  · rintro (own | ⟨parent, above, wild⟩)
    · exact eq_or_beneath_of_mem named own
    · exact .inr ⟨parent, above, (wildcard_mem_iff named unmarked).mp wild⟩
  · rintro (⟨rfl, short⟩ | ⟨parent, above, beneath⟩)
    · exact .inl ((mem_dns named).mpr (.inr ⟨short, rfl⟩))
    · exact .inr ⟨parent, above, (wildcard_mem_iff named unmarked).mpr beneath⟩

-- a host that is a wildcard itself vouches for what is beneath a single label
example : (forHost "*.com").Vouches "example.com" := by decide +kernel

/-- A host is short, or directly beneath a suffix of its own. -/
theorem short_or_beneath_self (host : String) :
    (labels host.toList).length ≤ 2 ∨ Beneath host host := by
  by_cases short : (labels host.toList).length ≤ 2
  · exact .inl short
  · obtain ⟨parent, above⟩ := exists_parent (Nat.le_of_lt (Nat.lt_of_not_le short))
    obtain ⟨first, cut⟩ := labels_of_parent above
    rw [cut, List.length_cons] at short
    refine .inr ⟨parent, above, ?_, by omega⟩
    rw [cut]
    exact List.suffix_cons ..

end SubjectNames

open SubjectNames

/-- The certificate of a name's leaf bears the names of that name, and no address. -/
theorem Leaf.MadeFor.altNames_of_name {leaf : Leaf} {host : String} (made : leaf.MadeFor host)
    (named : IpAddr.parse? host = none) :
    leaf.certificate.altNames = (forHost host).dns.map AltName.dns := by
  rw [made.altNames, made.names, forHost_of_name named]
  simp

namespace CertificateAuthority

/-- **What a leaf vouches for.** The leaf that an authority makes for a host that is no address, has no
wildcard mark for a label and no port has the names of that host on its certificate, and nothing else.
They vouch for a name if and only if it is the host and that has at most two labels, or what is left of the
name behind its first label is a suffix of the host of at least two labels. So they vouch for the
host, and no wildcard stands on fewer than two labels. -/
theorem issued_vouches_iff {a : CertificateAuthority} {host : String} {now : Nat} {fresh : KeyPair}
    {leaf : Leaf} (named : IpAddr.parse? host = none) (unmarked : ['*'] ∉ labels host.toList)
    (bare : stripPort host = host) (issued : (a.issue host now fresh).1 = .ok leaf) :
    leaf.certificate.altNames = leaf.names.dns.map AltName.dns ∧
      (∀ name, leaf.names.Vouches name ↔
        name = host ∧ (labels host.toList).length ≤ 2 ∨
          ∃ parent ∈ parent? name,
            labels parent.toList <:+ labels host.toList ∧ 2 ≤ (labels parent.toList).length) ∧
      leaf.names.Vouches host ∧
      ∀ rest, "*." ++ rest ∈ leaf.names.dns → 2 ≤ (labels rest.toList).length := by
  have made := issue_ok issued
  rw [bare] at made
  have written := made.altNames_of_name named
  rw [made.names]
  refine ⟨written, fun name => vouches_iff named unmarked, ?_, ?_⟩
  · exact (vouches_iff named unmarked).mpr
      ((short_or_beneath_self host).imp_left fun short => ⟨rfl, short⟩)
  · exact fun rest wild => ((wildcard_mem_iff named unmarked).mp wild).2

/-- A host of three labels, and one of two that ends in a point. -/
theorem issued_vouches_deep :
    (∃ leaf, (LeafCall.sampleAuthority.issue "api.example.com" 0 LeafCall.sampleKey).1 = .ok leaf ∧
      leaf.names.Vouches "www.example.com" ∧ leaf.names.Vouches "v1.api.example.com" ∧
      ¬ leaf.names.Vouches "example.com" ∧ ¬ leaf.names.Vouches "www.example.org") ∧
    ∃ leaf, (LeafCall.sampleAuthority.issue "com." 0 LeafCall.sampleKey).1 = .ok leaf ∧
      leaf.names.Vouches "com." ∧ leaf.names.Vouches "example.com." ∧
      ¬ leaf.names.Vouches "com" := by
  constructor
  · have made : (LeafCall.sampleAuthority.issue "api.example.com" 0 LeafCall.sampleKey).1.toOption.any
        fun _ => true := by
      decide +kernel
    obtain ⟨leaf, issued, -⟩ := exists_of_any made
    obtain ⟨-, names, -, -⟩ := issued_vouches_iff (by decide +kernel) (by decide +kernel)
      (by decide +kernel) issued
    refine ⟨leaf, issued, ?_, ?_, ?_, ?_⟩
    all_goals
      rw [names]
      decide +kernel
  · have made : (LeafCall.sampleAuthority.issue "com." 0 LeafCall.sampleKey).1.toOption.any
        fun _ => true := by
      decide +kernel
    obtain ⟨leaf, issued, -⟩ := exists_of_any made
    obtain ⟨-, names, own, -⟩ := issued_vouches_iff (by decide +kernel) (by decide +kernel)
      (by decide +kernel) issued
    refine ⟨leaf, issued, own, ?_, ?_⟩
    all_goals
      rw [names]
      decide +kernel

end CertificateAuthority

end Interceptor.Certificate

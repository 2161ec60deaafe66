/-
# Interceptor.Proofs.Certificate.WildcardNames — what the wildcards of a leaf stand for

A leaf for a host name carries a wildcard for every suffix of at least two
labels, so it can stand in for any host beneath one of those suffixes. `Spans`
says this of a name: each of its suffixes of at least two labels has its
wildcard on the leaf.

* `forHost_spans`: the names of a leaf span the host it was made for;
* `cacheKeys_spans`: they span every name the leaf is cached under, once IP
  addresses are left aside. A key is the host or a suffix of it, and the
  suffixes of a suffix are suffixes of the host;
* `mem_cacheKeys_of_ip`, `mem_cacheKeys_of_name`: the keys of a leaf; `mem_own_keys`:
  its host is one of them;
* `Spans.covers`: names that span a host or its parent cover the host, when the
  parent has two labels.
-/
import Interceptor.Certificate.Names

namespace Interceptor.Certificate

set_option autoImplicit false

open Text Net

/-! ## Labels -/

theorem not_mem_of_mem_labels {name label : List Char} (member : label ∈ labels name) :
    '.' ∉ label := not_mem_of_mem_splitAll member

/-- A name that is joined from labels has these labels. -/
theorem labels_join {parts : List (List Char)} (some : parts ≠ [])
    (clean : ∀ part ∈ parts, '.' ∉ part) :
    labels (String.ofList (joinWith ['.'] parts)).toList = parts := by
  rw [String.toList_ofList]
  exact splitAll_joinWith some clean

theorem join_labels (name : String) : String.ofList (joinWith ['.'] (labels name.toList)) = name := by
  rw [labels, joinWith_splitAll, String.ofList_toList]

theorem labels_length_pos (name : String) : 0 < (labels name.toList).length :=
  List.length_pos_iff.mpr (splitAll_ne_nil _)

theorem labels_wildcard (name : String) :
    labels ("*." ++ name).toList = ['*'] :: labels name.toList := by
  have marked : ("*." ++ name).toList = ['*'] ++ '.' :: name.toList := by simp
  rw [marked]
  exact splitAll_append (by decide) name.toList

/-- The parent's labels are the name's without the first. -/
theorem labels_of_parent {name parent : String} (above : parent? name = some parent) :
    ∃ first, labels name.toList = first :: labels parent.toList := by
  simp only [parent?, parentChars?, Option.map_map, Option.map_eq_some_iff] at above
  obtain ⟨⟨first, rest⟩, cut, rfl⟩ := above
  refine ⟨first, ?_⟩
  simp only [labels, Function.comp_apply, String.toList_ofList]
  rw [append_of_splitFirst? cut, splitAll_append (not_mem_of_splitFirst? cut)]

/-- A name of more than one label has a parent. -/
theorem exists_parent {name : String} (long : 2 ≤ (labels name.toList).length) :
    ∃ parent, parent? name = some parent := by
  cases cut : splitFirst? '.' name.toList with
  | some parts => exact ⟨String.ofList parts.2, by simp [parent?, parentChars?, cut]⟩
  | none =>
      rw [labels, splitAll_of_not_mem (splitFirst?_eq_none.mp cut), List.length_singleton] at long
      omega

namespace SubjectNames

/-! ## Wildcards -/

theorem mem_properSuffixes {suffix parts : List (List Char)} :
    suffix ∈ properSuffixes parts ↔ suffix <:+ parts ∧ 2 ≤ suffix.length := by
  induction parts with
  | nil =>
      simp only [properSuffixes, List.not_mem_nil, List.suffix_nil, false_iff, not_and]
      rintro rfl
      decide
  | cons first parts ih =>
      cases parts with
      | nil =>
          simp only [properSuffixes, List.not_mem_nil, false_iff, not_and]
          intro suffixed
          exact Nat.not_le_of_lt (Nat.lt_succ_of_le suffixed.length_le)
      | cons second rest =>
          rw [properSuffixes, List.mem_cons, ih]
          constructor
          · rintro (rfl | ⟨suffixed, long⟩)
            · exact ⟨List.suffix_rfl, by simp⟩
            · exact ⟨suffixed.trans (List.suffix_cons ..), long⟩
          · rintro ⟨suffixed, long⟩
            rcases List.suffix_cons_iff.mp suffixed with rfl | suffixed
            · exact .inl rfl
            · exact .inr ⟨suffixed, long⟩

theorem wildcard_eq (parts : List (List Char)) :
    wildcard parts = "*." ++ String.ofList (joinWith ['.'] parts) := by
  rw [← String.toList_inj]
  simp [wildcard]

@[simp] theorem withoutWildcard_wildcard (parts : List (List Char)) :
    withoutWildcard (wildcard parts) = String.ofList (joinWith ['.'] parts) := by
  simp [withoutWildcard, wildcard]

/-- The wildcard on all labels of a name. -/
theorem wildcard_labels (name : String) : wildcard (labels name.toList) = "*." ++ name := by
  rw [wildcard_eq, labels, joinWith_splitAll, String.ofList_toList]

/-- Every suffix of `name` with at least two labels has its wildcard among the names. -/
def Spans (names : SubjectNames) (name : String) : Prop :=
  ∀ suffix, suffix <:+ labels name.toList → 2 ≤ suffix.length → wildcard suffix ∈ names.dns

theorem forHost_of_ip {host : String} {ip : IpAddr} (literal : IpAddr.parse? host = some ip) :
    forHost host = ⟨some ip, []⟩ := by
  simp only [forHost, literal]

theorem forHost_of_name {host : String} (named : IpAddr.parse? host = none) :
    forHost host = ⟨none, (properSuffixes (labels host.toList)).map wildcard ++
      if (labels host.toList).length ≤ 2 then [host] else []⟩ := by
  simp only [forHost, named]

theorem forHost_spans {host : String} (named : IpAddr.parse? host = none) :
    (forHost host).Spans host := by
  intro suffix suffixed long
  rw [forHost_of_name named]
  exact List.mem_append_left _ (List.mem_map_of_mem (mem_properSuffixes.mpr ⟨suffixed, long⟩))

/-- What spans a name spans everything that is joined from a suffix of its labels. -/
theorem Spans.suffix {names : SubjectNames} {name : String} (spans : names.Spans name)
    {parts : List (List Char)} (some : parts ≠ []) (suffixed : parts <:+ labels name.toList) :
    names.Spans (String.ofList (joinWith ['.'] parts)) := by
  intro suffix deeper long
  have clean : ∀ part ∈ parts, '.' ∉ part := fun part member =>
    not_mem_of_mem_labels (suffixed.subset member)
  rw [labels_join some clean] at deeper
  exact spans suffix (deeper.trans suffixed) long

/-- A name of one label has no suffix that would need a wildcard. -/
theorem spans_of_short (names : SubjectNames) {name : String}
    (short : (labels name.toList).length ≤ 1) : names.Spans name := by
  intro suffix suffixed long
  have := suffixed.length_le
  omega

/-- A host of at most two labels, its wildcard mark taken off if it has one. -/
theorem spans_withoutWildcard {host : String} (named : IpAddr.parse? host = none)
    (short : (labels host.toList).length ≤ 2) : (forHost host).Spans (withoutWildcard host) := by
  unfold withoutWildcard
  split
  · rename_i rest marked
    -- the wildcard mark is a label, so at most one is left
    apply spans_of_short
    have cut : labels host.toList = ['*'] :: labels rest := by
      rw [marked]
      exact splitAll_append (by decide : '.' ∉ ['*']) rest
    rw [cut, List.length_cons] at short
    rw [String.toList_ofList]
    omega
  · exact forHost_spans named

/-- The names of a leaf span every name it is cached under. -/
theorem cacheKeys_spans {host key : String} (named : IpAddr.parse? key = none)
    (member : key ∈ (forHost host).cacheKeys host) : (forHost host).Spans key := by
  cases literal : IpAddr.parse? host with
  | some ip =>
      -- an address is kept under itself alone
      simp only [cacheKeys, forHost_of_ip literal, Option.map_some, Option.toList_some,
        List.map_nil, List.append_nil, List.mem_singleton] at member
      rw [member, literal] at named
      exact nomatch named
  | none =>
      simp only [cacheKeys, forHost_of_name literal, Option.map_none, Option.toList_none,
        List.nil_append, List.mem_map, List.mem_append] at member
      obtain ⟨name, (⟨suffix, proper, rfl⟩ | own), rfl⟩ := member
      · obtain ⟨suffixed, long⟩ := mem_properSuffixes.mp proper
        rw [withoutWildcard_wildcard]
        refine (forHost_spans literal).suffix ?_ suffixed
        rintro rfl
        exact absurd long (by decide)
      · split at own
        · rename_i short
          rw [List.mem_singleton.mp own]
          exact spans_withoutWildcard literal short
        · exact absurd own List.not_mem_nil

/-- Names that span a host of at least three labels, or its parent, have the wildcard on the
parent. -/
theorem Spans.wildcard_mem {names : SubjectNames} {host parent : String}
    (above : parent? host = some parent) (long : 3 ≤ (labels host.toList).length)
    (spans : names.Spans host ∨ names.Spans parent) : "*." ++ parent ∈ names.dns := by
  obtain ⟨first, cut⟩ := labels_of_parent above
  rw [cut, List.length_cons] at long
  have two : 2 ≤ (labels parent.toList).length := by omega
  rw [← wildcard_labels]
  rcases spans with spans | spans
  · exact spans _ (cut ▸ List.suffix_cons ..) two
  · exact spans _ List.suffix_rfl two

/-- The wildcard on its parent covers a host. -/
theorem covers_of_wildcard {names : SubjectNames} {host parent : String}
    (named : IpAddr.parse? host = none) (above : parent? host = some parent)
    (member : "*." ++ parent ∈ names.dns) : names.Covers host := by
  unfold Covers
  rw [named]
  exact .inr ⟨parent, above, member⟩

/-! ## Keys -/

/-- A name has its wildcard mark taken off, or has none. -/
theorem withoutWildcard_cases (name : String) :
    withoutWildcard name = name ∨ name = "*." ++ withoutWildcard name := by
  unfold withoutWildcard
  split
  · rename_i rest marked
    right
    rw [← String.toList_inj, marked]
    simp
  · exact .inl rfl

/-- The leaf of an address is kept under the one text it was asked for by. -/
theorem mem_cacheKeys_of_ip {host asked key : String} {ip : IpAddr}
    (literal : IpAddr.parse? host = some ip) :
    key ∈ (forHost host).cacheKeys asked ↔ key = asked := by
  simp [forHost_of_ip literal, cacheKeys]

/-- The leaf of a name is kept under the suffixes of at least two labels, and, if the name has at most
two labels, under the name without a wildcard mark. -/
theorem mem_cacheKeys_of_name {host asked key : String} (named : IpAddr.parse? host = none) :
    key ∈ (forHost host).cacheKeys asked ↔
      (labels key.toList <:+ labels host.toList ∧ 2 ≤ (labels key.toList).length) ∨
        ((labels host.toList).length ≤ 2 ∧ key = withoutWildcard host) := by
  have suffixes : key ∈ ((properSuffixes (labels host.toList)).map wildcard).map withoutWildcard ↔
      labels key.toList <:+ labels host.toList ∧ 2 ≤ (labels key.toList).length := by
    rw [← mem_properSuffixes]
    simp only [List.map_map, List.mem_map, Function.comp_apply, withoutWildcard_wildcard]
    constructor
    · rintro ⟨suffix, proper, rfl⟩
      obtain ⟨suffixed, long⟩ := mem_properSuffixes.mp proper
      have some : suffix ≠ [] := by
        rintro rfl
        exact absurd long (by decide)
      rw [labels_join some fun part member => not_mem_of_mem_labels (suffixed.subset member)]
      exact proper
    · exact fun proper => ⟨_, proper, join_labels key⟩
  rw [forHost_of_name named, cacheKeys, Option.map_none, Option.toList_none, List.nil_append,
    List.map_append, List.mem_append, suffixes]
  by_cases short : (labels host.toList).length ≤ 2
  · simp [short]
  · simp [short]

theorem withoutWildcard_of_short {name : String} (short : (labels name.toList).length ≤ 1) :
    withoutWildcard name = name := by
  rcases withoutWildcard_cases name with same | marked
  · exact same
  · -- a wildcard mark is a label of its own
    have cut := labels_wildcard (withoutWildcard name)
    have some := labels_length_pos (withoutWildcard name)
    rw [← marked] at cut
    rw [cut, List.length_cons] at short
    omega

/-- A host is among the keys of its own leaf. -/
theorem mem_own_keys (host : String) : host ∈ (forHost host).cacheKeys host := by
  cases literal : IpAddr.parse? host with
  | some ip => exact (mem_cacheKeys_of_ip literal).mpr rfl
  | none =>
      rw [mem_cacheKeys_of_name literal]
      by_cases long : 2 ≤ (labels host.toList).length
      · exact .inl ⟨List.suffix_rfl, long⟩
      · have short : (labels host.toList).length ≤ 1 := by omega
        exact .inr ⟨by omega, (withoutWildcard_of_short short).symm⟩

end SubjectNames

end Interceptor.Certificate

/-
# Interceptor.Proofs.Certificate.Displacement — whose leaf takes whose place

A leaf is kept under more names than the one it was made for, and takes the place
of what was kept there. That does no harm to a host that is looked for under such
a name as long as the new leaf covers it too, and it nearly always does: a leaf
carries the wildcards of all the names it is kept under. `Displaces` lists when it
does not, for a host that is found under itself, and `DisplacesAbove` for one that is
found under its parent.

* `covers_of_own_key`: a leaf that takes the name of a host covers the host or
  displaces it, and `Displaces.takes`, `Displaces.uncovers`: not both;
* `covers_of_parent_key`, `DisplacesAbove.takes`, `DisplacesAbove.uncovers`: so it is with
  the name of its parent;
* `parse?_parent`: an address has no parent that is one, so an address is found
  under itself alone;
* `stripPort_of_covers`: a leaf is made for a host without its port; if it covers
  the host, there was none.
-/
import Interceptor.Proofs.Certificate.WildcardNames
import Interceptor.Proofs.Net.AddressText
import Interceptor.Net.HostPort

namespace Interceptor.Certificate

set_option autoImplicit false

open Text Net HostPort

/-! ## Parents of addresses -/

theorem append_of_parent {host parent : String} (above : parent? host = some parent) :
    ∃ first, host.toList = first ++ '.' :: parent.toList ∧ '.' ∉ first := by
  simp only [parent?, parentChars?, Option.map_map, Option.map_eq_some_iff] at above
  obtain ⟨⟨first, rest⟩, cut, rfl⟩ := above
  refine ⟨first, ?_, not_mem_of_splitFirst? cut⟩
  rw [Function.comp_apply, String.toList_ofList]
  exact append_of_splitFirst? cut

theorem toList_stripPort (host : String) : (stripPort host).toList = stripPortChars host.toList :=
  String.toList_ofList

/-- An address without its first label is none, with a port or without. -/
theorem parse?_parent {host parent : String} {ip : IpAddr}
    (literal : IpAddr.parse? host = some ip) (above : parent? host = some parent) :
    IpAddr.parse? (stripPort parent) = none := by
  obtain ⟨first, whole, clean⟩ := append_of_parent above
  obtain ⟨marks, plain⟩ := marks_of_parse literal
  have points : host.toList.count '.' = parent.toList.count '.' + 1 := by
    rw [whole, List.count_append, List.count_eq_zero.mpr clean, List.count_cons_self, Nat.zero_add]
  have three : host.toList.count '.' = 3 := by
    rcases marks with ⟨three, -⟩ | ⟨-, none | three⟩ <;> omega
  cases given : IpAddr.parse? (stripPort parent) with
  | none => rfl
  | some other =>
      exfalso
      obtain ⟨marks, -⟩ := marks_of_parse given
      rw [toList_stripPort] at marks
      -- there are two points left, and a bracket was never there
      rcases stripPortChars_cases parent.toList with same | ⟨port, cut, clean⟩ | ⟨rest, cut, -⟩
      · rw [same] at marks
        rcases marks with ⟨three, -⟩ | ⟨-, none | three⟩ <;> omega
      · have fewer := congrArg (List.count '.') cut
        rw [List.count_append] at fewer
        have none := List.count_eq_zero.mpr clean
        rcases marks with ⟨three, -⟩ | ⟨colons, -⟩ <;> omega
      · refine plain ?_
        rw [whole, cut]
        simp

namespace SubjectNames

/-! ## Hosts that lose a port twice -/

theorem mem_dns {host name : String} (named : IpAddr.parse? host = none) :
    name ∈ (forHost host).dns ↔
      (∃ suffix, suffix <:+ labels host.toList ∧ 2 ≤ suffix.length ∧ name = wildcard suffix) ∨
        ((labels host.toList).length ≤ 2 ∧ name = host) := by
  rw [forHost_of_name named, List.mem_append, List.mem_map]
  simp only [mem_properSuffixes, and_assoc]
  refine or_congr ⟨?_, ?_⟩ ?_
  · rintro ⟨suffix, suffixed, long, rfl⟩
    exact ⟨suffix, suffixed, long, rfl⟩
  · rintro ⟨suffix, suffixed, long, rfl⟩
    exact ⟨suffix, suffixed, long, rfl⟩
  · split <;> simp [*]

/-- What a leaf says is made of what its host is made of, and of wildcard marks. -/
theorem mem_of_mem_dns {host name : String} (named : IpAddr.parse? host = none)
    (member : name ∈ (forHost host).dns) {c : Char} (point : c ≠ '.') (star : c ≠ '*')
    (inside : c ∈ name.toList) : c ∈ host.toList := by
  rcases (mem_dns named).mp member with ⟨suffix, suffixed, -, rfl⟩ | ⟨-, rfl⟩
  · rw [wildcard, String.toList_ofList, List.mem_cons, List.mem_cons] at inside
    obtain ⟨part, among, there⟩ := (mem_joinWith point).mp
      ((inside.resolve_left star).resolve_left point)
    have whole : joinWith ['.'] (labels host.toList) = host.toList := joinWith_splitAll _
    rw [← whole, mem_joinWith point]
    exact ⟨part, suffixed.subset among, there⟩
  · exact inside

/-- Only a host with a point has a wildcard on its leaf. -/
theorem point_of_wildcard {host parent : String} (named : IpAddr.parse? host = none)
    (member : "*." ++ parent ∈ (forHost host).dns) : '.' ∈ host.toList := by
  rcases (mem_dns named).mp member with ⟨suffix, suffixed, long, -⟩ | ⟨-, same⟩
  · refine Decidable.byContradiction fun none => ?_
    have short := suffixed.length_le
    rw [labels, splitAll_of_not_mem none, List.length_singleton] at short
    omega
  · rw [← same]
    simp

/-- A leaf that was made for a host without its port does not cover the host with it. -/
theorem stripPort_of_covers {host : String} (named : IpAddr.parse? host = none)
    (covers : (forHost (stripPort host)).Covers host) : stripPort host = host := by
  rcases stripPortChars_cases host.toList with same | ported
  · rw [stripPort, same, String.ofList_toList]
  exfalso
  -- behind the host without its port stands a mark that is not in it
  obtain ⟨front, mark, rest, whole, clean, outside, point, star⟩ :
      ∃ front mark rest, host.toList = front ++ (stripPort host).toList ++ mark :: rest ∧
        '.' ∉ front ∧ mark ∉ (stripPort host).toList ∧ mark ≠ '.' ∧ mark ≠ '*' := by
    rw [toList_stripPort]
    rcases ported with ⟨port, cut, outside⟩ | ⟨rest, cut, outside⟩
    · exact ⟨[], ':', port, cut, List.not_mem_nil, outside, by decide, by decide⟩
    · exact ⟨['['], ']', rest, cut, by decide, outside, by decide, by decide⟩
  unfold Covers at covers
  rw [named] at covers
  cases literal : IpAddr.parse? (stripPort host) with
  | some ip => simp [forHost_of_ip literal] at covers
  | none =>
      rcases covers with own | ⟨parent, above, wild⟩
      · exact outside (mem_of_mem_dns literal own point star (whole ▸ by simp))
      · refine outside (mem_of_mem_dns literal wild point star ?_)
        -- the first point stands in the host, so the mark is behind it
        cases first : splitFirst? '.' (stripPort host).toList with
        | none => exact absurd (point_of_wildcard literal wild) (splitFirst?_eq_none.mp first)
        | some parts =>
            obtain ⟨label, after⟩ := parts
            have clean' : '.' ∉ front ++ label := fun member =>
              (List.mem_append.mp member).elim clean (not_mem_of_splitFirst? first)
            have cut := splitFirst?_append clean' (after ++ mark :: rest)
            rw [append_of_splitFirst? first] at whole
            simp only [List.append_assoc, List.cons_append] at whole cut
            rw [← whole] at cut
            simp only [parent?, parentChars?, cut, Option.map_some] at above
            rw [← Option.some.inj above]
            simp

/-! ## Who takes whose place -/

/-- A leaf made for `other` is kept under `host`, and does not cover it. -/
inductive Displaces (host other : String) : Prop
  /-- An address with points, or a name of two labels, has no wildcard of its own. -/
  | beneath (kind : (IpAddr.parse? host).isSome ∧ 2 ≤ (labels host.toList).length ∨
        (labels host.toList).length = 2)
      (under : labels host.toList <:+ labels other.toList) (apart : other ≠ host)
  | wildcard (single : (labels host.toList).length = 1) (marked : other = "*." ++ host)

/-- A leaf made for the parent of `host` is kept there with no wildcard, if that has one label. -/
structure DisplacesAbove (host other : String) : Prop where
  two : (labels host.toList).length = 2
  above : parent? host = some other

variable {host other asked parent : String}

theorem covers_self (named : IpAddr.parse? host = none) (short : (labels host.toList).length ≤ 2) :
    (forHost host).Covers host := by
  unfold Covers
  rw [named]
  exact .inl ((mem_dns named).mpr (.inr ⟨short, rfl⟩))

/-- A leaf that takes the name of a host covers the host, or displaces it. -/
theorem covers_of_own_key (own : host ∈ (forHost other).cacheKeys asked) (apart : asked ≠ host)
    (free : ¬ Displaces host other) : (forHost other).Covers host := by
  cases literal : IpAddr.parse? other with
  | some ip => exact absurd ((mem_cacheKeys_of_ip literal).mp own).symm apart
  | none =>
      have different : (IpAddr.parse? host).isSome → other ≠ host := by
        rintro address rfl
        rw [literal] at address
        exact nomatch address
      rcases (mem_cacheKeys_of_name literal).mp own with ⟨under, long⟩ | ⟨short, same⟩
      · cases named : IpAddr.parse? host with
        | some ip =>
            have address := Option.isSome_of_eq_some named
            exact absurd (.beneath (.inl ⟨address, long⟩) under (different address)) free
        | none =>
            by_cases three : 3 ≤ (labels host.toList).length
            · obtain ⟨parent, above⟩ := exists_parent long
              have spans : (forHost other).Spans host := fun suffix deeper longer =>
                forHost_spans literal suffix (deeper.trans under) longer
              exact covers_of_wildcard named above (Spans.wildcard_mem above three (.inl spans))
            · have two : (labels host.toList).length = 2 := by omega
              have same : other = host := Decidable.byContradiction fun apart =>
                free (.beneath (.inr two) under apart)
              rw [same]
              exact covers_self named (Nat.le_of_eq two)
      · rcases withoutWildcard_cases other with plain | marked
        · rw [plain] at same
          rw [same]
          exact covers_self literal short
        · -- the wildcard mark is one of the two labels
          rw [← same] at marked
          rw [marked, labels_wildcard, List.length_cons] at short
          have some := labels_length_pos host
          exact absurd (.wildcard (by omega) marked) free

/-- So does a leaf that takes the name of the host's parent, if the host is found there. -/
theorem covers_of_parent_key (named : IpAddr.parse? host = none) (above : parent? host = some parent)
    (key : parent ∈ (forHost other).cacheKeys asked) (apart : asked ≠ parent)
    (free : ¬ DisplacesAbove host other) : (forHost other).Covers host := by
  cases literal : IpAddr.parse? other with
  | some ip => exact absurd ((mem_cacheKeys_of_ip literal).mp key).symm apart
  | none =>
      have spread (under : labels parent.toList <:+ labels other.toList)
          (long : 2 ≤ (labels parent.toList).length) : "*." ++ parent ∈ (forHost other).dns :=
        (mem_dns literal).mpr (.inl ⟨_, under, long, (wildcard_labels parent).symm⟩)
      refine covers_of_wildcard named above ?_
      rcases (mem_cacheKeys_of_name literal).mp key with ⟨under, long⟩ | ⟨short, same⟩
      · exact spread under long
      · rcases withoutWildcard_cases other with plain | marked
        · rw [plain] at same
          by_cases long : 2 ≤ (labels parent.toList).length
          · exact spread (same ▸ List.suffix_rfl) long
          · obtain ⟨first, cut⟩ := labels_of_parent above
            have some := labels_length_pos parent
            have two : (labels host.toList).length = 2 := by
              rw [cut, List.length_cons]
              omega
            exact absurd ⟨two, same ▸ above⟩ free
        · rw [← same] at marked
          exact (mem_dns literal).mpr (.inr ⟨short, marked.symm⟩)

/-- A wildcard on a leaf has a label more than the suffix it stands for. -/
theorem labels_of_mem_dns {name : String} (named : IpAddr.parse? host = none)
    (member : name ∈ (forHost host).dns) :
    3 ≤ (labels name.toList).length ∨ (labels host.toList).length ≤ 2 ∧ name = host := by
  rcases (mem_dns named).mp member with ⟨suffix, suffixed, long, rfl⟩ | own
  · left
    have some : suffix ≠ [] := by
      rintro rfl
      exact absurd long (by decide)
    have clean : ∀ part ∈ suffix, '.' ∉ part := fun part member =>
      not_mem_of_mem_labels (suffixed.subset member)
    rw [wildcard_eq, labels_wildcard, labels_join some clean, List.length_cons]
    omega
  · exact .inr own

/-- A leaf covers a host of at most two labels by its own host alone. -/
theorem eq_of_covers_short (literal : IpAddr.parse? other = none)
    (short : (labels host.toList).length ≤ 2) (covers : (forHost other).Covers host) :
    (labels other.toList).length ≤ 2 ∧
      (other = host ∨ ∃ parent, parent? host = some parent ∧ other = "*." ++ parent) := by
  unfold Covers at covers
  split at covers
  · rw [forHost_of_name literal] at covers
    exact nomatch covers
  · rcases covers with own | ⟨parent, above, wild⟩
    · rcases labels_of_mem_dns literal own with long | ⟨few, same⟩
      · omega
      · exact ⟨few, .inl same.symm⟩
    · obtain ⟨first, cut⟩ := labels_of_parent above
      rw [cut, List.length_cons] at short
      rcases labels_of_mem_dns literal wild with long | ⟨few, same⟩
      · rw [labels_wildcard, List.length_cons] at long
        omega
      · exact ⟨few, .inr ⟨parent, above, same.symm⟩⟩

theorem ne_marked (name : String) : name ≠ "*." ++ name := by
  intro same
  have more := congrArg (fun name => (labels name.toList).length) same
  simp only [labels_wildcard, List.length_cons] at more
  omega

/-- A leaf that displaces a host is kept under it. -/
theorem Displaces.takes (displaces : Displaces host other) (literal : IpAddr.parse? other = none) :
    host ∈ (forHost other).cacheKeys asked := by
  rw [mem_cacheKeys_of_name literal]
  cases displaces with
  | beneath kind under apart =>
      have long : 2 ≤ (labels host.toList).length := by
        rcases kind with ⟨-, long⟩ | two
        · exact long
        · exact Nat.le_of_eq two.symm
      exact .inl ⟨under, long⟩
  | wildcard single marked =>
      have bare : host = withoutWildcard other := by
        rw [marked]
        simp [withoutWildcard]
      have short : (labels other.toList).length ≤ 2 := by
        rw [marked, labels_wildcard, List.length_cons]
        omega
      exact .inr ⟨short, bare⟩

/-- It does not cover the host. -/
theorem Displaces.uncovers (displaces : Displaces host other) (literal : IpAddr.parse? other = none) :
    ¬ (forHost other).Covers host := by
  intro covers
  have named : IpAddr.parse? host = none := by
    cases address : IpAddr.parse? host with
    | none => rfl
    | some ip =>
        rw [Covers, address, forHost_of_name literal] at covers
        exact nomatch covers
  cases displaces with
  | beneath kind under apart =>
      have two : (labels host.toList).length = 2 := by
        rcases kind with ⟨address, -⟩ | two
        · rw [named] at address
          exact nomatch address
        · exact two
      obtain ⟨few, -⟩ := eq_of_covers_short literal (Nat.le_of_eq two) covers
      have whole := under.eq_of_length_le (by omega)
      apply apart
      rw [← join_labels other, ← whole, join_labels]
  | wildcard single marked =>
      obtain ⟨-, same | ⟨parent, above, -⟩⟩ := eq_of_covers_short literal (by omega) covers
      · exact ne_marked host (same.symm.trans marked)
      · obtain ⟨first, cut⟩ := labels_of_parent above
        have some := labels_length_pos parent
        rw [cut, List.length_cons] at single
        omega

namespace DisplacesAbove

/-- A leaf for the parent of a host is kept under the parent. -/
theorem takes (displaces : DisplacesAbove host other) (literal : IpAddr.parse? other = none) :
    other ∈ (forHost other).cacheKeys asked := by
  obtain ⟨first, cut⟩ := labels_of_parent displaces.above
  have single : (labels other.toList).length = 1 := by
    have two := displaces.two
    rw [cut, List.length_cons] at two
    exact Nat.succ.inj two
  have bare := (withoutWildcard_of_short (Nat.le_of_eq single)).symm
  exact (mem_cacheKeys_of_name literal).mpr (.inr ⟨by omega, bare⟩)

/-- It does not cover the host. -/
theorem uncovers (displaces : DisplacesAbove host other) (literal : IpAddr.parse? other = none) :
    ¬ (forHost other).Covers host := by
  intro covers
  obtain ⟨first, cut⟩ := labels_of_parent displaces.above
  obtain ⟨-, same | ⟨parent, again, marked⟩⟩ :=
    eq_of_covers_short literal (Nat.le_of_eq displaces.two) covers
  · rw [same] at cut
    exact absurd (congrArg List.length cut) (by simp)
  · obtain rfl := Option.some.inj (displaces.above.symm.trans again)
    exact ne_marked other marked

end DisplacesAbove

end SubjectNames

end Interceptor.Certificate

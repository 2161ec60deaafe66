/-
# Interceptor.Proofs.Tables — tables that are lists of keys with values

The leaves that are kept and the files of a desk stand in such tables. Both are changed in one way: a
value is put in front, and whatever there was under its key is taken out.

* `lookup_filter_ne`: taking one key out changes nothing under another;
* `lookup_put`: what is found afterwards.
-/

namespace Interceptor

set_option autoImplicit false

variable {κ α : Type} [BEq κ] [LawfulBEq κ]

theorem lookup_filter_ne {entries : List (κ × α)} {key other : κ} (different : other ≠ key) :
    (entries.filter (·.1 != key)).lookup other = entries.lookup other := by
  induction entries with
  | nil => rfl
  | cons entry entries ih =>
      obtain ⟨here, value⟩ := entry
      cases same : here == key with
      | true =>
          have elsewhere : (other == here) = false := beq_eq_false_iff_ne.mpr (eq_of_beq same ▸ different)
          rw [List.filter_cons_of_neg (by simp [bne, same]), ih, List.lookup_cons, elsewhere]
      | false => rw [List.filter_cons_of_pos (by simp [bne, same]), List.lookup_cons, List.lookup_cons, ih]

theorem lookup_put [DecidableEq κ] (entries : List (κ × α)) (key other : κ) (value : α) :
    ((key, value) :: entries.filter (·.1 != key)).lookup other =
      if other = key then some value else entries.lookup other := by
  rw [List.lookup_cons]
  split
  · rename_i same
    rw [if_pos (eq_of_beq same)]
  · rename_i different
    have apart := beq_eq_false_iff_ne.mp different
    rw [if_neg apart, lookup_filter_ne apart]

end Interceptor

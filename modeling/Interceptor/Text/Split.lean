/-
# Interceptor.Text.Split — cutting text at a separator

`splitFirst?` and `splitLast?` cut a list at the first or the last place where
a separator stands and drop the separator; `splitAll` cuts at every place.
Nothing else is lost:

* `append_of_splitFirst?`, `append_of_splitLast?`: the two parts with the
  separator between them are the whole;
* `not_mem_of_splitFirst?`, `not_mem_of_splitLast?`: the separator is not in
  the part before the first place, nor in the part after the last place;
* `splitFirst?_append`, `splitLast?_eq_some_iff`: and that is all it takes for a cut;
* `cut_before_or_after`, `behind_of_cut`: where a cut falls in a text that has two parts;
* `joinWith_splitAll`, `splitAll_joinWith`: cutting everywhere and joining again
  undo each other; `mem_joinWith`: joining adds nothing but separators.
-/

namespace Interceptor.Text

set_option autoImplicit false

section Lists

variable {α : Type} [DecidableEq α]

/-- The parts before and after the first `sep`. -/
def splitFirst? (sep : α) : List α → Option (List α × List α)
  | [] => none
  | c :: rest =>
    if c = sep then some ([], rest)
    else (splitFirst? sep rest).map fun (before, after) => (c :: before, after)

/-- The parts before and after the last `sep`. -/
def splitLast? (sep : α) : List α → Option (List α × List α)
  | [] => none
  | c :: rest =>
    match splitLast? sep rest with
    | some (before, after) => some (c :: before, after)
    | none => if c = sep then some ([], rest) else none

/-- The parts between separators; always at least one part. -/
def splitAll (sep : α) : List α → List (List α)
  | [] => [[]]
  | c :: rest =>
    if c = sep then [] :: splitAll sep rest
    else match splitAll sep rest with
      | part :: parts => (c :: part) :: parts
      | [] => [[c]]

/-- What follows `start`, when the list begins with it. -/
def dropPrefix? (start : List α) (cs : List α) : Option (List α) :=
  match start, cs with
  | [], cs => some cs
  | _ :: _, [] => none
  | s :: start, c :: cs => if s = c then dropPrefix? start cs else none

/-- The parts before and after the first place where `mark` stands as a whole. -/
def splitAt? (mark : List α) : List α → Option (List α × List α)
  | [] => (dropPrefix? mark []).map fun after => ([], after)
  | c :: rest =>
    match dropPrefix? mark (c :: rest) with
    | some after => some ([], after)
    | none => (splitAt? mark rest).map fun (before, after) => (c :: before, after)

theorem append_of_splitFirst? {sep : α} {cs before after : List α}
    (h : splitFirst? sep cs = some (before, after)) : cs = before ++ sep :: after := by
  induction cs generalizing before with
  | nil => simp [splitFirst?] at h
  | cons c rest ih =>
    by_cases hc : c = sep
    · simp only [splitFirst?, hc, if_true, Option.some.injEq, Prod.mk.injEq] at h
      obtain ⟨rfl, rfl⟩ := h
      simp [hc]
    · simp [splitFirst?, hc] at h
      obtain ⟨b, hb, rfl⟩ := h
      simp [ih hb]

theorem not_mem_of_splitFirst? {sep : α} {cs before after : List α}
    (h : splitFirst? sep cs = some (before, after)) : sep ∉ before := by
  induction cs generalizing before with
  | nil => simp [splitFirst?] at h
  | cons c rest ih =>
    by_cases hc : c = sep
    · simp only [splitFirst?, hc, if_true, Option.some.injEq, Prod.mk.injEq] at h
      obtain ⟨rfl, rfl⟩ := h
      simp
    · simp [splitFirst?, hc] at h
      obtain ⟨b, hb, rfl⟩ := h
      simp [Ne.symm hc, ih hb]

/-- A text is cut at a separator if there is none before it. -/
theorem splitFirst?_append {sep : α} {before : List α} (clean : sep ∉ before) (after : List α) :
    splitFirst? sep (before ++ sep :: after) = some (before, after) := by
  induction before with
  | nil => simp [splitFirst?]
  | cons c before ih =>
    obtain ⟨different, clean⟩ := not_or.mp (mt List.mem_cons.mpr clean)
    rw [List.cons_append, splitFirst?, if_neg (Ne.symm different), ih clean]
    rfl

theorem splitFirst?_eq_none {sep : α} {cs : List α} :
    splitFirst? sep cs = none ↔ sep ∉ cs := by
  induction cs with
  | nil => simp [splitFirst?]
  | cons c rest ih =>
    by_cases hc : c = sep
    · simp [splitFirst?, hc]
    · simp [splitFirst?, hc, ih, Ne.symm hc]

/-- A text is cut at the first of its marks in one way. -/
theorem eq_of_cut {sep : α} {before before' after after' : List α} (clean : sep ∉ before)
    (clean' : sep ∉ before') (cut : before ++ sep :: after = before' ++ sep :: after') :
    before = before' := by
  have same := splitFirst?_append clean after
  rw [cut, splitFirst?_append clean'] at same
  exact (Prod.mk.inj (Option.some.inj same)).1.symm

omit [DecidableEq α] in
/-- The first of its marks cuts a text in two; a text in front of another sign is cut there too, or
stands in front of the cut as a whole. -/
theorem cut_before_or_after {sep sign : α} {front back before after : List α}
    (other : sign ≠ sep) (clean : sep ∉ before)
    (cut : front ++ sign :: back = before ++ sep :: after) :
    (∃ rest, front = before ++ sep :: rest) ∨ sep ∉ front ∧ sign ∈ before := by
  rcases List.append_eq_append_iff.mp cut with ⟨more, longer, rest⟩ | ⟨more, shorter, rest⟩
  · cases more with
    | nil => exact absurd (List.cons.inj rest).1 other
    | cons first more =>
        refine .inr ⟨fun member => clean (longer ▸ List.mem_append_left _ member), ?_⟩
        rw [longer, ← (List.cons.inj rest).1]
        simp
  · cases more with
    | nil => exact absurd (List.cons.inj rest).1.symm other
    | cons first more =>
        rw [← (List.cons.inj rest).1] at shorter
        exact .inl ⟨more, shorter⟩

omit [DecidableEq α] in
/-- A cut is behind a text that has no such mark, or that ends in a sign the rest of the cut does not have. -/
theorem behind_of_cut {sep : α} {front back before after : List α}
    (cut : front ++ back = before ++ sep :: after)
    (apart : sep ∉ front ∨ ∃ start sign, front = start ++ [sign] ∧ sign ∉ sep :: after) :
    ∃ middle, back = middle ++ sep :: after := by
  rcases List.append_eq_append_iff.mp cut with ⟨middle, -, rest⟩ | ⟨more, longer, rest⟩
  · exact ⟨middle, rest⟩
  cases more with
  | nil => exact ⟨[], rest.symm⟩
  | cons first more =>
      obtain ⟨rfl, rfl⟩ := List.cons.inj rest
      rcases apart with free | ⟨start, sign, ends, missing⟩
      · exact absurd (longer ▸ by simp) free
      · -- the last sign of the front would be in the cut
        have last : sign ∈ sep :: more := by
          apply List.mem_of_getLast?
          have whole := congrArg List.getLast? (ends.symm.trans longer)
          rwa [List.getLast?_concat, List.getLast?_append, List.getLast?_cons, Option.some_or,
            ← List.getLast?_cons, eq_comm] at whole
        exact absurd (List.mem_append_left back last) missing

theorem splitLast?_eq_none {sep : α} {cs : List α} :
    splitLast? sep cs = none ↔ sep ∉ cs := by
  induction cs with
  | nil => simp [splitLast?]
  | cons c rest ih =>
    cases hr : splitLast? sep rest with
    | some parts =>
      have : sep ∈ rest := by
        by_cases hm : sep ∈ rest
        · exact hm
        · simp [ih.2 hm] at hr
      simp [splitLast?, hr, this]
    | none =>
      have : sep ∉ rest := ih.1 hr
      by_cases hc : c = sep
      · simp [splitLast?, hr, hc]
      · simp [splitLast?, hr, hc, Ne.symm hc, this]

theorem append_of_splitLast? {sep : α} {cs before after : List α}
    (h : splitLast? sep cs = some (before, after)) : cs = before ++ sep :: after := by
  induction cs generalizing before with
  | nil => simp [splitLast?] at h
  | cons c rest ih =>
    cases hr : splitLast? sep rest with
    | some parts =>
      simp [splitLast?, hr] at h
      obtain ⟨rfl, ha⟩ := h
      simp [ih (show splitLast? sep rest = some (parts.1, after) by rw [hr, ← ha])]
    | none =>
      by_cases hc : c = sep
      · simp only [splitLast?, hr, hc, if_true, Option.some.injEq, Prod.mk.injEq] at h
        obtain ⟨rfl, rfl⟩ := h
        simp [hc]
      · simp [splitLast?, hr, hc] at h

theorem not_mem_of_splitLast? {sep : α} {cs before after : List α}
    (h : splitLast? sep cs = some (before, after)) : sep ∉ after := by
  induction cs generalizing before with
  | nil => simp [splitLast?] at h
  | cons c rest ih =>
    cases hr : splitLast? sep rest with
    | some parts =>
      simp [splitLast?, hr] at h
      obtain ⟨rfl, ha⟩ := h
      exact ih (show splitLast? sep rest = some (parts.1, after) by rw [hr, ← ha])
    | none =>
      by_cases hc : c = sep
      · simp only [splitLast?, hr, hc, if_true, Option.some.injEq, Prod.mk.injEq] at h
        obtain ⟨rfl, rfl⟩ := h
        exact splitLast?_eq_none.1 hr
      · simp [splitLast?, hr, hc] at h

/-- A text is cut at a separator if there is none behind it. -/
theorem splitLast?_append {sep : α} {after : List α} (clean : sep ∉ after) (before : List α) :
    splitLast? sep (before ++ sep :: after) = some (before, after) := by
  induction before with
  | nil => simp [splitLast?, splitLast?_eq_none.mpr clean]
  | cons c before ih => simp [splitLast?, ih]

theorem splitLast?_eq_some_iff {sep : α} {cs before after : List α} :
    splitLast? sep cs = some (before, after) ↔ cs = before ++ sep :: after ∧ sep ∉ after := by
  constructor
  · intro cut
    exact ⟨append_of_splitLast? cut, not_mem_of_splitLast? cut⟩
  · rintro ⟨rfl, clean⟩
    exact splitLast?_append clean before

end Lists

/-- Joins parts with a separator between them. -/
def joinWith {α : Type} (sep : List α) : List (List α) → List α
  | [] => []
  | [part] => part
  | part :: parts => part ++ sep ++ joinWith sep parts

theorem joinWith_cons {α : Type} (sep part : List α) {parts : List (List α)} (more : parts ≠ []) :
    joinWith sep (part :: parts) = part ++ sep ++ joinWith sep parts := by
  cases parts with
  | nil => exact absurd rfl more
  | cons next parts => rfl

section Everywhere

variable {α : Type} [DecidableEq α] {sep : α}

theorem splitAll_ne_nil (cs : List α) : splitAll sep cs ≠ [] := by
  cases cs with
  | nil => simp [splitAll]
  | cons c rest =>
      unfold splitAll
      split
      · simp
      · split <;> simp

/-- A text without the separator is one part. -/
theorem splitAll_of_not_mem {cs : List α} (clean : sep ∉ cs) : splitAll sep cs = [cs] := by
  induction cs with
  | nil => rfl
  | cons c rest ih =>
      obtain ⟨different, clean⟩ := not_or.mp (mt List.mem_cons.mpr clean)
      rw [splitAll, if_neg (Ne.symm different), ih clean]

/-- The first part is what stands before the first separator. -/
theorem splitAll_append {before : List α} (clean : sep ∉ before) (after : List α) :
    splitAll sep (before ++ sep :: after) = before :: splitAll sep after := by
  induction before with
  | nil => simp [splitAll]
  | cons c before ih =>
      obtain ⟨different, clean⟩ := not_or.mp (mt List.mem_cons.mpr clean)
      rw [List.cons_append, splitAll, if_neg (Ne.symm different), ih clean]

theorem not_mem_of_mem_splitAll {cs part : List α} (member : part ∈ splitAll sep cs) :
    sep ∉ part := by
  induction cs generalizing part with
  | nil =>
      rw [splitAll, List.mem_singleton] at member
      rw [member]
      exact List.not_mem_nil
  | cons c rest ih =>
      unfold splitAll at member
      split at member
      · rcases List.mem_cons.mp member with rfl | member
        · exact List.not_mem_nil
        · exact ih member
      · rename_i different
        split at member
        · rename_i first parts split
          rcases List.mem_cons.mp member with rfl | member
          · exact List.not_mem_cons_of_ne_of_not_mem (Ne.symm different)
              (ih (split ▸ List.mem_cons_self ..))
          · exact ih (split ▸ List.mem_cons_of_mem _ member)
        · rename_i none
          exact absurd none (splitAll_ne_nil rest)

/-- Joining the parts of a text gives the text. -/
theorem joinWith_splitAll (cs : List α) : joinWith [sep] (splitAll sep cs) = cs := by
  induction cs with
  | nil => rfl
  | cons c rest ih =>
      unfold splitAll
      split
      · rename_i same
        rw [joinWith_cons _ _ (splitAll_ne_nil rest), ih, same]
        rfl
      · split
        · rename_i first parts split
          rw [split] at ih
          cases parts with
          | nil => exact congrArg (c :: ·) ih
          | cons next parts => exact congrArg (c :: ·) ih
        · rename_i none
          exact absurd none (splitAll_ne_nil rest)

/-- Cutting a text that was joined from parts without separators gives the parts. -/
theorem splitAll_joinWith {parts : List (List α)} (some : parts ≠ [])
    (clean : ∀ part ∈ parts, sep ∉ part) : splitAll sep (joinWith [sep] parts) = parts := by
  induction parts with
  | nil => exact absurd rfl some
  | cons part parts ih =>
      obtain ⟨first, others⟩ := List.forall_mem_cons.mp clean
      cases parts with
      | nil => exact splitAll_of_not_mem first
      | cons next parts =>
          rw [joinWith_cons _ _ (List.cons_ne_nil _ _), List.append_assoc, List.singleton_append,
            splitAll_append first, ih (List.cons_ne_nil _ _) others]

omit [DecidableEq α] in
/-- What is in a joined text, apart from separators, is in one of its parts. -/
theorem mem_joinWith {c : α} (other : c ≠ sep) {parts : List (List α)} :
    c ∈ joinWith [sep] parts ↔ ∃ part ∈ parts, c ∈ part := by
  induction parts with
  | nil => simp [joinWith]
  | cons part parts ih =>
      cases parts with
      | nil => simp [joinWith]
      | cons next parts =>
          rw [joinWith_cons _ _ (List.cons_ne_nil _ _), List.mem_append, ih]
          simp [other]

end Everywhere

end Interceptor.Text

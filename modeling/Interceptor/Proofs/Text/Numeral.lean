/-
# Interceptor.Proofs.Text.Numeral — the texts that are read as a number

A number is read one digit at a time, and refused as soon as it passes its bound. The
order in which things are noticed does not matter to which texts are accepted: those
that are digits all through, at least one of them and perhaps behind a plus sign, and
whose value is within the bound (`Numeral`). The value of a text never falls when a
digit is put behind it, so a number that has passed the bound stays past it.

* `readDigits_eq_ok_iff`: digits that are read onto a value;
* `read_eq_ok_iff`, `readPort?_eq_some_iff`: which texts are numbers, and which number each is;
* `numeral_toDigits`: a number that is written out is among the texts for it.
-/
import Interceptor.Text.Unsigned

namespace Interceptor.Text.Unsigned

set_option autoImplicit false

/-- The texts for a number: decimal digits, leading zeros allowed, perhaps behind a plus sign. -/
inductive Numeral : List Char → Nat → Prop
  | plain {digits : List Char} (some : digits ≠ []) (decimal : ∀ c ∈ digits, c.isDigit) :
      Numeral digits (Nat.ofDigitChars 10 digits 0)
  | signed {digits : List Char} (some : digits ≠ []) (decimal : ∀ c ∈ digits, c.isDigit) :
      Numeral ('+' :: digits) (Nat.ofDigitChars 10 digits 0)

theorem digit?_eq (c : Char) :
    digit? c = if c.isDigit then some (c.toNat - '0'.toNat) else none := by
  have same : ('0' ≤ c ∧ c ≤ '9') ↔ c.isDigit = true := by
    simp only [Char.isDigit, Char.le_def, Bool.and_eq_true, decide_eq_true_eq]
  unfold digit?
  simp only [same]

theorem le_ofDigitChars (cs : List Char) (value : Nat) : value ≤ Nat.ofDigitChars 10 cs value := by
  rw [Nat.ofDigitChars_eq_ofDigitChars_zero]
  have scaled : 1 * value ≤ 10 ^ cs.length * value :=
    Nat.mul_le_mul_right value (Nat.pow_pos (by decide))
  omega

/-- Digits are read onto a value if they are digits all through and stay within the bound. -/
theorem readDigits_eq_ok_iff {bound value n : Nat} {cs : List Char} (within : value ≤ bound) :
    readDigits bound value cs = .ok n ↔
      (∀ c ∈ cs, c.isDigit) ∧ Nat.ofDigitChars 10 cs value = n ∧ n ≤ bound := by
  induction cs generalizing value with
  | nil =>
      simp only [readDigits, Except.ok.injEq, List.not_mem_nil, false_implies, implies_true,
        Nat.ofDigitChars_nil, true_and]
      constructor
      · rintro rfl
        exact ⟨rfl, within⟩
      · exact And.left
  | cons c rest ih =>
      rw [readDigits, digit?_eq, List.forall_mem_cons, Nat.ofDigitChars_cons, Nat.mul_comm 10 value]
      by_cases digit : c.isDigit
      · simp only [digit, if_true, true_and]
        by_cases small : value * 10 + (c.toNat - '0'.toNat) ≤ bound
        · rw [if_pos small]
          exact ih small
        · -- the digits behind it do not bring it back
          rw [if_neg small]
          have grows := le_ofDigitChars rest (value * 10 + (c.toNat - '0'.toNat))
          simp only [reduceCtorEq, false_iff, not_and]
          intro _ whole
          omega
      · simp [digit]

/-- Which texts are numbers. -/
theorem read_eq_ok_iff {bound n : Nat} {cs : List Char} :
    read bound cs = .ok n ↔ Numeral cs n ∧ n ≤ bound := by
  constructor
  · intro taken
    unfold read at taken
    split at taken
    · exact nomatch taken
    · exact nomatch taken
    · rename_i digits lone
      obtain ⟨decimal, rfl, small⟩ := (readDigits_eq_ok_iff (Nat.zero_le bound)).mp taken
      have some : digits ≠ [] := fun none => lone (none ▸ rfl)
      exact ⟨.signed some decimal, small⟩
    · rename_i some _ _
      obtain ⟨decimal, rfl, small⟩ := (readDigits_eq_ok_iff (Nat.zero_le bound)).mp taken
      exact ⟨.plain some decimal, small⟩
  · rintro ⟨numeral, small⟩
    cases numeral with
    | @plain digits some decimal =>
        have unsigned : ∀ rest, cs ≠ '+' :: rest := by
          rintro rest rfl
          exact absurd (decimal '+' List.mem_cons_self) (by decide)
        unfold read
        split
        · exact absurd rfl some
        · exact absurd rfl (unsigned [])
        · exact absurd rfl (unsigned _)
        · exact (readDigits_eq_ok_iff (Nat.zero_le bound)).mpr ⟨decimal, rfl, small⟩
    | @signed digits some decimal =>
        unfold read
        split
        · rename_i same
          exact nomatch same
        · rename_i same
          exact absurd (List.cons.inj same).2 some
        · rename_i same
          obtain rfl := (List.cons.inj same).2
          exact (readDigits_eq_ok_iff (Nat.zero_le bound)).mpr ⟨decimal, rfl, small⟩
        · rename_i signless
          exact absurd rfl (signless digits)

/-- Which texts are port numbers. -/
theorem readPort?_eq_some_iff {n : Nat} {cs : List Char} :
    readPort? cs = some n ↔ Numeral cs n ∧ n ≤ portBound := by
  rw [← read_eq_ok_iff, readPort?]
  cases read portBound cs <;> simp [Except.toOption]

theorem Numeral.ne_nil {cs : List Char} {n : Nat} (numeral : Numeral cs n) : cs ≠ [] := by
  cases numeral with
  | plain some decimal => exact some
  | signed some decimal => exact List.cons_ne_nil _ _

/-- Nothing but digits and a sign is in the text of a number. -/
theorem Numeral.not_mem {cs : List Char} {n : Nat} (numeral : Numeral cs n) {c : Char}
    (other : c.isDigit = false) (unsigned : c ≠ '+') : c ∉ cs := by
  intro member
  cases numeral with
  | plain some decimal => exact absurd (decimal c member) (by rw [other]; decide)
  | signed some decimal =>
      have behind := (List.mem_cons.mp member).resolve_left unsigned
      exact absurd (decimal c behind) (by rw [other]; decide)

/-- A text is for one number. -/
theorem Numeral.unique {cs : List Char} {n m : Nat} (first : Numeral cs n) (second : Numeral cs m) :
    n = m := by
  have one := read_eq_ok_iff.mpr ⟨first, Nat.le_max_left n m⟩
  have two := read_eq_ok_iff.mpr ⟨second, Nat.le_max_right n m⟩
  exact Except.ok.inj (one.symm.trans two)

/-- A number that is written out is read back. -/
theorem numeral_toDigits (n : Nat) : Numeral (toDigits n) n := by
  have decimal : ∀ c ∈ toDigits n, c.isDigit := fun c member =>
    Nat.isDigit_of_mem_toDigits (by decide) (by decide) member
  have value : Nat.ofDigitChars 10 (toDigits n) 0 = n := Nat.ofDigitChars_ten_toDigits
  have numeral : Numeral (toDigits n) (Nat.ofDigitChars 10 (toDigits n) 0) :=
    .plain Nat.toDigits_ne_nil decimal
  rwa [value] at numeral

end Interceptor.Text.Unsigned

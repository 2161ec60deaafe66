/-
# Interceptor.Text.Blank — blank characters of every script

Blank characters separate words or lines: spaces of every width, tabs, line
feeds and their kin. `trim` takes them away from both ends of a text.
-/

namespace Interceptor.Text

set_option autoImplicit false

/-- Whether a character is blank. -/
def isBlank (c : Char) : Bool :=
  [(0x09, 0x0d), (0x20, 0x20), (0x85, 0x85), (0xa0, 0xa0), (0x1680, 0x1680), (0x2000, 0x200a),
   (0x2028, 0x2029), (0x202f, 0x202f), (0x205f, 0x205f), (0x3000, 0x3000)].any
    fun (first, last) => first ≤ c.toNat && c.toNat ≤ last

/-- A text without the blank characters at its ends. -/
def trim (cs : List Char) : List Char :=
  ((cs.dropWhile isBlank).reverse.dropWhile isBlank).reverse

/-- The four characters that core calls whitespace are blank. -/
theorem isBlank_of_isWhitespace {c : Char} (h : c.isWhitespace = true) : isBlank c = true := by
  simp only [Char.isWhitespace, Bool.or_eq_true, decide_eq_true_eq] at h
  rcases h with ((h | h) | h) | h <;> subst h <;> decide

end Interceptor.Text

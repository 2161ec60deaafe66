/-
# Interceptor.Proofs.Certificate.KeyReadBack — a private key is read back

A key in its general form is values inside values: what identifies its algorithm, and a field with the
secret number beside the public point. `PrivateKey.decode?_encode`: the key of every secret number
of the curve is read back from what is written of it. The reader compares the point with the one that
belongs to the number, so nothing need be known of the curve but how long its points are.

`Der.length_value_le` bounds what a header adds, and `ofBytes_fixedBytes` reads a number of a fixed
size.
-/
import Interceptor.Proofs.Certificate.Armour
import Interceptor.Certificate.PrivateKey

namespace Interceptor.Certificate

set_option autoImplicit false

/-! ## Lengths -/

namespace Der

theorem length_lengthBytes_le {n : Nat} (h : n < 1 <<< 64) : (lengthBytes n).length ≤ 9 := by
  by_cases short : n < 128
  · simp [lengthBytes, short]
  · have log : n.log2 < 64 := (Nat.log2_lt (by omega)).2 (by simpa using h)
    have digits := length_digits_le (n.log2 / 8 + 1) n
    rw [lengthBytes, if_neg short, natBytes]
    simp only [List.length_cons]
    omega

theorem length_value_le (tag : UInt8) {content : List UInt8} (h : content.length < 1 <<< 64) :
    (value tag content).length ≤ content.length + 10 := by
  have lengths := length_lengthBytes_le h
  rw [value, List.cons_append, List.length_cons, List.length_append]
  omega

theorem length_fixedBytes (size n : Nat) : (fixedBytes size n).length = size := by
  induction size generalizing n with
  | zero => rfl
  | succ size ih => rw [fixedBytes, List.length_append, ih, List.length_singleton]

/-- A number that fits is read back. -/
theorem ofBytes_fixedBytes {size n : Nat} (fits : n < Nat.pow 256 size) : ofBytes (fixedBytes size n) = n := by
  induction size generalizing n with
  | zero =>
      simp at fits
      subst fits
      rfl
  | succ size ih =>
      have rest : n / 256 < Nat.pow 256 size := by
        rw [Nat.div_lt_iff_lt_mul (by decide)]
        simpa [Nat.pow_succ] using fits
      rw [fixedBytes, ofBytes_append, ih rest]
      simp
      omega

end Der

open Der

theorem Curve.length_publicBytes_le (curve : Curve) (secret : Nat) :
    (curve.publicBytes secret).length ≤ 1 + 2 * curve.size := by
  unfold publicBytes
  split
  · simp only [pointBytes, List.cons_append, List.length_cons, List.length_append, length_fixedBytes]
    omega
  · exact Nat.zero_le _

namespace PrivateKey

/-- The field of a key on the curve. -/
def curveField (secret : Nat) : List UInt8 :=
  Der.sequence [integer 1, value tagOctets (fixedBytes 32 secret),
      value (tagField 1) (bits (Curve.p256.publicBytes secret))]

/-! ## Short values -/

section Short

variable {content : List UInt8} (short : content.length < 1000) (tag : UInt8)

include short

theorem expect?_short (rest : List UInt8) : expect? tag (value tag content ++ rest) = some (content, rest) :=
  expect?_value tag content rest (Nat.lt_trans short (by decide))

theorem expect?_short_last : expect? tag (value tag content) = some (content, []) := by
  have alone := expect?_short short tag []
  rwa [List.append_nil] at alone

theorem length_short_le : (value tag content).length ≤ content.length + 10 :=
  length_value_le tag (Nat.lt_trans short (by decide))

end Short

/-! ## The key of a secret number -/

theorem length_bits (secret : Nat) : (bits (Curve.p256.publicBytes secret)).length ≤ 76 := by
  have point := Curve.p256.length_publicBytes_le secret
  have size : Curve.p256.size = 32 := rfl
  have inner : (0 :: Curve.p256.publicBytes secret).length ≤ 66 := by
    rw [List.length_cons]
    omega
  have outer := length_short_le (Nat.lt_of_le_of_lt inner (by decide)) tagBits
  rw [bits]
  omega

theorem length_fields (secret : Nat) : (integer 1 ++ (value tagOctets (fixedBytes 32 secret) ++
    value (tagField 1) (bits (Curve.p256.publicBytes secret)))).length ≤ 139 := by
  have wrapped := length_bits secret
  have octets : (fixedBytes 32 secret).length = 32 := length_fixedBytes 32 secret
  have first := length_short_le (show (integerContent 1).length < 1000 by decide) tagInteger
  have second := length_short_le (show (fixedBytes 32 secret).length < 1000 by omega) tagOctets
  have third := length_short_le (Nat.lt_of_le_of_lt wrapped (by decide)) (tagField 1)
  have one : (integerContent 1).length = 1 := by decide
  rw [integer, List.length_append, List.length_append]
  omega

section Key

variable {secret : Nat} (sound : Curve.p256.isSecret secret = true)

include sound

theorem curveSecret?_curveField (curveId : List UInt8) :
    curveSecret? .p256 curveId (curveField secret) = some secret := by
  have small : secret < Nat.pow 256 32 := by
    simp only [Curve.isSecret, Bool.and_eq_true, decide_eq_true_eq] at sound
    exact Nat.lt_trans sound.2 (by decide)
  have whole := Nat.lt_of_le_of_lt (length_fields secret) (show 139 < 1000 by decide)
  have number : (integerContent 1).length < 1000 := by decide
  have octets : (fixedBytes 32 secret).length < 1000 := by rw [length_fixedBytes]; decide
  have wrapped := Nat.lt_of_le_of_lt (length_bits secret) (show 76 < 1000 by decide)
  have inner : (0 :: Curve.p256.publicBytes secret).length < 1000 := by
    have point := Curve.p256.length_publicBytes_le secret
    have size : Curve.p256.size = 32 := rfl
    rw [List.length_cons]
    omega
  -- the parameters are not there: what follows has the tag of the point
  have none : ∀ content, optional? (tagField 0) (value (tagField 1) content) =
      some (none, value (tagField 1) content) := fun content => rfl
  unfold integer bits at whole
  unfold bits at wrapped
  simp only [curveSecret?, curveField, Der.sequence, integer, bits, List.flatten_cons, List.flatten_nil,
    List.append_nil, expect?_short_last whole, expect?_short number, expect?_short octets, none,
    expect?_short_last wrapped, expect?_short_last inner, bind, Option.bind, bitsOf?,
    integerOf?_integerContent, length_fixedBytes, ofBytes_fixedBytes small]
  exact if_pos ⟨rfl, rfl, rfl, trivial, rfl, rfl, sound, trivial⟩

/-- **The key of a secret number is read back.** -/
theorem decode?_encode : decode? (encode (.ofSecret secret)) = some (.signing (.ofSecret secret)) := by
  have inner := length_fields secret
  have fieldEq : curveField secret = value tagSequence (integer 1 ++ (value tagOctets (fixedBytes 32 secret) ++
      value (tagField 1) (bits (Curve.p256.publicBytes secret)))) := by
    simp only [curveField, Der.sequence, List.flatten_cons, List.flatten_nil, List.append_nil]
  have field : (curveField secret).length ≤ 149 := by
    have outer := length_short_le (Nat.lt_of_le_of_lt inner (by decide)) tagSequence
    rw [fieldEq]
    omega
  have number : (integerContent 0).length < 1000 := by decide
  have identifier : KeyAlgorithm.p256Identifier.length < 1000 := by decide
  have fieldShort : (curveField secret).length < 1000 := Nat.lt_of_le_of_lt field (by decide)
  have whole : (value tagInteger (integerContent 0) ++ (value tagSequence KeyAlgorithm.p256Identifier ++
      value tagOctets (curveField secret))).length < 1000 := by
    have first := length_short_le number tagInteger
    have second := length_short_le identifier tagSequence
    have third := length_short_le fieldShort tagOctets
    have zero : (integerContent 0).length ≤ 1 := by decide
    have kind : KeyAlgorithm.p256Identifier.length = 19 := by decide
    rw [List.length_append, List.length_append]
    omega
  have encoded : encode (.ofSecret secret) = value tagSequence (value tagInteger (integerContent 0) ++
      (value tagSequence KeyAlgorithm.p256Identifier ++ value tagOctets (curveField secret))) := by
    simp only [encode, KeyPair.ofSecret, curveField, Der.sequence, integer, List.flatten_cons, List.flatten_nil,
      List.append_nil]
  have nothing : optional? (tagField 0) [] = some (none, []) := rfl
  rw [encoded, decode?]
  simp only [expect?_short_last whole, expect?_short number, expect?_short identifier,
    expect?_short_last fieldShort, nothing, integerOf?_integerContent, bind, Option.bind, List.isEmpty_nil, if_true]
  have kind : KeyAlgorithm.ofIdentifier KeyAlgorithm.p256Identifier = .p256 := if_pos rfl
  simp only [ofField?, kind, curveSecret?_curveField sound, bind, Option.bind, pure]

end Key

end PrivateKey

end Interceptor.Certificate

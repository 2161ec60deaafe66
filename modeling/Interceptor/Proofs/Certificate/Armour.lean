/-
# Interceptor.Proofs.Certificate.Armour — armoured text is read back

Certificates and keys are written as sections of base64, and read by two readers that
share no rule. Both read what is written, whatever it holds:

* `Base64.decode_encode`, `Base64.decodeLoose_of_filter`: base64, exactly and with blanks in it;
* `Pem.firstBlock_armour`: the one reader takes the content of any section;
* `Pem.firstCertificate?_armour`, `Pem.firstCertificate?_armour_key`: the other one takes that of a
  certificate, and passes over a key.

`Base64.Encodes` goes through an encoding group by group, as it is read. In armoured text no
line of base64 begins with a dash, so none is taken for a mark (`Pem.scan_wrap`), and no line is
empty, so nothing is taken for headers (`Pem.splitHeaders_wrap`).
-/
import Interceptor.Proofs.Certificate.MixedRoot

namespace Interceptor.Certificate

set_option autoImplicit false

namespace Base64

/-! ## Symbols -/

/-- A symbol of an encoding: a digit or a padding mark. -/
inductive IsSymbol : UInt8 → Prop
  | digit {n : Nat} (small : n < 64) : IsSymbol (digit n)
  | pad : IsSymbol pad

/-- What holds of all digits and of the padding mark holds of every symbol. -/
theorem IsSymbol.holds {P : UInt8 → Prop} {c : UInt8} (symbol : IsSymbol c)
    (digits : ∀ n : Fin 64, P (Base64.digit n)) (padding : P Base64.pad) : P c := by
  cases symbol with
  | digit small => exact digits ⟨_, small⟩
  | pad => exact padding

@[simp] theorem value?_digit {n : Nat} (small : n < 64) : value? (digit n) = some n := by
  have each : ∀ n : Fin 64, value? (digit n) = some n.val := by decide
  exact each ⟨n, small⟩

@[simp] theorem digit_ne_pad {n : Nat} (small : n < 64) : digit n ≠ pad := by
  have each : ∀ n : Fin 64, digit n ≠ pad := by decide
  exact each ⟨n, small⟩

@[simp] theorem symbol_digit {n : Nat} (small : n < 64) : symbol (digit n) = .ok (some n) := by
  rw [symbol, if_neg (digit_ne_pad small), value?_digit small]

theorem IsSymbol.not_isBlank {c : UInt8} (symbol : IsSymbol c) : isBlank c = false := by
  apply symbol.holds (P := fun c => isBlank c = false)
  · decide
  · decide

/-! ## Encodings -/

/-- A text that is the encoding of bytes, group by group. -/
inductive Encodes : List UInt8 → List UInt8 → Prop
  | nothing : Encodes [] []
  | one {w x : Nat} (first : w < 64) (second : x < 64) (clear : x % 16 = 0) :
      Encodes [digit w, digit x, pad, pad] ((bytesOf (pack w x 0 0)).take 1)
  | two {w x y : Nat} (first : w < 64) (second : x < 64) (third : y < 64) (clear : y % 4 = 0) :
      Encodes [digit w, digit x, digit y, pad] ((bytesOf (pack w x y 0)).take 2)
  | group {w x y z : Nat} {text bytes : List UInt8} (first : w < 64) (second : x < 64) (third : y < 64)
      (fourth : z < 64) (others : Encodes text bytes) :
      Encodes (digit w :: digit x :: digit y :: digit z :: text) (bytesOf (pack w x y z) ++ bytes)

theorem bytesOf_word (a b c : UInt8) : bytesOf ((a.toNat * 256 + b.toNat) * 256 + c.toNat) = [a, b, c] := by
  have := a.toNat_lt
  have := b.toNat_lt
  have := c.toNat_lt
  have first : ((a.toNat * 256 + b.toNat) * 256 + c.toNat) / 65536 = a.toNat := by omega
  have second : ((a.toNat * 256 + b.toNat) * 256 + c.toNat) / 256 % 256 = b.toNat := by omega
  have third : ((a.toNat * 256 + b.toNat) * 256 + c.toNat) % 256 = c.toNat := by omega
  rw [bytesOf, first, second, third, UInt8.ofNat_toNat, UInt8.ofNat_toNat, UInt8.ofNat_toNat]

/-- The digits of a word make it up. -/
theorem pack_digits (w : Nat) : pack (w / 262144) (w / 4096 % 64) (w / 64 % 64) (w % 64) = w := by
  unfold pack
  omega

section Words

variable {w : Nat} (bound : w < 16777216)

include bound

theorem Encodes.ofWord {text bytes : List UInt8} (others : Encodes text bytes) :
    Encodes (digit (w / 262144) :: digit (w / 4096 % 64) :: digit (w / 64 % 64) :: digit (w % 64) :: text)
      (bytesOf w ++ bytes) := by
  have grouped := Encodes.group (Nat.div_lt_of_lt_mul bound : w / 262144 < 64)
    (Nat.mod_lt (w / 4096) (by decide)) (Nat.mod_lt (w / 64) (by decide)) (Nat.mod_lt w (by decide)) others
  rwa [pack_digits] at grouped

theorem Encodes.ofWord_two (clear : w % 256 = 0) :
    Encodes [digit (w / 262144), digit (w / 4096 % 64), digit (w / 64 % 64), pad] ((bytesOf w).take 2) := by
  have grouped := Encodes.two (Nat.div_lt_of_lt_mul bound : w / 262144 < 64)
    (Nat.mod_lt (w / 4096) (by decide)) (Nat.mod_lt (w / 64) (by decide)) (by omega)
  have last : w % 64 = 0 := by omega
  rwa [← last, pack_digits] at grouped

theorem Encodes.ofWord_one (clear : w % 65536 = 0) :
    Encodes [digit (w / 262144), digit (w / 4096 % 64), pad, pad] ((bytesOf w).take 1) := by
  have grouped := Encodes.one (Nat.div_lt_of_lt_mul bound : w / 262144 < 64)
    (Nat.mod_lt (w / 4096) (by decide)) (by omega)
  have third : w / 64 % 64 = 0 := by omega
  have last : w % 64 = 0 := by omega
  have packed := pack_digits w
  rw [third, last] at packed
  rwa [packed] at grouped

end Words

/-- What is written is an encoding. -/
theorem encodes_encode (bytes : List UInt8) : Encodes (encode bytes) bytes := by
  induction bytes using encode.induct with
  | case1 a b c rest ih =>
      have bound : (a.toNat * 256 + b.toNat) * 256 + c.toNat < 16777216 := by
        have := a.toNat_lt
        have := b.toNat_lt
        have := c.toNat_lt
        omega
      have written := Encodes.ofWord bound ih
      rwa [bytesOf_word] at written
  | case2 a b =>
      have bound : (a.toNat * 256 + b.toNat) * 256 < 16777216 := by
        have := a.toNat_lt
        have := b.toNat_lt
        omega
      have written := Encodes.ofWord_two bound (by omega)
      have bytes := bytesOf_word a b 0
      rw [show (0 : UInt8).toNat = 0 from rfl, Nat.add_zero] at bytes
      rwa [bytes] at written
  | case3 a =>
      have bound : a.toNat * 65536 < 16777216 := by
        have := a.toNat_lt
        omega
      have written := Encodes.ofWord_one bound (by omega)
      have bytes := bytesOf_word a 0 0
      rw [show (a.toNat * 256 + (0 : UInt8).toNat) * 256 + (0 : UInt8).toNat = a.toNat * 65536 by
        rw [show (0 : UInt8).toNat = 0 from rfl]; omega] at bytes
      rwa [bytes] at written
  | case4 => exact .nothing

theorem Encodes.symbols {text bytes : List UInt8} (encodes : Encodes text bytes) : ∀ c ∈ text, IsSymbol c := by
  induction encodes with
  | nothing => exact fun c member => absurd member List.not_mem_nil
  | one first second clear => simp [IsSymbol.digit, IsSymbol.pad, first, second]
  | two first second third clear => simp [IsSymbol.digit, IsSymbol.pad, first, second, third]
  | group first second third fourth others ih =>
      simpa [IsSymbol.digit, first, second, third, fourth] using ih

theorem encode_symbols (bytes : List UInt8) : ∀ c ∈ encode bytes, IsSymbol c :=
  (encodes_encode bytes).symbols

/-! ## Reading exactly -/

section Last

variable {w x y z : Nat} (first : w < 64) (second : x < 64) (offset : Nat)

include first second

theorem lastValues_one : lastValues offset 0 none [digit w, digit x, pad, pad] = .ok ([w, x], 2) := by
  simp [lastValues, valueAt, first, second, bind, Except.bind, pure, Except.pure]

theorem lastValues_two (third : y < 64) :
    lastValues offset 0 none [digit w, digit x, digit y, pad] = .ok ([w, x, y], 1) := by
  simp [lastValues, valueAt, first, second, third, bind, Except.bind, pure, Except.pure]

theorem lastValues_three (third : y < 64) (fourth : z < 64) :
    lastValues offset 0 none [digit w, digit x, digit y, digit z] = .ok ([w, x, y, z], 0) := by
  simp [lastValues, valueAt, first, second, third, fourth, bind, Except.bind, pure, Except.pure]

end Last

theorem decodeGroups_of_encodes {text bytes : List UInt8} (encodes : Encodes text bytes) (offset : Nat) :
    decodeGroups offset text = .ok bytes := by
  induction encodes generalizing offset with
  | nothing => rfl
  | one first second clear =>
      show decodeLast offset _ = _
      rw [decodeLast, lastValues_one first second]
      simp [clear, bind, Except.bind, pure, Except.pure]
  | two first second third clear =>
      show decodeLast offset _ = _
      rw [decodeLast, lastValues_two first second offset third]
      simp [clear, bind, Except.bind, pure, Except.pure]
  | group first second third fourth others ih =>
      cases others with
      | nothing =>
          show decodeLast offset _ = _
          rw [decodeLast, lastValues_three first second offset third fourth]
          simp [bind, Except.bind, pure, Except.pure]
      | _ =>
          rw [decodeGroups, ih, valueAt, valueAt, valueAt, valueAt, value?_digit first, value?_digit second,
            value?_digit third, value?_digit fourth]
          rfl

theorem Encodes.length_mod {text bytes : List UInt8} (encodes : Encodes text bytes) : text.length % 4 = 0 := by
  induction encodes with
  | group _ _ _ _ _ ih =>
      simp only [List.length_cons]
      omega
  | _ => simp

/-- What is written is read back exactly. -/
theorem decode_encode (bytes : List UInt8) : decode (encode bytes) = .ok bytes := by
  have encodes := encodes_encode bytes
  unfold decode
  split
  · rename_i odd _
    rw [encodes.length_mod] at odd
    cases odd
  · exact decodeGroups_of_encodes encodes 0

/-! ## Reading loosely -/

/-- Blanks do not count. -/
theorem looseFrom_filter (seen : List Symbol) (text : List UInt8) :
    looseFrom seen text = looseFrom seen (text.filter fun c => !isBlank c) := by
  induction text generalizing seen with
  | nil => rfl
  | cons c rest ih =>
      by_cases blank : isBlank c
      · rw [List.filter_cons_of_neg (by simp [blank]), looseFrom, if_pos blank, ih]
      · rw [List.filter_cons_of_pos (by simp [blank]), looseFrom, looseFrom, if_neg blank, if_neg blank]
        simp only [ih]

section Loose

variable {w x y z : Nat} {seen : List Symbol}

theorem looseFrom_digit (small : w < 64) (room : seen.length < 8) (rest : List UInt8) :
    looseFrom seen (digit w :: rest) = looseFrom (seen ++ [some w]) rest := by
  rw [looseFrom, IsSymbol.not_isBlank (.digit small), symbol_digit small]
  simp [room, bind, Except.bind]

theorem looseFrom_pad (room : seen.length < 8) (rest : List UInt8) :
    looseFrom seen (pad :: rest) = looseFrom (seen ++ [none]) rest := by
  rw [looseFrom, IsSymbol.not_isBlank .pad, symbol, if_pos rfl]
  simp [room, bind, Except.bind]

section Group

variable (first : w < 64) (second : x < 64) (third : y < 64) (fourth : z < 64) (room : seen.length ≤ 4)

include first second room

theorem looseFrom_one :
    looseFrom seen [digit w, digit x, pad, pad] = looseFrom (seen ++ [some w, some x, none, none]) [] := by
  rw [looseFrom_digit first (by omega), looseFrom_digit second (by simp; omega), looseFrom_pad (by simp; omega),
    looseFrom_pad (by simp; omega)]
  simp

include third

theorem looseFrom_two :
    looseFrom seen [digit w, digit x, digit y, pad] = looseFrom (seen ++ [some w, some x, some y, none]) [] := by
  rw [looseFrom_digit first (by omega), looseFrom_digit second (by simp; omega),
    looseFrom_digit third (by simp; omega), looseFrom_pad (by simp; omega)]
  simp

include fourth

theorem looseFrom_group (text : List UInt8) :
    looseFrom seen (digit w :: digit x :: digit y :: digit z :: text) =
      looseFrom (seen ++ [some w, some x, some y, some z]) text := by
  rw [looseFrom_digit first (by omega), looseFrom_digit second (by simp; omega),
    looseFrom_digit third (by simp; omega), looseFrom_digit fourth (by simp; omega)]
  simp

end Group

/-- The next digit shows that two groups that are there are not the last. -/
theorem looseFrom_full (small : w < 64) (rest : List UInt8) (a b c d e f g h : Nat) :
    looseFrom [some a, some b, some c, some d, some e, some f, some g, some h] (digit w :: rest) =
      looseGroup [some a, some b, some c, some d]
        (looseGroup [some e, some f, some g, some h] (decodeLoose (digit w :: rest))) := by
  have none : ([] : List Symbol).length < 8 := Nat.zero_lt_succ 7
  have alone : decodeLoose (digit w :: rest) = looseFrom [some w] rest := looseFrom_digit small none rest
  rw [alone, looseFrom, IsSymbol.not_isBlank (.digit small), symbol_digit small]
  simp [bind, Except.bind]

end Loose

theorem looseGroup_ok (a b c d : Nat) (bytes : List UInt8) :
    looseGroup [some a, some b, some c, some d] (.ok bytes) = .ok (bytesOf (pack a b c d) ++ bytes) := rfl

/-- An encoding is read, at the beginning and behind one group or two. -/
theorem looseFrom_of_encodes {text bytes : List UInt8} (encodes : Encodes text bytes) :
    decodeLoose text = .ok bytes ∧
    (∀ a b c d, looseFrom [some a, some b, some c, some d] text = .ok (bytesOf (pack a b c d) ++ bytes)) ∧
    ∀ a b c d e f g h, looseFrom [some a, some b, some c, some d, some e, some f, some g, some h] text =
      .ok (bytesOf (pack a b c d) ++ (bytesOf (pack e f g h) ++ bytes)) := by
  have none : ([] : List Symbol).length ≤ 4 := Nat.zero_le 4
  induction encodes with
  | nothing =>
      refine ⟨rfl, fun a b c d => ?_, fun a b c d e f g h => ?_⟩
      · rw [List.append_nil]
        rfl
      · rw [List.append_nil]
        rfl
  | one first second clear =>
      have alone := looseFrom_one first second none
      refine ⟨alone, fun a b c d => looseFrom_one first second (Nat.le_refl _), fun a b c d e f g h => ?_⟩
      rw [looseFrom_full first, decodeLoose, alone]
      rfl
  | two first second third clear =>
      have alone := looseFrom_two first second third none
      refine ⟨alone, fun a b c d => looseFrom_two first second third (Nat.le_refl _),
        fun a b c d e f g h => ?_⟩
      rw [looseFrom_full first, decodeLoose, alone]
      rfl
  | group first second third fourth others ih =>
      obtain ⟨-, behindOne, behindTwo⟩ := ih
      have alone := looseFrom_group first second third fourth none
      refine ⟨(alone _).trans (behindOne _ _ _ _), fun a b c d => ?_, fun a b c d e f g h => ?_⟩
      · exact (looseFrom_group first second third fourth (Nat.le_refl _) _).trans (behindTwo _ _ _ _ _ _ _ _)
      · rw [looseFrom_full first, decodeLoose, alone]
        rw [List.nil_append, behindOne, looseGroup_ok, looseGroup_ok]

/-- What is written is read back, whatever blanks stand in it. -/
theorem decodeLoose_of_filter {text bytes : List UInt8}
    (written : text.filter (fun c => !isBlank c) = encode bytes) : decodeLoose text = .ok bytes := by
  rw [decodeLoose, looseFrom_filter, written]
  exact (looseFrom_of_encodes (encodes_encode bytes)).1

end Base64

namespace Pem

theorem beginMark_eq : beginMark = [45, 45, 45, 45, 45, 66, 69, 71, 73, 78, 32] := by
  have literal := bytes_ofList
  rw [beginMark, literal]
  decide

theorem endMark_eq : endMark = [45, 45, 45, 45, 45, 69, 78, 68, 32] := by
  have literal := bytes_ofList
  rw [endMark, literal]
  decide

theorem dashes_eq : dashes = [45, 45, 45, 45, 45] := by
  have literal := bytes_ofList
  rw [dashes, literal]
  decide

theorem bytes_certificateLabel : bytes certificateLabel = [67, 69, 82, 84, 73, 70, 73, 67, 65, 84, 69] := by
  have literal := bytes_ofList
  rw [certificateLabel, literal]
  decide

theorem bytes_keyLabel : bytes keyLabel = [80, 82, 73, 86, 65, 84, 69, 32, 75, 69, 89] := by
  have literal := bytes_ofList
  rw [keyLabel, literal]
  decide

/-! ## Labels -/

/-- A label that a section can be read under. -/
structure Labels (label : String) : Prop where
  plain : ∀ c ∈ bytes label, c ≠ 10 ∧ c ≠ 13 ∧ c ≠ 45
  ascii : ∀ c ∈ bytes label, c < 128
  some : bytes label ≠ []
  begins : beginLabel? (beginMark ++ bytes label ++ dashes ++ [10]) = Option.some (bytes label)
  known : bytes label ∈ knownLabels

theorem labels_certificate : Labels certificateLabel where
  plain := by simp [bytes_certificateLabel]
  ascii := by simp [bytes_certificateLabel]
  some := by rw [bytes_certificateLabel]; decide
  begins := by rw [bytes_certificateLabel, beginMark_eq, dashes_eq, beginLabel?, beginMark_eq]; decide
  known := List.mem_map_of_mem (by simp)

theorem labels_key : Labels keyLabel where
  plain := by simp [bytes_keyLabel]
  ascii := by simp [bytes_keyLabel]
  some := by rw [bytes_keyLabel]; decide
  begins := by rw [bytes_keyLabel, beginMark_eq, dashes_eq, beginLabel?, beginMark_eq]; decide
  known := List.mem_map_of_mem (by simp)

/-! ## Lines of base64 -/

open Base64 (IsSymbol)

theorem plain_of_symbol {c : UInt8} (symbol : IsSymbol c) : c ≠ 10 ∧ c ≠ 13 ∧ c ≠ 45 := by
  apply symbol.holds (P := fun c => c ≠ 10 ∧ c ≠ 13 ∧ c ≠ 45)
  · decide
  · decide

theorem ascii_of_symbol {c : UInt8} (symbol : IsSymbol c) : c < 128 := by
  apply symbol.holds (P := fun c => c < 128)
  · decide
  · decide

theorem not_isBlank_of_symbol {c : UInt8} (symbol : IsSymbol c) : Text.isBlank (Char.ofUInt8 c) = false := by
  apply symbol.holds (P := fun c => Text.isBlank (Char.ofUInt8 c) = false)
  · decide
  · decide

theorem mem_wrap {width fuel : Nat} {cs : List UInt8} {c : UInt8} (member : c ∈ wrap width fuel cs) :
    c = 10 ∨ c ∈ cs := by
  induction fuel generalizing cs with
  | zero => exact absurd member List.not_mem_nil
  | succ fuel ih =>
      rw [wrap] at member
      split at member
      · exact absurd member List.not_mem_nil
      · rcases List.mem_append.mp member with first | others
        · exact .inr (List.mem_of_mem_take first)
        · rcases List.mem_cons.mp others with rfl | others
          · exact .inl rfl
          · exact (ih others).imp id List.mem_of_mem_drop

/-- Without the ends of lines the symbols are there as they were. -/
theorem filter_wrap {p : UInt8 → Bool} (ends : p 10 = false) {width fuel : Nat} (wide : 0 < width)
    {cs : List UInt8} (enough : cs.length ≤ fuel) (kept : ∀ c ∈ cs, p c = true) :
    (wrap width fuel cs).filter p = cs := by
  induction fuel generalizing cs with
  | zero =>
      obtain rfl := List.length_eq_zero_iff.mp (Nat.le_zero.mp enough)
      rfl
  | succ fuel ih =>
      rw [wrap]
      split
      · rename_i none
        exact (List.isEmpty_iff.mp none).symm
      · rename_i some
        have rest : (cs.drop width).length ≤ fuel := by
          rw [List.length_drop]
          omega
        rw [List.filter_append, List.filter_cons_of_neg (by simp [ends]),
          ih rest fun c member => kept c (List.mem_of_mem_drop member),
          List.filter_eq_self.mpr fun c member => kept c (List.mem_of_mem_take member),
          List.take_append_drop]

/-- The first line, up to the line feed that ends it. -/
theorem lines_cons {front : List UInt8} (plain : ∀ c ∈ front, c ≠ 10 ∧ c ≠ 13) (rest : List UInt8) :
    lines (front ++ 10 :: rest) = (front ++ [10]) :: lines rest := by
  induction front with
  | nil => simp [lines]
  | cons c front ih =>
      obtain ⟨first, others⟩ := List.forall_mem_cons.mp plain
      rw [List.cons_append, lines, if_neg (by simp [first]), ih others]
      rfl

/-- A line that does not begin with a dash is no mark. -/
theorem not_mark {c : UInt8} (plain : c ≠ 45) (line label : List UInt8) :
    beginMark.isPrefixOf (c :: line) = false ∧ endsSection label (c :: line) = false := by
  have differ : ¬ (45 : UInt8) = c := fun same => plain same.symm
  rw [endsSection, beginMark_eq, endMark_eq]
  simp [List.isPrefixOf, differ]

/-- Lines of base64 are gathered. -/
theorem scan_wrap {label : List UInt8} {width : Nat} (wide : 0 < width) (fuel : Nat) {cs : List UInt8}
    (symbols : ∀ c ∈ cs, IsSymbol c) (body rest : List UInt8) :
    scan (some label) body (lines (wrap width fuel cs ++ rest)) =
      scan (some label) (body ++ wrap width fuel cs) (lines rest) := by
  induction fuel generalizing cs body with
  | zero => simp [wrap]
  | succ fuel ih =>
      cases cs with
      | nil => simp [wrap]
      | cons c cs =>
          obtain ⟨width, rfl⟩ := Nat.exists_eq_add_of_lt wide
          have others : ∀ c' ∈ (c :: cs).drop (0 + width + 1), IsSymbol c' := fun c' member =>
            symbols c' (List.mem_of_mem_drop member)
          have plain : ∀ c' ∈ (c :: cs).take (0 + width + 1), c' ≠ 10 ∧ c' ≠ 13 := fun c' member =>
            have plain := plain_of_symbol (symbols c' (List.mem_of_mem_take member))
            ⟨plain.1, plain.2.1⟩
          obtain ⟨noBegin, noEnd⟩ := not_mark (plain_of_symbol (symbols c List.mem_cons_self)).2.2
            (cs.take (0 + width) ++ [10]) label
          rw [wrap, if_neg (by simp), List.append_assoc, List.cons_append, lines_cons plain,
            List.take_succ_cons, List.cons_append, scan, noBegin, noEnd]
          simp only [Bool.false_eq_true, if_false]
          rw [ih others]
          simp

/-! ## Reading line by line -/

/-- A section as its lines stand one behind another. -/
theorem armour_eq (label : String) (content : List UInt8) :
    armour label content = (beginMark ++ bytes label ++ dashes) ++ 10 ::
      (wrap 64 (Base64.encode content).length (Base64.encode content) ++
        ((endMark ++ bytes label ++ dashes) ++ [10])) := by
  simp only [armour, List.append_assoc, List.cons_append]

/-- A line with a mark and a label is one line. -/
theorem plain_mark {label : String} (labels : Labels label) {mark : List UInt8}
    (plain : ∀ c ∈ mark, c ≠ 10 ∧ c ≠ 13) : ∀ c ∈ mark ++ bytes label ++ dashes, c ≠ 10 ∧ c ≠ 13 := by
  intro c member
  have dash : ∀ c ∈ dashes, c ≠ 10 ∧ c ≠ 13 := by simp [dashes_eq]
  rcases List.mem_append.mp member with member | member
  · rcases List.mem_append.mp member with member | member
    · exact plain c member
    · exact ⟨(labels.plain c member).1, (labels.plain c member).2.1⟩
  · exact dash c member

/-- The `END` line is no beginning, and ends the section. -/
theorem end_line (label : List UInt8) :
    beginMark.isPrefixOf (endMark ++ label ++ dashes ++ [10]) = false ∧
      endsSection label (endMark ++ label ++ dashes ++ [10]) = true := by
  constructor
  · rw [beginMark_eq, endMark_eq]
    simp [List.isPrefixOf]
  · exact List.isPrefixOf_iff_prefix.mpr (List.prefix_append _ _)

/-- The base64 of a section, with the ends of its lines, is read. -/
theorem decodeLoose_wrap (content : List UInt8) :
    Base64.decodeLoose (wrap 64 (Base64.encode content).length (Base64.encode content)) = .ok content := by
  apply Base64.decodeLoose_of_filter
  apply filter_wrap rfl (by decide) (Nat.le_refl _)
  intro c member
  rw [(Base64.encode_symbols content c member).not_isBlank]
  rfl

/-- A section is gone through to its end; what comes of it depends on its kind. -/
theorem firstCertificate?_eq {label : String} (labels : Labels label) (content : List UInt8) :
    firstCertificate? (armour label content) =
      if bytes label = bytes certificateLabel then .ok (some content) else .ok none := by
  have begins : beginMark.isPrefixOf (beginMark ++ bytes label ++ dashes ++ [10]) = true := by
    rw [List.append_assoc, List.append_assoc]
    exact List.isPrefixOf_iff_prefix.mpr (List.prefix_append _ _)
  have plain : ∀ c ∈ beginMark, c ≠ 10 ∧ c ≠ 13 := by simp [beginMark_eq]
  have plain' : ∀ c ∈ endMark, c ≠ 10 ∧ c ≠ 13 := by simp [endMark_eq]
  obtain ⟨noBegin, ends⟩ := end_line (bytes label)
  rw [firstCertificate?, armour_eq, lines_cons (plain_mark labels plain), scan, begins, labels.begins]
  simp only [if_true]
  rw [scan_wrap (by decide) _ (Base64.encode_symbols content), lines_cons (plain_mark labels plain'), scan, noBegin, ends]
  simp only [Bool.false_eq_true, if_false, if_true, labels.known, List.nil_append, decodeLoose_wrap]
  rfl

theorem firstCertificate?_armour (content : List UInt8) :
    firstCertificate? (armour certificateLabel content) = .ok (some content) := by
  rw [firstCertificate?_eq labels_certificate, if_pos rfl]

/-- There is no certificate in the text of a key. -/
theorem firstCertificate?_armour_key (content : List UInt8) :
    firstCertificate? (armour keyLabel content) = .ok none := by
  have differ : bytes keyLabel ≠ bytes certificateLabel := by
    rw [bytes_keyLabel, bytes_certificateLabel]
    decide
  rw [firstCertificate?_eq labels_key, if_neg differ]

/-! ## Reading at once -/

/-- A mark of which a part has been seen is found when the rest of it follows. -/
theorem readUntil_mark {mark found : List UInt8} (before rest : List UInt8) {others : List UInt8} (some : others ≠ [])
    (whole : found.reverse ++ others = mark) :
    readUntil mark before found (others ++ rest) = Option.some (before.reverse, rest) := by
  induction others generalizing found with
  | nil => exact absurd rfl some
  | cons c others ih =>
      have next : (c :: found).reverse ++ others = mark := by
        rw [List.reverse_cons, List.append_assoc]
        exact whole
      rw [List.cons_append, readUntil]
      by_cases last : others = []
      · subst last
        rw [List.append_nil] at next
        rw [if_pos next, List.nil_append]
      · have more : (c :: found).reverse ≠ mark := by
          intro same
          rw [← next] at same
          exact last (List.append_right_eq_self.mp same.symm)
        have begun : (c :: found).reverse.isPrefixOf mark = true := by
          rw [← next]
          exact List.isPrefixOf_iff_prefix.mpr (List.prefix_append _ _)
        rw [if_neg more, if_pos begun]
        exact ih last next

/-- Where no mark begins, nothing is found. -/
theorem readUntil_front {first : UInt8} {mark : List UInt8} {front : List UInt8} (apart : ∀ c ∈ front, c ≠ first)
    (before rest : List UInt8) :
    readUntil (first :: mark) before [] (front ++ rest) =
      readUntil (first :: mark) (front.reverse ++ before) [] rest := by
  induction front generalizing before with
  | nil => rfl
  | cons c front ih =>
      obtain ⟨here, others⟩ := List.forall_mem_cons.mp apart
      have other : [c].reverse ≠ first :: mark := fun same => here (List.cons.inj same).1
      have noBegin : ¬ [c].reverse.isPrefixOf (first :: mark) = true := by simp [List.isPrefixOf, here]
      rw [List.cons_append, readUntil]
      simp only [if_neg other, if_neg noBegin]
      rw [ih others]
      simp

/-- A text is cut at a mark that does not begin before. -/
theorem cut?_eq {first : UInt8} {mark front : List UInt8} (apart : ∀ c ∈ front, c ≠ first) (rest : List UInt8) :
    cut? (first :: mark) (front ++ (first :: mark ++ rest)) = some (front, rest) := by
  have found : readUntil (first :: mark) (front.reverse ++ []) [] (first :: mark ++ rest) = _ :=
    readUntil_mark _ rest (List.cons_ne_nil _ _) rfl
  rw [cut?, readUntil_front apart, found, List.append_nil, List.reverse_reverse]

theorem cut?_eq_none {first : UInt8} {mark text : List UInt8} (apart : ∀ c ∈ text, c ≠ first) :
    cut? (first :: mark) text = none := by
  have none : readUntil (first :: mark) [] [] (text ++ []) = _ := readUntil_front apart [] []
  rw [List.append_nil] at none
  exact none

/-- There is no empty line in lines of base64, at their beginning or behind the end of a line. -/
theorem readUntil_wrap {width : Nat} (wide : 0 < width) (fuel : Nat) {cs : List UInt8}
    (symbols : ∀ c ∈ cs, IsSymbol c) (before : List UInt8) :
    readUntil [10, 10] before [] (wrap width fuel cs) = none ∧
      readUntil [10, 10] before [10] (wrap width fuel cs) = none := by
  induction fuel generalizing cs before with
  | zero => exact ⟨rfl, rfl⟩
  | succ fuel ih =>
      cases cs with
      | nil => exact ⟨rfl, rfl⟩
      | cons c cs =>
          obtain ⟨width, rfl⟩ := Nat.exists_eq_add_of_lt wide
          have plain : ∀ c' ∈ c :: cs.take (0 + width), c' ≠ 10 := fun c' member =>
            (plain_of_symbol (symbols c' ((List.take_subset (0 + width + 1) (c :: cs)) member))).1
          have others : ∀ c' ∈ (c :: cs).drop (0 + width + 1), IsSymbol c' := fun c' member =>
            symbols c' (List.mem_of_mem_drop member)
          obtain ⟨here, later⟩ := List.forall_mem_cons.mp plain
          -- the end of a line is followed by lines again
          have ended : ∀ before, readUntil [10, 10] before []
              (10 :: wrap (0 + width + 1) fuel ((c :: cs).drop (0 + width + 1))) = none :=
            fun before => (ih others before).2
          rw [wrap, if_neg (by simp), List.take_succ_cons]
          constructor
          · rw [readUntil_front plain]
            exact ended _
          · have more : [c, 10].reverse ≠ [10, 10] := by simp [here]
            have noBegin : ¬ [c, 10].reverse.isPrefixOf [10, 10] = true := by
              simp [List.isPrefixOf, here]
            rw [List.cons_append, readUntil]
            simp only [if_neg more, if_neg noBegin]
            rw [readUntil_front later]
            exact ended _

/-- Base64 has no headers in front of it. -/
theorem splitHeaders_wrap {width : Nat} (wide : 0 < width) (fuel : Nat) {cs : List UInt8}
    (symbols : ∀ c ∈ cs, IsSymbol c) : splitHeaders (wrap width fuel cs) = ([], wrap width fuel cs) := by
  have noReturn : ∀ c ∈ wrap width fuel cs, c ≠ 13 := by
    intro c member
    rcases mem_wrap member with rfl | member
    · decide
    · exact (plain_of_symbol (symbols c member)).2.1
  rw [splitHeaders, cut?, (readUntil_wrap wide fuel symbols []).1, cut?_eq_none noReturn]
  rfl

/-- Lines of base64 are empty or begin with a symbol. -/
theorem wrap_cases {width : Nat} (wide : 0 < width) (fuel : Nat) (cs : List UInt8) :
    wrap width fuel cs = [] ∨ ∃ c ∈ cs, ∃ rest, wrap width fuel cs = c :: rest := by
  cases fuel with
  | zero => exact .inl rfl
  | succ fuel =>
      cases cs with
      | nil => exact .inl rfl
      | cons c cs =>
          obtain ⟨width, rfl⟩ := Nat.exists_eq_add_of_lt wide
          refine .inr ⟨c, List.mem_cons_self, cs.take (0 + width) ++
            10 :: Pem.wrap (0 + width + 1) fuel ((c :: cs).drop (0 + width + 1)), ?_⟩
          rw [wrap, if_neg (by simp), List.take_succ_cons]
          rfl

/-- Only the line feed behind the `BEGIN` line is skipped. -/
theorem skipBlanks_wrap {width : Nat} (wide : 0 < width) (fuel : Nat) {cs : List UInt8}
    (symbols : ∀ c ∈ cs, IsSymbol c) (rest : List UInt8) :
    skipBlanks (10 :: (wrap width fuel cs ++ (endMark ++ rest))) = wrap width fuel cs ++ (endMark ++ rest) := by
  rcases wrap_cases wide fuel cs with none | ⟨c, member, others, some⟩
  · rw [none, endMark_eq]
    simp [skipBlanks]
  · have visible : decide (c = 9 ∨ c = 10 ∨ c = 13 ∨ c = 32) = false := by
      apply (symbols c member).holds (P := fun c => decide (c = 9 ∨ c = 10 ∨ c = 13 ∨ c = 32) = false)
      · decide
      · decide
    rw [some, skipBlanks, List.dropWhile_cons_of_pos (by decide), List.cons_append,
      List.dropWhile_cons_of_neg (by simp [visible])]

/-- The marks of a section. -/
theorem frame?_armour {label : String} (labels : Labels label) (content : List UInt8) :
    frame? (armour label content) =
      some (bytes label, wrap 64 (Base64.encode content).length (Base64.encode content), bytes label) := by
  have symbols := Base64.encode_symbols content
  have noDash : ∀ c ∈ bytes label, c ≠ 45 := fun c member => (labels.plain c member).2.2
  have noDash' : ∀ c ∈ wrap 64 (Base64.encode content).length (Base64.encode content), c ≠ 45 := by
    intro c member
    rcases mem_wrap member with rfl | member
    · decide
    · exact (plain_of_symbol (symbols c member)).2.2
  have begins : ∀ rest, cut? beginMark (beginMark ++ rest) = some ([], rest) := by
    rw [beginMark_eq]
    exact cut?_eq (fun c member => absurd member List.not_mem_nil)
  have labelled : ∀ rest, cut? dashes (bytes label ++ (dashes ++ rest)) = some (bytes label, rest) := by
    rw [dashes_eq]
    exact cut?_eq noDash
  have ends : ∀ rest, cut? endMark (wrap 64 (Base64.encode content).length (Base64.encode content) ++
      (endMark ++ rest)) = some (wrap 64 (Base64.encode content).length (Base64.encode content), rest) := by
    rw [endMark_eq]
    exact cut?_eq noDash'
  rw [armour_eq]
  simp only [frame?, List.append_assoc, begins, labelled, skipBlanks_wrap (by decide : 0 < 64) _ symbols, ends,
    bind, Option.bind, pure]

/-- **A section is read back at once.** -/
theorem firstBlock_armour {label : String} (labels : Labels label) (content : List UInt8) :
    firstBlock (armour label content) = .ok content := by
  have symbols := Base64.encode_symbols content
  have ascii : ∀ c ∈ wrap 64 (Base64.encode content).length (Base64.encode content), c < 128 := by
    intro c member
    rcases mem_wrap member with rfl | member
    · decide
    · exact ascii_of_symbol (symbols c member)
  have data : withoutBlanks (wrap 64 (Base64.encode content).length (Base64.encode content)) =
      Base64.encode content := by
    rw [withoutBlanks_of_ascii ascii]
    apply filter_wrap (by decide) (by decide) (Nat.le_refl _)
    intro c member
    rw [not_isBlank_of_symbol (symbols c member)]
    rfl
  have some : (bytes label).isEmpty = false := by simp [labels.some]
  have noHeaders : Text.splitAll 10 ([] : List UInt8) = [[]] := rfl
  have read : (Base64.decode (Base64.encode content)).mapError BlockFault.invalidData = .ok content :=
    mapError_eq_ok_iff.mpr (Base64.decode_encode content)
  rw [firstBlock, frame?_armour labels]
  simp only [some, splitHeaders_wrap (by decide : 0 < 64) _ symbols, data, read, noHeaders]
  simp [bind, Except.bind, pure, Except.pure]

/-! ## Sections as texts -/

theorem bytes_text {data : List UInt8} (ascii : ∀ c ∈ data, c < 128) : bytes (text data) = data := by
  have whole := encode_map_ofUInt8 ascii
  rw [← bytes_ofList] at whole
  rw [← whole, text_bytes]

theorem ascii_armour {label : String} (labels : Labels label) (content : List UInt8) :
    ∀ c ∈ armour label content, c < 128 := by
  have marks : ∀ c ∈ beginMark ++ endMark ++ dashes ++ [10], c < 128 := by
    simp [beginMark_eq, endMark_eq, dashes_eq]
  simp only [List.mem_append] at marks
  intro c member
  simp only [armour, List.mem_append, List.mem_cons, List.not_mem_nil, or_false] at member
  rcases member with ((((((opening | named) | dash) | rfl | line) | closing) | named) | dash) | rfl
  · exact marks c (.inl (.inl (.inl opening)))
  · exact labels.ascii c named
  · exact marks c (.inl (.inr dash))
  · decide
  · rcases mem_wrap line with rfl | member
    · decide
    · exact ascii_of_symbol (Base64.encode_symbols content c member)
  · exact marks c (.inl (.inl (.inr closing)))
  · exact labels.ascii c named
  · exact marks c (.inl (.inr dash))
  · decide

/-- The bytes of a section that was made a text. -/
theorem bytes_text_armour {label : String} (labels : Labels label) (content : List UInt8) :
    bytes (text (armour label content)) = armour label content :=
  bytes_text (ascii_armour labels content)

end Pem

end Interceptor.Certificate

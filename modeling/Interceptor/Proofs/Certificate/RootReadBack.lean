/-
# Interceptor.Proofs.Certificate.RootReadBack — a root that is minted is read back

Minting writes a certificate and a key as texts. `Root.ofPem_mint`: whatever the name, the years, the
time and the seed, the two texts are accepted, and what is read from them is the root that was minted:
its name, the key on its certificate and its key pair.

Every field of a certificate is read by a function of its own, and each has its lemma here, with how
long the field may be: a header can say a length of less than `2 ^ 64`, and the name stands in a
certificate twice. `Parts.read?_root` puts them together.

* `Element.readMany_flatMap`: as many items are read as were written;
* `Parts.name?_encode`, `Parts.validity?_encode`, `Parts.key?_encode`, `Parts.extensions?_root`: the
  fields;
* `Parts.issuingName_ofNames`: the name can be issued under;
* `Root.certificateContent_armour_key`: there is no certificate in the text of a key.
-/
import Interceptor.Proofs.Certificate.Calendar
import Interceptor.Proofs.Certificate.KeyReadBack
import Interceptor.Certificate.Parts

namespace Interceptor.Certificate

set_option autoImplicit false

open Der Element

namespace Element

/-! ## Elements -/

section Expect

variable {content : List UInt8} (bound : content.length < 1 <<< 64) (rest : List UInt8)

include bound

theorem expect?_value {number : Nat} {tag : UInt8} (kind : tag.toNat % 32 = number) (short : number ≠ 31) :
    expect? number (value tag content ++ rest) = some (content, rest) := by
  rw [expect?, read?_value tag content rest (kind ▸ short) bound]
  simp [kind]

theorem expect?_sequence : expect? sequenceNumber (value tagSequence content ++ rest) = some (content, rest) :=
  expect?_value bound rest rfl (by decide)

/-- A field with another number is left to what follows. -/
theorem optional?_other {number : Nat} {tag : UInt8} (short : tag.toNat % 32 ≠ 31) (other : tag.toNat % 32 ≠ number) :
    optional? number (value tag content ++ rest) = some (none, value tag content ++ rest) := by
  rw [optional?, if_neg (by simp [value]), read?_value tag content rest short bound]
  simp [other]

theorem oid?_value : oid? (value tagOid content ++ rest) = some (content, rest) := by
  rw [oid?, read?_value tagOid content rest (by decide) bound]
  rfl

end Expect

/-- Bits that fill whole bytes are read, even if there are none. -/
theorem bitsOf?_zero (content : List UInt8) : bitsOf? (0 :: content) = some content := by
  rw [bitsOf?]
  cases last : content.getLast? with
  | none =>
      obtain rfl := List.getLast?_eq_none_iff.mp last
      rfl
  | some byte => exact if_pos (Nat.zero_le _)

theorem bits?_bits {content : List UInt8} (bound : (0 :: content).length < 1 <<< 64) (rest : List UInt8) :
    bits? (Der.bits content ++ rest) = some (content, rest) := by
  rw [bits?, Der.bits, read?_value tagBits _ rest (by decide) bound]
  have number : (tagBits.toNat % 32 = bitsNumber && !decide (tagBits.toNat / 32 % 2 = 1)) = true := rfl
  simp only [bind, Option.bind, number, if_true, bitsOf?_zero, pure]

/-- As many items are read as were written. -/
theorem readMany_flatMap {α β : Type} {item? : List UInt8 → Option (β × List UInt8)} {encode : α → List UInt8}
    {read : α → β} {items : List α} (each : ∀ item ∈ items, ∀ rest, item? (encode item ++ rest) = some (read item, rest))
    (nothing : item? [] = none) {fuel : Nat} (enough : items.length ≤ fuel) :
    readMany item? fuel (items.flatMap encode) = (items.map read, []) := by
  induction items generalizing fuel with
  | nil =>
      cases fuel with
      | zero => rfl
      | succ fuel =>
          rw [List.flatMap_nil, readMany, nothing]
          rfl
  | cons item items ih =>
      obtain ⟨first, others⟩ := List.forall_mem_cons.mp each
      cases fuel with
      | zero => exact absurd enough (Nat.not_succ_le_zero _)
      | succ fuel =>
          rw [List.flatMap_cons, readMany, first]
          simp only [ih others (Nat.le_of_succ_le_succ enough), List.map_cons]

end Element

namespace Parts

/-! ## Names -/

/-- One part of a name, as it is written. -/
def encodeAttribute (a : Attribute) : List UInt8 := Der.sequence [value tagOid a.kind, value a.tag a.content]

/-- A part that is read as it is written. -/
structure Plain (a : Attribute) : Prop where
  kind : a.kind.length < 1000
  tag : a.tag.toNat < 31
  content : a.content.length < 1 <<< 63

section Names

variable {a : Attribute} (plain : Plain a)

include plain

theorem length_parts_le : (value tagOid a.kind ++ value a.tag a.content).length ≤ a.content.length + 1020 := by
  have kind := length_value_le tagOid (Nat.lt_trans plain.kind (by decide))
  have content := length_value_le a.tag (Nat.lt_trans plain.content (by decide))
  have := plain.kind
  rw [List.length_append]
  omega

theorem length_attribute_le : (encodeAttribute a).length ≤ a.content.length + 1030 := by
  have inner := length_parts_le plain
  have bound := plain.content
  have fits : (value tagOid a.kind ++ value a.tag a.content).length < 1 <<< 64 := by omega
  have outer := length_value_le tagSequence fits
  simp only [encodeAttribute, Der.sequence, List.flatten_cons, List.flatten_nil, List.append_nil]
  omega

theorem attribute?_encode (rest : List UInt8) : attribute? (encodeAttribute a ++ rest) = some (a, rest) := by
  have inner := length_parts_le plain
  have bound := plain.content
  have short := plain.tag
  have whole : (value tagOid a.kind ++ value a.tag a.content).length < 1 <<< 64 := by omega
  have kind : a.kind.length < 1 <<< 64 := Nat.lt_trans plain.kind (by decide)
  have content : a.content.length < 1 <<< 64 := Nat.lt_trans bound (by decide)
  have value? := read?_value a.tag a.content [] (by omega) content
  have tag : UInt8.ofNat (a.tag.toNat % 32) = a.tag := by
    rw [Nat.mod_eq_of_lt (by omega), UInt8.ofNat_toNat]
  rw [List.append_nil] at value?
  simp only [attribute?, encodeAttribute, Der.sequence, List.flatten_cons, List.flatten_nil, List.append_nil,
    expect?_sequence whole rest,
    oid?_value kind, value?, tag, bind, Option.bind, pure]

theorem group?_encode (rest : List UInt8) : group? (value tagSet (encodeAttribute a) ++ rest) = some ([a], rest) := by
  have inner := length_attribute_le plain
  have bound := plain.content
  have whole : (encodeAttribute a).length < 1 <<< 64 := by omega
  have one : readMany attribute? (encodeAttribute a).length (encodeAttribute a) = ([a], []) := by
    have some : 1 ≤ (encodeAttribute a).length := by simp [encodeAttribute, Der.sequence, value]
    have each : ∀ item ∈ [a], ∀ rest, attribute? (encodeAttribute item ++ rest) = Option.some (id item, rest) := by
      rintro item member rest
      obtain rfl := List.mem_singleton.mp member
      exact attribute?_encode plain rest
    have many := readMany_flatMap each rfl some
    rwa [List.flatMap_singleton] at many
  simp only [group?, expect?_value whole rest (show tagSet.toNat % 32 = setNumber from rfl) (by decide), one,
    bind, Option.bind]
  rfl

end Names

/-- The groups of a name as they are written, of one part each. -/
def encodeGroups (name : DistinguishedName) : List UInt8 :=
  name.attributes.flatMap fun a => value tagSet (encodeAttribute a)

theorem encode_eq (name : DistinguishedName) : name.encode = value tagSequence (encodeGroups name) := by
  rw [DistinguishedName.encode, Der.sequence, encodeGroups, List.flatMap_def]
  rfl

theorem length_le_groups (attributes : List Attribute) :
    attributes.length ≤ (attributes.flatMap fun a => value tagSet (encodeAttribute a)).length := by
  induction attributes with
  | nil => exact Nat.le_refl _
  | cons a attributes ih =>
      rw [List.flatMap_cons, List.length_append, List.length_cons, value, List.cons_append, List.length_cons]
      omega

theorem name?_encode {name : DistinguishedName} (plain : ∀ a ∈ name.attributes, Plain a)
    (bound : (encodeGroups name).length < 1 <<< 64) (rest : List UInt8) :
    name? (name.encode ++ rest) = some (name.attributes.map fun a => [a], rest) := by
  have enough : name.attributes.length ≤ (encodeGroups name).length := length_le_groups _
  have groups := readMany_flatMap (fun a member rest => group?_encode (plain a member) rest) rfl enough
  rw [encode_eq, name?, expect?_sequence bound rest]
  simp only [encodeGroups, bind, Option.bind, pure] at groups ⊢
  rw [groups]

/-! ## Moments -/

theorem time?_encode {moment : Int} (since : -2592000 ≤ moment) (until_ : moment ≤ lastMoment) (rest : List UInt8) :
    ∃ element, time? (Moment.encode moment ++ rest) = some (element, rest) := by
  obtain ⟨tag, content, written, short, form⟩ := Moment.exists_encode since until_
  have bound : content.length < 1 <<< 64 := Nat.lt_of_le_of_lt short (by decide)
  rcases form with ⟨rfl, form⟩ | ⟨rfl, form⟩
  · refine ⟨⟨utcTimeNumber, false, content⟩, ?_⟩
    rw [written, time?, read?_value _ _ _ (by decide) bound]
    simp only [bind, Option.bind, form]
    rfl
  · refine ⟨⟨generalizedTimeNumber, false, content⟩, ?_⟩
    rw [written, time?, read?_value _ _ _ (by decide) bound]
    simp only [bind, Option.bind, form]
    rfl

theorem length_moment_le {moment : Int} (since : -2592000 ≤ moment) (until_ : moment ≤ lastMoment) :
    (Moment.encode moment).length ≤ 25 := by
  obtain ⟨tag, content, written, short, -⟩ := Moment.exists_encode since until_
  have outer := length_value_le tag (Nat.lt_of_le_of_lt short (by decide))
  rw [written]
  omega

theorem validity?_encode {first last : Int} (since : -2592000 ≤ first) (before : first ≤ lastMoment)
    (since' : -2592000 ≤ last) (before' : last ≤ lastMoment) (rest : List UInt8) :
    ∃ elements, validity? (Der.sequence [Moment.encode first, Moment.encode last] ++ rest) = some (elements, rest) := by
  have length := length_moment_le since before
  have length' := length_moment_le since' before'
  have bound : (Moment.encode first ++ Moment.encode last).length < 1 <<< 64 := by
    rw [List.length_append]
    omega
  obtain ⟨element, read⟩ := time?_encode since before (Moment.encode last)
  obtain ⟨element', read'⟩ := time?_encode since' before' []
  rw [List.append_nil] at read'
  refine ⟨[element, element'], ?_⟩
  simp only [validity?, Der.sequence, List.flatten_cons, List.flatten_nil, List.append_nil,
    expect?_sequence bound rest, read, read',
    bind, Option.bind, pure]

/-! ## Algorithms and keys -/

/-- An identifier without parameters, or with one more value behind the kind of the algorithm. -/
theorem algorithm?_signature (rest : List UInt8) :
    algorithm? (value tagSequence signatureIdentifier ++ rest) = some (signatureIdentifier, rest) := by
  rw [algorithm?, expect?_sequence (by decide) rest]
  rfl

theorem algorithm?_p256 (rest : List UInt8) :
    algorithm? (value tagSequence KeyAlgorithm.p256Identifier ++ rest) = some (KeyAlgorithm.p256Identifier, rest) := by
  rw [algorithm?, expect?_sequence (by decide) rest]
  rfl

theorem length_key_le {point : List UInt8} (short : point.length ≤ 65) :
    (value tagSequence KeyAlgorithm.p256Identifier ++ Der.bits point).length ≤ 105 := by
  have identifier := length_value_le tagSequence (show KeyAlgorithm.p256Identifier.length < 1 <<< 64 by decide)
  have bits := length_value_le tagBits (show (0 :: point).length < 1 <<< 64 by rw [List.length_cons]; omega)
  have kind : KeyAlgorithm.p256Identifier.length = 19 := by decide
  rw [List.length_cons] at bits
  rw [List.length_append, Der.bits]
  omega

theorem key?_encode {point : List UInt8} (short : point.length ≤ 65) (rest : List UInt8) :
    key? (PublicKey.encode ⟨.p256, point⟩ ++ rest) = some (⟨.p256, point⟩, rest) := by
  have inner : (0 :: point).length < 1 <<< 64 := by
    rw [List.length_cons]
    omega
  have whole : (value tagSequence KeyAlgorithm.p256Identifier ++ Der.bits point).length < 1 <<< 64 := by
    have length := length_key_le short
    omega
  have read := bits?_bits inner []
  have kind : keyAlgorithm KeyAlgorithm.p256Identifier = .p256 := by decide
  rw [List.append_nil] at read
  simp only [key?, PublicKey.encode, PublicKey.identifier, Der.sequence, List.flatten_cons, List.flatten_nil,
    List.append_nil, expect?_sequence whole rest,
    algorithm?_p256, read, kind, bind, Option.bind, pure]

/-! ## Extensions -/

/-- The extensions of a root, as they are written. -/
def rootExtensions : List UInt8 :=
  Der.sequence [encodeExtension ExtensionKind.keyUsage true
      (value tagBits (usageBits [.digitalSignature, .keyCertSign, .crlSign])),
    encodeExtension ExtensionKind.constraint true (encodeConstraint ⟨true, some 2⟩)]

theorem extensions?_root : (extensions? (value (tagField 3) rootExtensions)).map
    (·.map (·.kind)) = some [ExtensionKind.keyUsage, ExtensionKind.constraint] := by
  decide +kernel

theorem length_rootExtensions : (value (tagField 3) rootExtensions).length < 100 := by
  decide +kernel

/-- The fields for the identifiers of parties are not there. -/
theorem skipIdentifier?_root {number : Nat} (other : number ≠ 3) :
    skipIdentifier? number (value (tagField 3) rootExtensions) = some (value (tagField 3) rootExtensions) := by
  have nothing : optional? number (value (tagField 3) rootExtensions ++ []) =
      some (none, value (tagField 3) rootExtensions ++ []) :=
    optional?_other (by decide +kernel) [] (by decide) fun same : 3 = number => other same.symm
  rw [List.append_nil] at nothing
  rw [skipIdentifier?, nothing]
  rfl

/-! ## Certificates -/

/-- More bytes than a name can have that goes into a certificate: it stands there twice, and no machine
holds a text of `2 ^ 63` bytes. -/
def textBound : Nat := 1 <<< 62

section Whole

variable {commonName : String} (held : commonName.utf8ByteSize < textBound)

theorem length_toUTF8 (text : String) : text.toUTF8.toList.length = text.utf8ByteSize := by
  rw [Text.toUTF8_toList, Text.utf8ByteSize_eq]

include held

theorem plain_ofNames : ∀ a ∈ (DistinguishedName.ofNames organizationName commonName).attributes, Plain a := by
  have organization : organizationName.toUTF8.toList.length < 1 <<< 63 := by
    rw [length_toUTF8]
    decide
  have common : commonName.toUTF8.toList.length < 1 <<< 63 := by
    rw [length_toUTF8]
    exact Nat.lt_trans held (by decide)
  intro a member
  simp only [DistinguishedName.ofNames, List.mem_cons, List.not_mem_nil, or_false] at member
  rcases member with rfl | rfl
  · exact ⟨(by decide : DistinguishedName.organizationKind.length < 1000),
      (by decide : DistinguishedName.textTag.toNat < 31), organization⟩
  · exact ⟨(by decide : DistinguishedName.commonNameKind.length < 1000),
      (by decide : DistinguishedName.textTag.toNat < 31), common⟩

theorem length_groups_ofNames :
    (encodeGroups (.ofNames organizationName commonName)).length ≤ commonName.utf8ByteSize + 2200 := by
  obtain ⟨first, others⟩ := List.forall_mem_cons.mp (plain_ofNames held)
  obtain ⟨second, -⟩ := List.forall_mem_cons.mp others
  have organization := length_attribute_le first
  have common := length_attribute_le second
  have rift : organizationName.toUTF8.toList.length = 4 := by
    rw [length_toUTF8]
    decide
  rw [rift] at organization
  rw [length_toUTF8] at common
  have bound : textBound = 4611686018427387904 := by decide
  have outer := length_value_le tagSet (Nat.lt_of_le_of_lt organization (by decide))
  have outer' := length_value_le tagSet (Nat.lt_of_le_of_lt common (by omega))
  simp only [encodeGroups, DistinguishedName.ofNames, List.flatMap_cons, List.flatMap_nil, List.append_nil,
    List.length_append]
  omega

end Whole

/-! ## Numbers and signatures -/

theorem length_integer_le {n : Nat} (small : n < 1 <<< 256) : (integer n).length ≤ 43 := by
  have content : (integerContent n).length ≤ 33 := by
    have digits := length_digits_le (n.log2 / 8 + 1) n
    have log : n.log2 ≤ 255 := by
      by_cases zero : n = 0
      · subst zero
        decide
      · exact Nat.le_of_lt_succ ((Nat.log2_lt zero).mpr (by simpa using small))
    rw [integerContent, natBytes]
    split
    · omega
    · rw [List.length_cons]
      omega
  have outer := length_value_le tagInteger (Nat.lt_of_le_of_lt content (by decide))
  rw [integer]
  omega

theorem withMultiple?_small {secret digest k : Nat} {signature : Signature}
    (made : Signature.withMultiple? secret digest k = some signature) :
    signature.r < 1 <<< 256 ∧ signature.s < 1 <<< 256 := by
  have order : Signature.curve.order < 1 <<< 256 := by decide
  have positive : 0 < Signature.curve.order := by decide
  obtain ⟨⟨x, y⟩, -, made⟩ := Option.bind_eq_some_iff.mp made
  simp only at made
  split at made
  · cases made
  · cases made
    exact ⟨Nat.lt_trans (Nat.mod_lt _ positive) order, Nat.lt_trans (Nat.mod_lt _ positive) order⟩

/-- The parts of a signature are no larger than the numbers of the curve. -/
theorem sign_small (secret : Nat) (bytes : List UInt8) :
    (Signature.sign secret bytes).r < 1 <<< 256 ∧ (Signature.sign secret bytes).s < 1 <<< 256 := by
  simp only [Signature.sign]
  cases found : (List.range 8).findSome? fun attempt => Signature.withMultiple? secret
      (ofBytes (Digest.sha256 bytes)) (Signature.multipleFor secret (Digest.sha256 bytes) attempt) with
  | none => exact ⟨by decide, by decide⟩
  | some signature =>
      obtain ⟨attempt, -, made⟩ := List.exists_of_findSome?_eq_some found
      exact withMultiple?_small made

theorem length_signature_le (secret : Nat) (bytes : List UInt8) :
    (0 :: (Signature.sign secret bytes).encode).length ≤ 97 := by
  obtain ⟨r, s⟩ := sign_small secret bytes
  have first := length_integer_le r
  have second := length_integer_le s
  have inner : (integer (Signature.sign secret bytes).r ++ integer (Signature.sign secret bytes).s).length ≤ 86 := by
    rw [List.length_append]
    omega
  have outer := length_value_le tagSequence (Nat.lt_of_le_of_lt inner (by decide))
  simp only [Signature.encode, Der.sequence, List.flatten_cons, List.flatten_nil, List.append_nil, List.length_cons]
  omega

/-- The version, which stands first. -/
theorem version?_root (rest : List UInt8) : Element.optional? 0 (value (tagField 0) (integer 2) ++ rest) =
    some (some (integer 2), rest) := by
  rw [Element.optional?, if_neg (by simp [value]), read?_value _ _ _ (by decide) (by decide)]
  rfl

theorem isVersion_root : isVersion (integer 2) = true := by decide +kernel

theorem serial?_root {serial : Nat} (small : serial < 1 <<< 256) (rest : List UInt8) :
    readWith? 0 (integer serial ++ rest) = some (⟨integerNumber, false, integerContent serial⟩, rest) := by
  have length := length_integer_le small
  have bound : (integerContent serial).length < 1 <<< 64 := by
    rw [integer, value, List.cons_append, List.length_cons, List.length_append] at length
    omega
  exact readWith?_value (by decide) tagInteger _ rest (by decide) bound

section Root

variable {commonName : String} (held : commonName.utf8ByteSize < textBound) {first last : Int}
  (since : -2592000 ≤ first) (before : first ≤ lastMoment) (since' : -2592000 ≤ last) (before' : last ≤ lastMoment)
  {serial : Nat} (small : serial < 1 <<< 256) {point : List UInt8} (short : point.length ≤ 65)

/-- What a root certificate says, field by field. -/
def rootFields (commonName : String) (first last : Int) (serial : Nat) (point : List UInt8) : List UInt8 :=
  value (tagField 0) (integer 2) ++ (integer serial ++ (value tagSequence signatureIdentifier ++
    ((DistinguishedName.ofNames organizationName commonName).encode ++
      (Der.sequence [Moment.encode first, Moment.encode last] ++
        ((DistinguishedName.ofNames organizationName commonName).encode ++
          (PublicKey.encode ⟨.p256, point⟩ ++ value (tagField 3) rootExtensions))))))

include held since before since' before' small short

theorem length_rootFields_le :
    (rootFields commonName first last serial point).length ≤ 2 * commonName.utf8ByteSize + 5000 := by
  have bound : textBound = 4611686018427387904 := by decide
  have groups := length_groups_ofNames held
  have name := length_value_le tagSequence (Nat.lt_of_le_of_lt groups (by omega))
  have number := length_integer_le small
  have moment := length_moment_le since before
  have moment' := length_moment_le since' before'
  have moments : (Moment.encode first ++ Moment.encode last).length ≤ 50 := by
    rw [List.length_append]
    omega
  have validity := length_value_le tagSequence (Nat.lt_of_le_of_lt moments (by decide))
  have key := length_value_le tagSequence (Nat.lt_of_le_of_lt (length_key_le short) (by decide))
  have keyInner := length_key_le short
  have extensions := length_rootExtensions
  have version : (value (tagField 0) (integer 2)).length = 5 := by decide
  have algorithm : (value tagSequence signatureIdentifier).length = 12 := by decide
  simp only [rootFields, encode_eq, Der.sequence, PublicKey.encode, PublicKey.identifier, List.flatten_cons,
    List.flatten_nil, List.append_nil, List.length_append] at *
  omega

/-- **A root certificate is taken apart.** -/
theorem read?_root {signature : List UInt8} (signed : (0 :: signature).length ≤ 97) :
    ∃ parts, read? (Der.sequence [value tagSequence (rootFields commonName first last serial point),
        value tagSequence signatureIdentifier, Der.bits signature]) = some parts ∧
      parts.subject = (DistinguishedName.ofNames organizationName commonName).attributes.map (fun a => [a]) ∧
      parts.key = ⟨.p256, point⟩ ∧
      parts.extensions.map (·.kind) = [ExtensionKind.keyUsage, ExtensionKind.constraint] := by
  have bound : textBound = 4611686018427387904 := by decide
  have length := length_rootFields_le held since before since' before' small short
  have fields : (rootFields commonName first last serial point).length < 1 <<< 64 := by omega
  have body := length_value_le tagSequence fields
  have algorithm : (value tagSequence signatureIdentifier).length = 12 := by decide
  have bits := length_value_le tagBits (Nat.lt_of_le_of_lt signed (by decide))
  have whole : (value tagSequence (rootFields commonName first last serial point) ++
      (value tagSequence signatureIdentifier ++ Der.bits signature)).length < 1 <<< 64 := by
    rw [List.length_append, List.length_append, Der.bits]
    omega
  have names := name?_encode (plain_ofNames held) (Nat.lt_of_le_of_lt (length_groups_ofNames held) (by omega))
  obtain ⟨moments, validity⟩ := validity?_encode since before since' before'
    ((DistinguishedName.ofNames organizationName commonName).encode ++
      (PublicKey.encode ⟨.p256, point⟩ ++ value (tagField 3) rootExtensions))
  obtain ⟨extensions, read, kinds⟩ := Option.map_eq_some_iff.mp extensions?_root
  have one : (1 : Nat) ≠ 3 := by decide
  have two : (2 : Nat) ≠ 3 := by decide
  have signing := bits?_bits (Nat.lt_of_le_of_lt signed (by decide)) []
  have outer := expect?_sequence whole []
  rw [List.append_nil] at signing outer
  simp only [read?, Der.sequence, List.flatten_cons, List.flatten_nil, List.append_nil, outer,
    expect?_sequence fields _, bind, Option.bind]
  simp only [rootFields, version?_root, Option.all_some, isVersion_root, Bool.not_true, Bool.false_eq_true, if_false,
    serial?_root small, ne_eq, not_true_eq_false, algorithm?_signature, names, validity, key?_encode short,
    skipIdentifier?_root one, skipIdentifier?_root two, read, signing, pure]
  exact ⟨_, rfl, rfl, rfl, kinds⟩

end Root

/-! ## The name to issue under -/

theorem checkValue_text (s : String) :
    checkValue DistinguishedName.textTag.toNat s.toUTF8.toList = .ok () := by
  have kind : DistinguishedName.textTag.toNat = utf8Number := rfl
  simp only [checkValue, kind, if_true, Text.fromUTF8?_toUTF8]

/-- The name on a root certificate can be issued under. -/
theorem issuingName_ofNames {parts : Parts} {organization commonName : String}
    (subject : parts.subject = (DistinguishedName.ofNames organization commonName).attributes.map fun a => [a]) :
    parts.issuingName = .ok (.ofNames organization commonName) := by
  have kind : isReadableKind DistinguishedName.organizationKind = true := by decide
  have kind' : isReadableKind DistinguishedName.commonNameKind = true := by decide
  rw [issuingName, subject]
  simp only [DistinguishedName.ofNames, List.map_cons, List.map_nil, List.mapM_cons, List.mapM_nil, kind, kind',
    checkValue_text, Bool.not_true, Bool.false_eq_true, if_false, bind, Except.bind, pure, Except.pure]

theorem hasClearUsage_root {parts : Parts}
    (kinds : parts.extensions.map (·.kind) = [ExtensionKind.keyUsage, ExtensionKind.constraint]) :
    parts.hasClearUsage = true := by
  have count : parts.extensions.countP (·.kind = ExtensionKind.keyUsage) =
      (parts.extensions.map (·.kind)).countP (· = ExtensionKind.keyUsage) := by
    rw [List.countP_map]
    rfl
  rw [hasClearUsage, count, kinds]
  decide

end Parts

namespace Root

variable {commonName : String} {years now : Nat} {seed : List UInt8} {certificate key : String}

/-- The root whose texts are minted. -/
def minted (commonName : String) (seed : List UInt8) (certificate : String) : Root :=
  ⟨certificate, .ofNames organizationName commonName, (KeyPair.ofSeed seed).publicKey, KeyPair.ofSeed seed⟩

theorem isSecret_ofSeed (seed : List UInt8) : Curve.p256.isSecret (KeyPair.ofSeed seed).secret = true := by
  have order : 0 < Curve.p256.order - 1 := by decide
  have bound := Nat.mod_lt (ofBytes seed) order
  have positive : 0 < (KeyPair.ofSeed seed).secret := Nat.succ_pos _
  have less : (KeyPair.ofSeed seed).secret < Curve.p256.order := Nat.add_lt_of_lt_sub bound
  rw [Curve.isSecret, decide_eq_true positive, decide_eq_true less]
  rfl

theorem mint?_cases (made : mint? commonName years now seed = some (certificate, key)) :
    ∃ c, selfSigned? commonName years now (serialOf (KeyPair.ofSeed seed).publicKey) (KeyPair.ofSeed seed) = some c ∧
      certificate = Pem.text (Pem.armour Pem.certificateLabel (c.encode (KeyPair.ofSeed seed).secret)) ∧
      key = Pem.text (Pem.armour Pem.keyLabel (PrivateKey.encode (KeyPair.ofSeed seed))) := by
  obtain ⟨c, signed, made⟩ := Option.bind_eq_some_iff.mp made
  cases made
  exact ⟨c, signed, rfl, rfl⟩

theorem serialOf_lt (key : PublicKey) : serialOf key < 1 <<< 256 :=
  Nat.lt_trans (Nat.mod_lt _ (by decide)) (by decide)

/-- What a minted certificate says. -/
theorem encode_selfSigned {serial : Nat} {pair : KeyPair} {c : Certificate}
    (signed : selfSigned? commonName years now serial pair = some c)
    (curve : pair.publicKey.algorithm = .p256) : ∃ first last : Int,
    -2592000 ≤ first ∧ first ≤ lastMoment ∧ -2592000 ≤ last ∧ last ≤ lastMoment ∧
      encodeBody c = value tagSequence (Parts.rootFields commonName first last serial pair.publicKey.bits) := by
  obtain ⟨notAfter, inTime, made⟩ := Option.bind_eq_some_iff.mp signed
  rw [daysAfter?] at inTime
  split at inTime
  · rename_i reached
    cases inTime
    cases made
    have day : daySeconds = 86400 := rfl
    refine ⟨(now : Int) - 30 * daySeconds, (now + daySeconds * (365 * max years 1) : Nat), by omega, by omega,
      by omega, by omega, ?_⟩
    have key : (⟨.p256, pair.publicKey.bits⟩ : PublicKey) = pair.publicKey := by rw [← curve]
    simp only [encodeBody, Der.sequence, List.flatten_cons, List.flatten_nil, List.append_nil, Parts.rootFields, key]
    rfl
  · cases inTime

theorem certificateContent_armour (content : List UInt8) :
    certificateContent (Pem.text (Pem.armour Pem.certificateLabel content)) = .ok content := by
  rw [certificateContent, Pem.bytes_text_armour Pem.labels_certificate, Pem.firstCertificate?_armour]

/-- There is no certificate in the text of a key. -/
theorem certificateContent_armour_key (content : List UInt8) :
    certificateContent (Pem.text (Pem.armour Pem.keyLabel content)) = .error .missingCertificate := by
  rw [certificateContent, Pem.bytes_text_armour Pem.labels_key, Pem.firstCertificate?_armour_key]

theorem signingKey_minted : signingKey (Pem.text (Pem.armour Pem.keyLabel (PrivateKey.encode (KeyPair.ofSeed seed)))) =
    .ok (KeyPair.ofSeed seed) := by
  have read : PrivateKey.decode? (PrivateKey.encode (KeyPair.ofSeed seed)) = some (.signing (KeyPair.ofSeed seed)) :=
    PrivateKey.decode?_encode (isSecret_ofSeed seed)
  rw [signingKey, Pem.bytes_text_armour Pem.labels_key, Pem.firstBlock_armour Pem.labels_key]
  simp only [read]

/-- **A root that is minted is read back.** -/
theorem ofPem_mint (held : commonName.utf8ByteSize < Parts.textBound)
    (made : mint? commonName years now seed = some (certificate, key)) :
    ofPem certificate key = .ok (minted commonName seed certificate) := by
  obtain ⟨c, signed, rfl, rfl⟩ := mint?_cases made
  obtain ⟨first, last, since, before, since', before', body⟩ := encode_selfSigned signed rfl
  have short : (KeyPair.ofSeed seed).publicKey.bits.length ≤ 65 := Curve.length_publicBytes_le .p256 _
  obtain ⟨parts, read, subject, own, kinds⟩ := Parts.read?_root held since before since' before'
    (serialOf_lt (KeyPair.ofSeed seed).publicKey) short
    (Parts.length_signature_le (KeyPair.ofSeed seed).secret (encodeBody c))
  rw [← body] at read
  exact ofPem_ok_iff.mpr ⟨rfl, ⟨_, parts, certificateContent_armour _, read, Parts.hasClearUsage_root kinds,
    Parts.issuingName_ofNames subject, own⟩, signingKey_minted⟩

end Root

end Interceptor.Certificate

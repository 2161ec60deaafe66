/-
# Interceptor.Proofs.Certificate.SerialNumbers — which hosts have leaves of one serial number

The serial number of a leaf is a hash of its host's bytes, taken in one by one. No step of the
hash forgets anything: two hashes that differ stay apart whatever bytes follow, and a hash is
taken to different ones by different bytes. So hosts with a common end have one serial number
if and only if what stands in front of it has, and a host that is changed in one byte gets
another serial number, wherever the byte stands.

* `serialFor_append_inj`: a common end does not matter;
* `DifferInOneByte.serialFor_ne`: one byte always does;
* `serials_apart`: both, of hosts and of the leaves that are made for them.
-/
import Interceptor.Proofs.Certificate.StrippedTwice

namespace Interceptor.Certificate

set_option autoImplicit false

open Text Net HostPort

/-- A common end does not matter. -/
theorem serialFor_append_inj {p q : String} (s : String) :
    serialFor (p ++ s) = serialFor (q ++ s) ↔ serialFor p = serialFor q := by
  have split : ∀ t : String, serialFor (t ++ s) = Fnv.update (serialFor t) s.toUTF8.toList := by
    intro t
    simp only [serialFor, Fnv.hash, toUTF8_toList, String.toList_append, List.flatMap_append,
      Fnv.update_append]
  rw [split, split, Fnv.update_inj]

/-- Two texts have as many bytes, and these are the same but for exactly one place. -/
structure DifferInOneByte (p q : String) : Prop where
  sizes : p.utf8ByteSize = q.utf8ByteSize
  place : ∃ i : Nat, ∀ j : Nat, p.toUTF8.toList[j]? = q.toUTF8.toList[j]? ↔ j ≠ i

/-- Lists of one length that are the same but for one place, cut there. -/
theorem exists_cut_of_place {α : Type} {xs ys : List α} (lengths : xs.length = ys.length) {i : Nat}
    (place : ∀ j, xs[j]? = ys[j]? ↔ j ≠ i) :
    ∃ front x y back, xs = front ++ x :: back ∧ ys = front ++ y :: back ∧ x ≠ y := by
  have apart : xs[i]? ≠ ys[i]? := fun same => (place i).mp same rfl
  have inside : i < xs.length := by
    apply Nat.lt_of_not_le
    intro beyond
    apply apart
    rw [List.getElem?_eq_none beyond, List.getElem?_eq_none (lengths ▸ beyond)]
  have inside' : i < ys.length := lengths ▸ inside
  have fronts : xs.take i = ys.take i := by
    apply List.ext_getElem?
    intro j
    by_cases before : j < i
    · rw [List.getElem?_take_of_lt before, List.getElem?_take_of_lt before]
      exact (place j).mpr (Nat.ne_of_lt before)
    · have beyond := Nat.le_of_not_lt before
      rw [List.getElem?_take_eq_none beyond, List.getElem?_take_eq_none beyond]
  have backs : xs.drop (i + 1) = ys.drop (i + 1) := by
    apply List.ext_getElem?
    intro j
    rw [List.getElem?_drop, List.getElem?_drop]
    exact (place (i + 1 + j)).mpr (by omega)
  refine ⟨xs.take i, xs[i], ys[i], xs.drop (i + 1), ?_, ?_, ?_⟩
  · rw [List.getElem_cons_drop, List.take_append_drop]
  · rw [fronts, backs, List.getElem_cons_drop, List.take_append_drop]
  · intro same
    apply apart
    rw [List.getElem?_eq_getElem inside, List.getElem?_eq_getElem inside', same]

/-- One byte always matters. -/
theorem DifferInOneByte.serialFor_ne {p q : String} (differ : DifferInOneByte p q) :
    serialFor p ≠ serialFor q := by
  obtain ⟨sizes, i, place⟩ := differ
  have lengths : p.toUTF8.toList.length = q.toUTF8.toList.length := by
    rw [toUTF8_toList, toUTF8_toList, ← utf8ByteSize_eq, ← utf8ByteSize_eq, sizes]
  obtain ⟨front, b, c, back, first, second, apart⟩ := exists_cut_of_place lengths place
  intro same
  simp only [serialFor, Fnv.hash, first, second, Fnv.update_append, Fnv.update_cons, Fnv.update_inj,
    Fnv.step_right_inj] at same
  exact apart same

/-- A leaf that an authority has made for a host, whatever port the host was asked for with. -/
inductive Leaf.IssuedFor (host : String) : Leaf → Prop
  | intro (a : CertificateAuthority) (asked : String) (now : Nat) (fresh : KeyPair)
      (named : stripPort asked = host) (leaf : Leaf) (issued : (a.issue asked now fresh).1 = .ok leaf) :
      IssuedFor host leaf

theorem Leaf.IssuedFor.serial_eq {host : String} {leaf : Leaf} (issued : leaf.IssuedFor host) :
    leaf.certificate.serial = (serialFor host).toNat := by
  obtain ⟨a, asked, now, fresh, named, leaf, made⟩ := issued
  rw [← named]
  exact (CertificateAuthority.madeOutTo_of_issue made).serial

/-- **Serial numbers keep hosts apart.** Hosts with a common end have one serial number if and only
if what stands in front of the end has; hosts of one length that differ in exactly one byte never
have the same; and the certificates of leaves have one serial number if and only if their hosts
have, whoever has issued them and when. -/
theorem serials_apart (p q : String) :
    (∀ s, serialFor (p ++ s) = serialFor (q ++ s) ↔ serialFor p = serialFor q) ∧
    (DifferInOneByte p q → serialFor p ≠ serialFor q) ∧
    ∀ (s : String) (leaf other : Leaf), leaf.IssuedFor (p ++ s) → other.IssuedFor (q ++ s) →
      (leaf.certificate.serial = other.certificate.serial ↔ serialFor p = serialFor q) ∧
      (DifferInOneByte p q → leaf.certificate.serial ≠ other.certificate.serial) := by
  refine ⟨serialFor_append_inj, DifferInOneByte.serialFor_ne, ?_⟩
  intro s leaf other issued issued'
  have same : leaf.certificate.serial = other.certificate.serial ↔ serialFor p = serialFor q := by
    rw [issued.serial_eq, issued'.serial_eq, UInt32.toNat_inj]
    exact serialFor_append_inj s
  exact ⟨same, fun differ equal => differ.serialFor_ne (same.mp equal)⟩

/-- Two siblings whose names differ in one byte have leaves with different serial numbers. -/
theorem serials_apart_siblings : ∃ leaf other : Leaf,
    leaf.IssuedFor ("www1" ++ ".example.com") ∧ other.IssuedFor ("www2" ++ ".example.com") ∧
      DifferInOneByte "www1" "www2" ∧ leaf.certificate.serial ≠ other.certificate.serial := by
  have differ : DifferInOneByte "www1" "www2" := by
    have first : "www1".toList.flatMap String.utf8EncodeChar = [119, 119, 119, 49] := by decide +kernel
    have second : "www2".toList.flatMap String.utf8EncodeChar = [119, 119, 119, 50] := by decide +kernel
    refine ⟨by decide +kernel, 3, fun j => ?_⟩
    rw [toUTF8_toList, toUTF8_toList, first, second]
    match j with
    | 0 | 1 | 2 | 3 => decide
    | j + 4 => simp
  have made : (LeafCall.sampleAuthority.issue "www1.example.com:443" 0 LeafCall.sampleKey).1.toOption.any
      fun _ => true := by decide +kernel
  have made' : (LeafCall.sampleAuthority.issue "www2.example.com" 0 LeafCall.sampleKey).1.toOption.any
      fun _ => true := by decide +kernel
  obtain ⟨leaf, issued, -⟩ := exists_of_any made
  obtain ⟨other, issued', -⟩ := exists_of_any made'
  have first : leaf.IssuedFor ("www1" ++ ".example.com") := .intro _ _ _ _ (by decide +kernel) _ issued
  have second : other.IssuedFor ("www2" ++ ".example.com") := .intro _ _ _ _ (by decide +kernel) _ issued'
  exact ⟨leaf, other, first, second, differ, ((serials_apart _ _).2.2 _ _ _ first second).2 differ⟩

end Interceptor.Certificate

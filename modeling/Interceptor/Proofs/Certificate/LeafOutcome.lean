/-
# Interceptor.Proofs.Certificate.LeafOutcome — how making a leaf ends

Making a leaf ends in one of three ways. The leaf is made; it is refused with an error,
because a name on it is not ASCII; or it cannot be written at all, which stops whoever asked
for it. The end of the calendar, the names and the root's subject decide between
them, in this order, and nothing else does (`Outcome`).

* `outcome_of_issue`: how it ends, with what stands on a leaf that is made besides its names;
* `exists_leaf_iff`, `ends_iff`: when there is a leaf, and when there is a leaf or an error.
-/
import Interceptor.Proofs.Certificate.LeafCalls

namespace Interceptor.Certificate

set_option autoImplicit false

open Net HostPort

/-- Names that can stand on a certificate. -/
def SubjectNames.IsAscii (names : SubjectNames) : Prop :=
  ∀ name ∈ names.dns, name.toList.all (·.toNat < 128)

instance (names : SubjectNames) : Decidable names.IsAscii :=
  inferInstanceAs (Decidable (∀ name ∈ names.dns, _))

namespace CertificateAuthority

/-- The moment up to which a leaf that is made now is to hold. -/
def lastsUntil (a : CertificateAuthority) (now : Nat) : Nat := now + daySeconds * (365 * a.years)

/-- One name as it stands on a certificate. -/
def altName (name : String) : Except IssueError AltName :=
  if name.toList.all (·.toNat < 128) then .ok (.dns name) else .error (.invalidText .ia5 name)

theorem altNames_eq_mapM (names : SubjectNames) : altNames names =
    (names.dns.mapM altName).map ((names.ip.map AltName.ip).toList ++ ·) := by
  unfold altNames
  change (names.dns.mapM altName >>= _) = _
  cases names.dns.mapM altName <;> rfl

/-- A traversal fails if and only if an element does. -/
theorem mapM_isOk_iff {α β ε : Type} (f : α → Except ε β) (xs : List α) :
    (xs.mapM f).isOk ↔ ∀ x ∈ xs, (f x).isOk := by
  induction xs with
  | nil => simp [pure, Except.pure, Except.isOk, Except.toBool]
  | cons head tail ih =>
      rw [List.mapM_cons, List.forall_mem_cons, ← ih]
      cases f head with
      | error e => simp [bind, Except.bind, Except.isOk, Except.toBool]
      | ok y => cases tail.mapM f <;>
          simp [bind, Except.bind, pure, Except.pure, Except.isOk, Except.toBool]

/-- Names are written if and only if they are ASCII. -/
theorem altNames_isOk_iff (names : SubjectNames) : (altNames names).isOk ↔ names.IsAscii := by
  have each : ∀ name, (altName name).isOk ↔ name.toList.all (·.toNat < 128) := by
    intro name
    unfold altName
    split <;> simp_all [Except.isOk, Except.toBool]
  have whole : (altNames names).isOk = (names.dns.mapM altName).isOk := by
    rw [altNames_eq_mapM]
    cases names.dns.mapM altName <;> rfl
  rw [whole, mapM_isOk_iff]
  exact forall₂_congr fun name _ => each name

/-- How making a leaf ends. -/
inductive Outcome (a : CertificateAuthority) (host : String) (now : Nat) (fresh : KeyPair) :
    Except IssueFailure Leaf → Prop
  /-- The leaf would hold past the end of the calendar. -/
  | late (overrun : lastMoment < a.lastsUntil now) : Outcome a host now fresh (.error .unwritable)
  | refused (inTime : a.lastsUntil now ≤ lastMoment)
      (foreign : ¬ (SubjectNames.forHost (stripPort host)).IsAscii) (e : IssueError) :
      Outcome a host now fresh (.error (.refused (.issue e)))
  /-- The root's subject cannot be written as an issuer. -/
  | nameless (inTime : a.lastsUntil now ≤ lastMoment)
      (ascii : (SubjectNames.forHost (stripPort host)).IsAscii)
      (unwritable : a.root.subject.isWritable = false) :
      Outcome a host now fresh (.error .unwritable)
  | made (inTime : a.lastsUntil now ≤ lastMoment)
      (ascii : (SubjectNames.forHost (stripPort host)).IsAscii)
      (writable : a.root.subject.isWritable = true) {leaf : Leaf}
      (made : leaf.MadeFor (stripPort host))
      (notBefore : leaf.certificate.notBefore = (now : Int) - 365 * daySeconds)
      (notAfter : leaf.certificate.notAfter = a.lastsUntil now)
      (signed : leaf.certificate.signedBy = a.root.key.publicKey) :
      Outcome a host now fresh (.ok leaf)

/-- It ends in one of these ways. -/
theorem outcome_of_issue (a : CertificateAuthority) (host : String) (now : Nat) (fresh : KeyPair) :
    Outcome a host now fresh (a.issue host now fresh).1 := by
  have written := altNames_isOk_iff (SubjectNames.forHost (stripPort host))
  unfold issue leafCertificate
  simp only [daysAfter?]
  by_cases inTime : now + daySeconds * (365 * a.years) ≤ lastMoment
  · simp only [if_pos inTime]
    cases names : altNames (SubjectNames.forHost (stripPort host)) with
    | error e =>
        rw [names] at written
        exact .refused inTime (fun ascii => absurd (written.mpr ascii) Bool.false_ne_true) e
    | ok altNames =>
        rw [names] at written
        have ascii := written.mp rfl
        cases writable : a.root.subject.isWritable with
        | false => exact .nameless inTime ascii writable
        | true => exact .made inTime ascii writable ⟨rfl, rfl, altNames_eq names⟩ rfl rfl rfl
  · simp only [if_neg inTime]
    exact .late (Nat.lt_of_not_le inTime)

/-- There is a leaf if and only if the calendar, its names and its issuer allow it. -/
theorem exists_leaf_iff (a : CertificateAuthority) (host : String) (now : Nat) (fresh : KeyPair) :
    (∃ leaf, (a.issue host now fresh).1 = .ok leaf) ↔ a.lastsUntil now ≤ lastMoment ∧
      (SubjectNames.forHost (stripPort host)).IsAscii ∧ a.root.subject.isWritable = true := by
  have outcome := a.outcome_of_issue host now fresh
  generalize (a.issue host now fresh).1 = given at outcome
  cases outcome with
  | late overrun => simp [Nat.not_le_of_lt overrun]
  | refused inTime foreign e => simp [foreign]
  | nameless inTime ascii unwritable => simp [unwritable]
  | made inTime ascii writable => simp [inTime, ascii, writable]

/-- There is a leaf or an error if and only if the calendar reaches far enough, and the issuer is fit to be
written if the names are. -/
theorem ends_iff (a : CertificateAuthority) (host : String) (now : Nat) (fresh : KeyPair) :
    (∃ leaf, (a.issue host now fresh).1 = .ok leaf) ∨
        (∃ e, (a.issue host now fresh).1 = .error (.refused e)) ↔
      a.lastsUntil now ≤ lastMoment ∧
        ((SubjectNames.forHost (stripPort host)).IsAscii → a.root.subject.isWritable = true) := by
  have outcome := a.outcome_of_issue host now fresh
  generalize (a.issue host now fresh).1 = given at outcome
  cases outcome with
  | late overrun => simp [Nat.not_le_of_lt overrun]
  | refused inTime foreign e => simp [inTime, foreign]
  | nameless inTime ascii unwritable => simp [ascii, unwritable]
  | made inTime ascii writable => simp [inTime, writable]

/-- What stands on a leaf that is made. -/
theorem signed_of_issue {a : CertificateAuthority} {host : String} {now : Nat} {fresh : KeyPair}
    {leaf : Leaf} (issued : (a.issue host now fresh).1 = .ok leaf) :
    leaf.certificate.signedBy = a.root.key.publicKey ∧
      leaf.certificate.notBefore = (now : Int) - 365 * daySeconds ∧
      leaf.certificate.notAfter = a.lastsUntil now := by
  have outcome := a.outcome_of_issue host now fresh
  rw [issued] at outcome
  cases outcome with
  | made inTime ascii writable made notBefore notAfter signed => exact ⟨signed, notBefore, notAfter⟩

end CertificateAuthority

end Interceptor.Certificate

/-
# Interceptor.Proofs.ConfiguredTimes — moments that configured times lead to

Two settings are added to the clock's reading while requests are served: the years that a
leaf is to hold for, and the seconds that a looked up name is kept. `Config.validate`
refuses a leaf of no years at all and looks no further, but the calendar ends with the year
9999 and the seconds of a clock are signed numbers of 64 bits. So a configuration may be
accepted that no leaf can be made under, or no name be looked up.

* `Net.expiry?_isSome_iff`: the addition as a clock does it;
* `Config.authority_years`: what a configuration that is accepted makes of the years;
* `Config.in_range_iff`: the two settings together, from 2024 to 2100;
* `Config.out_of_range`: a configuration for either that is accepted and fails.
-/
import Interceptor.Program
import Interceptor.Proofs.Certificate.LeafOutcome
import Interceptor.Proofs.Net.FreshLookups

namespace Interceptor

set_option autoImplicit false

open Certificate Net

/-! ## Looked up names -/

namespace Net

/-- Whole seconds are added to whole seconds. -/
theorem expiry?_isSome_iff (secs now : Nat) : (expiry? (.ofSecs secs) now).isSome ↔
    now / 1000000000 + secs < clockSeconds := by
  have whole : (now + secs * 1000000000) / 1000000000 = now / 1000000000 + secs :=
    Nat.add_mul_div_right now secs (by decide)
  unfold expiry? Duration.ofSecs
  rw [whole]
  split <;> simp [*]

end Net

/-! ## Leaves -/

namespace Config

/-- The first second of the year 2024. -/
def firstSecond : Nat := 1704067200

/-- The last second of the year 2100. -/
def lastSecond : Nat := 4133980799

example : (Date.toDays ⟨2024, 1, 1⟩ * daySeconds, Date.toDays ⟨2101, 1, 1⟩ * daySeconds) =
    ((firstSecond : Int), (lastSecond : Int) + 1) := by decide

/-- An accepted configuration has leaves hold for some years. -/
theorem years_ne_zero {config : Config} (accepted : config.validate = .ok ()) :
    config.interception.validityYears ≠ 0 := by
  unfold validate at accepted
  obtain ⟨-, -, accepted⟩ := bind_eq_ok_iff.mp accepted
  obtain ⟨-, -, accepted⟩ := bind_eq_ok_iff.mp accepted
  obtain ⟨_, held, -⟩ := bind_eq_ok_iff.mp accepted
  intro zero
  rw [zero] at held
  exact nomatch held

/-- The authority has leaves hold for the years of the configuration. -/
theorem authority_years {config : Config} (accepted : config.validate = .ok ()) (root : Root)
    (shared : KeyPair) : (config.interception.authority root shared).years =
      config.interception.validityYears.toNat ∧
    (config.interception.authority root shared).root = root := by
  have some : 1 ≤ config.interception.validityYears.toNat := Nat.pos_of_ne_zero fun zero =>
    years_ne_zero accepted (UInt32.toNat_inj.mp zero)
  have longest : max config.interception.validityYears.toNat 1 =
      config.interception.validityYears.toNat := Nat.max_eq_left some
  unfold Interception.authority
  split
  · exact ⟨longest, rfl⟩
  · exact ⟨longest, rfl⟩

/-- The moment up to which a leaf that is made now is to hold. -/
def leafEnd (config : Config) (now : Nat) : Nat :=
  now + daySeconds * (365 * config.interception.validityYears.toNat)

/-- Between 2024 and 2100 the calendar reaches far enough for 7904 years, and not for 7982. -/
theorem leafEnd_bounds (config : Config) {now : Nat} (early : firstSecond ≤ now) (late : now ≤ lastSecond) :
    (config.interception.validityYears.toNat ≤ 7904 → config.leafEnd now ≤ lastMoment) ∧
      (7982 ≤ config.interception.validityYears.toNat → lastMoment < config.leafEnd now) := by
  unfold leafEnd firstSecond lastSecond lastMoment daySeconds at *
  omega

/-- **Times in range.** Let a configuration be accepted, and a leaf be asked for between 2024 and
2100. That ends in a leaf or in an error if and only if the years that the leaf is to hold for end within
the calendar and the root's subject can be written as an issuer, or else the names refuse it before
that. The beginning of a leaf is never out of range; its end never is for up to 7904 years, and
always is for 7982 and more. And a call on a cache that keeps names for the configured time, however
the steps of other calls fall, ends in an answer or an error if and only if a clock can show the seconds
that were on it at the end of the lookup and those of the configuration together; otherwise the
clock is overrun. -/
theorem in_range_iff {config : Config} (accepted : config.validate = .ok ()) :
    (∀ (root : Root) (shared fresh : KeyPair) (host : String) (now : Nat),
      firstSecond ≤ now → now ≤ lastSecond → ∀ outcome,
        outcome = ((config.interception.authority root shared).issue host now fresh).1 →
          ((∃ leaf, outcome = .ok leaf) ∨ (∃ e, outcome = .error (.refused e)) ↔
            config.leafEnd now ≤ lastMoment ∧
              ((SubjectNames.forHost (HostPort.stripPort host)).IsAscii →
                root.subject.isWritable = true)) ∧
          (∀ leaf, outcome = .ok leaf → 0 ≤ leaf.certificate.notBefore ∧
            leaf.certificate.notBefore = (now : Int) - 365 * daySeconds ∧
            leaf.certificate.notAfter = config.leafEnd now) ∧
          (config.interception.validityYears.toNat ≤ 7904 → config.leafEnd now ≤ lastMoment) ∧
          (7982 ≤ config.interception.validityYears.toNat → lastMoment < config.leafEnd now)) ∧
    ∀ (σ : Type) (machine : Machine σ) (world : σ) (moves : List (Move LookupCall))
      (thread : LookupThread σ) (reply : LookupReply),
      thread ∈ (Weave.run (LookupCall.make machine) ⟨world, .new config.lookups.ttl⟩ moves).threads →
        thread.value? = some reply →
          (reply.returns = true ↔ ∀ moment, .stamped moment ∈ thread.seen →
            moment / 1000000000 + config.lookups.ttlSecs.toNat < clockSeconds) := by
  constructor
  · rintro root shared fresh host now early late _ rfl
    obtain ⟨years, under⟩ := authority_years accepted root shared
    generalize config.interception.authority root shared = a at years under
    have ends : a.lastsUntil now = config.leafEnd now := by
      rw [CertificateAuthority.lastsUntil, leafEnd, years]
    refine ⟨?_, fun leaf issued => ?_, config.leafEnd_bounds early late⟩
    · rw [← ends, ← under]
      exact a.ends_iff host now fresh
    · obtain ⟨-, notBefore, notAfter⟩ := CertificateAuthority.signed_of_issue issued
      refine ⟨?_, notBefore, notAfter.trans (by rw [ends])⟩
      rw [notBefore]
      unfold firstSecond at early
      unfold daySeconds
      omega
  · intro σ machine world moves thread reply member value
    rw [returns_iff rfl member value]
    exact forall_congr' fun moment => imp_congr_right fun _ => expiry?_isSome_iff _ moment

theorem validate_of_isOk {config : Config} (accepted : config.validate.isOk) :
    config.validate = .ok () := by
  cases given : config.validate with
  | ok value => rfl
  | error e =>
      rw [given] at accepted
      exact absurd accepted Bool.false_ne_true

/-- A call that looks a name up, from beginning to end. -/
def oneLookup : List (Move LookupCall) := .start (.fetch "a.test") :: List.replicate 7 (.advance 0)

/-- The default configuration: a leaf from the beginning of 2026 on, and a name that is looked up. -/
theorem in_range_default : ∃ config : Config, config.validate = .ok () ∧
    (∃ leaf, ((config.interception.authority LeafCall.sampleAuthority.root LeafCall.sampleKey).issue
      "example.com" 1767225600 LeafCall.sampleKey).1 = .ok leaf ∧
        leaf.certificate.notAfter = 1798761600) ∧
    ∃ thread ∈ (Weave.run (LookupCall.make sampleMachine) ⟨0, .new config.lookups.ttl⟩ oneLookup).threads,
      ∃ reply, thread.value? = some reply ∧ reply.returns = true ∧
        ∀ moment, .stamped moment ∈ thread.seen → moment / 1000000000 + 300 < clockSeconds := by
  have accepted : ({} : Config).validate = .ok () := validate_of_isOk (by decide +kernel)
  obtain ⟨leaves, calls⟩ := in_range_iff accepted
  refine ⟨{}, accepted, ?_, ?_⟩
  · have there : ((({} : Config).interception.authority LeafCall.sampleAuthority.root
        LeafCall.sampleKey).issue "example.com" 1767225600 LeafCall.sampleKey).1.toOption.any
          fun _ => true := by
      decide +kernel
    obtain ⟨leaf, issued, -⟩ := exists_of_any there
    obtain ⟨-, made, -⟩ := leaves LeafCall.sampleAuthority.root LeafCall.sampleKey LeafCall.sampleKey
      "example.com" 1767225600 (by decide) (by decide) _ rfl
    obtain ⟨-, -, notAfter⟩ := made leaf issued
    exact ⟨leaf, issued, notAfter⟩
  · have course : (Weave.run (LookupCall.make sampleMachine) ⟨0, .new ({} : Config).lookups.ttl⟩
        oneLookup).threads[0]?.any fun thread => thread.value?.any (·.returns) := by
      decide +kernel
    obtain ⟨thread, there, ended⟩ := (Option.any_eq_true ..).mp course
    obtain ⟨reply, value, returns⟩ := (Option.any_eq_true ..).mp ended
    have member := List.mem_of_getElem? there
    exact ⟨thread, member, reply, value, returns,
      (calls Nat sampleMachine 0 oneLookup thread reply member value).mp returns⟩

/-- Certificates that are to hold for 8000 years are accepted, and no root can make a leaf that does; and
so is a time to keep names for that no clock can show the end of, and a call that looks a name up
does not return. -/
theorem out_of_range :
    (∃ config : Config, config.validate = .ok () ∧ ∀ root shared fresh,
      ((config.interception.authority root shared).issue "example.com" firstSecond fresh).1 =
        .error .unwritable) ∧
    ∃ config : Config, config.validate = .ok () ∧ ∃ thread ∈ (Weave.run
      (LookupCall.make sampleMachine) ⟨0, .new config.lookups.ttl⟩ oneLookup).threads,
        ∃ reply, thread.value? = some reply ∧ reply.returns = false := by
  constructor
  · have accepted : ({ interception := { validityYears := 8000 } } : Config).validate = .ok () :=
      validate_of_isOk (by decide +kernel)
    refine ⟨_, accepted, fun root shared fresh => ?_⟩
    obtain ⟨years, -⟩ := authority_years accepted root shared
    generalize Interception.authority _ root shared = a at years
    have overrun : lastMoment < a.lastsUntil firstSecond := by
      rw [CertificateAuthority.lastsUntil, years]
      decide
    have outcome := a.outcome_of_issue "example.com" firstSecond fresh
    generalize (a.issue "example.com" firstSecond fresh).1 = given at outcome
    cases outcome with
    | late | nameless => rfl
    | refused inTime | made inTime => exact absurd overrun (Nat.not_lt_of_le inTime)
  · refine ⟨{ lookups := { ttlSecs := 18446744073709551615 } }, validate_of_isOk (by decide +kernel), ?_⟩
    have course : (Weave.run (LookupCall.make sampleMachine)
        ⟨0, .new (Lookups.ttl { ttlSecs := 18446744073709551615 })⟩ oneLookup).threads[0]?.any fun thread =>
          thread.value?.any (!·.returns) := by
      decide +kernel
    obtain ⟨thread, there, ended⟩ := (Option.any_eq_true ..).mp course
    obtain ⟨reply, value, lost⟩ := (Option.any_eq_true ..).mp ended
    exact ⟨thread, List.mem_of_getElem? there, reply, value, by simpa using lost⟩

end Config

end Interceptor

/-
# Interceptor.Proofs.RootFiles — a root that is minted into two files

Minting makes both texts before it touches a file. Then it writes the certificate, and then the key,
each in place and each for good: nothing is put back when the second one cannot be written, and the
two paths are not compared.

* `Desk.loadRoot_iff`: a root is loaded from the texts of two files;
* `Desk.mintRoot_cases`: the ways that minting can go, by the courses of the two writes;
* `Desk.loadRoot_minted_iff`: if both files are written, the pair is loaded from them as long as the
  paths lead to two places that keep what is written;
* `Desk.root_files`: what the files are after minting, whether it succeeds or fails;
* `Desk.pair_lost`: it may fail and leave a new certificate beside the old key, and it may succeed and
  leave nothing that can be loaded.
-/
import Interceptor.Program
import Interceptor.Proofs.Certificate.RootReadBack
import Interceptor.Proofs.FileWrites

namespace Interceptor

set_option autoImplicit false

open Certificate Program

/-! ## Texts in files -/

namespace Files

/-- The text of a file. -/
def readText (files : Files) (path : String) : Except IoError String := do
  let bytes ← files.read path
  (String.fromUTF8? (ByteArray.mk bytes.toArray)).elim (.error .notUtf8) .ok

section Text

variable {files : Files} {path : String} {place : Place} (located : files.locate path = .ok place)

include located

theorem readText_file {text : String} (stands : files.entry? place = some (.file text.toUTF8.toList)) :
    files.readText path = .ok text := by
  simp only [readText, read, located, bind, Except.bind, stands, pure, Except.pure, Text.fromUTF8?_toUTF8,
    Option.elim_some]

theorem readText_writeOnly {content : List UInt8} (stands : files.entry? place = some (.writeOnly content)) :
    files.readText path = .error .permissionDenied := by
  simp only [readText, read, located, bind, Except.bind, stands, throw, throwThe, MonadExceptOf.throw]

theorem readText_sink (stands : files.entry? place = some .sink) : files.readText path = .ok "" := by
  have empty : String.fromUTF8? (ByteArray.mk #[]) = some "" := by decide +kernel
  simp only [readText, read, located, bind, Except.bind, stands, pure, Except.pure, empty, Option.elim_some]

end Text

/-- What is read after a write that has succeeded: what was written, if the place keeps it, or
nothing. -/
theorem Landed.keeps_or_empty {before after final : Files} {path path' text read : String} {place : Place}
    (landed : before.Landed path text.toUTF8.toList after place) (still : final.entry? place = after.entry? place)
    (located : final.locate path' = .ok place) (readable : final.readText path' = .ok read) :
    before.Keeps place ∧ read = text ∨ read = "" := by
  obtain ⟨keeps, file⟩ | ⟨-, hidden⟩ | ⟨-, device⟩ := landed.shown
  · have same := (readText_file located (still.trans file)).symm.trans readable
    cases same
    exact .inl ⟨keeps, rfl⟩
  · have same := (readText_writeOnly located (still.trans hidden)).symm.trans readable
    cases same
  · have same := (readText_sink located (still.trans device)).symm.trans readable
    cases same
    exact .inr rfl

end Files

namespace Certificate.Root

/-! ## Texts without a root -/

theorem ofPem_empty (key : String) : ofPem "" key = .error .missingCertificate := by
  have none : Pem.bytes "" = [] := by decide +kernel
  rw [ofPem, certificateContent, none]
  rfl

theorem ofPem_empty_key (certificate : String) (root : Root) : ofPem certificate "" ≠ .ok root := by
  intro accepted
  obtain ⟨-, -, signing⟩ := ofPem_ok_iff.mp accepted
  have none : Pem.bytes "" = [] := by decide +kernel
  rw [signingKey, none] at signing
  cases signing

theorem ofPem_minted_key {commonName certificate key : String} {years now : Nat} {seed : List UInt8}
    (made : mint? commonName years now seed = some (certificate, key)) (key' : String) :
    ofPem key key' = .error .missingCertificate := by
  obtain ⟨c, -, -, rfl⟩ := mint?_cases made
  rw [ofPem, certificateContent_armour_key]
  rfl

end Certificate.Root

namespace Desk

variable {desk : Desk}

/-! ## Tasks -/

section Tasks

variable {ε α β : Type}

/-- A task that is carried out on a desk. -/
def carryOut (task : ExceptT ε (StateM Desk) α) (desk : Desk) : Except ε α × Desk := task.run.run desk

variable {first : ExceptT ε (StateM Desk) α} (next : α → ExceptT ε (StateM Desk) β) {after : Desk}

theorem carryOut_bind_ok {given : α} (ended : carryOut first desk = (.ok given, after)) :
    carryOut (first >>= next) desk = carryOut (next given) after := by
  unfold carryOut at ended ⊢
  rw [ExceptT.run_bind, StateT.run_bind, ended]
  rfl

theorem carryOut_bind_error {error : ε} (ended : carryOut first desk = (.error error, after)) :
    carryOut (first >>= next) desk = (.error error, after) := by
  unfold carryOut at ended ⊢
  rw [ExceptT.run_bind, StateT.run_bind, ended]
  rfl

end Tasks

/-! ## Loading -/

/-- The root that is loaded from two files. -/
def loadRoot (desk : Desk) (certificatePath keyPath : String) : Except CertificateError Root :=
  ((Desk.host.readRoot certificatePath keyPath).run desk).1

theorem run_readText (desk : Desk) (path : String) :
    (Desk.host.readText path).run desk = (desk.files.readText path, desk) := by
  have answered : (Desk.host.read path).run desk = (desk.files.read path, desk) := rfl
  rw [Host.readText, StateT.run_bind, answered, Files.readText]
  cases desk.files.read path with
  | error error => rfl
  | ok bytes => rfl

/-- A text with the name of its file on the error. -/
theorem run_named (desk : Desk) (path : String) : carryOut (ExceptT.mk do
      return (← Desk.host.readText path).mapError (CertificateError.read path)) desk =
    ((desk.files.readText path).mapError (.read path), desk) := by
  unfold carryOut
  rw [ExceptT.run_mk, StateT.run_bind, run_readText]
  rfl

theorem loadRoot_iff {certificatePath keyPath : String} {root : Root} :
    desk.loadRoot certificatePath keyPath = .ok root ↔
      ∃ certificate key, desk.files.readText certificatePath = .ok certificate ∧
        desk.files.readText keyPath = .ok key ∧ Root.ofPem certificate key = .ok root := by
  have loads : desk.loadRoot certificatePath keyPath = (do
      let certificate ← (desk.files.readText certificatePath).mapError (.read certificatePath)
      let key ← (desk.files.readText keyPath).mapError (.read keyPath)
      Root.ofPem certificate key) := by
    have first := run_named desk certificatePath
    have second := run_named desk keyPath
    change (carryOut _ desk).1 = _
    cases read : (desk.files.readText certificatePath).mapError (CertificateError.read certificatePath) with
    | error error =>
        rw [read] at first
        rw [carryOut_bind_error _ first]
        rfl
    | ok certificate =>
        rw [read] at first
        rw [carryOut_bind_ok _ first]
        cases read' : (desk.files.readText keyPath).mapError (CertificateError.read keyPath) with
        | error error =>
            rw [read'] at second
            rw [carryOut_bind_error _ second]
            rfl
        | ok key =>
            rw [read'] at second
            rw [carryOut_bind_ok _ second]
            rfl
  simp only [loads, bind_eq_ok_iff, mapError_eq_ok_iff]
  constructor
  · rintro ⟨certificate, read, key, read', accepted⟩
    exact ⟨certificate, key, read, read', accepted⟩
  · rintro ⟨certificate, key, read, read', accepted⟩
    exact ⟨certificate, read, key, read', accepted⟩

/-! ## Minting -/

/-- Carries out the command that mints a root. -/
def mintRoot (desk : Desk) (format : LogFormat) (filter : Log.Filter)
    (certificatePath keyPath commonName : String) (years : Nat) : Except CommandError Unit × Desk :=
  ((Session.execute ⟨Desk.host, format, filter⟩ (.mintRoot certificatePath keyPath commonName years)).run).run desk

/-- The error of a file that cannot be written. -/
def writeError (path : String) (error : IoError) : CommandError := ⟨"Failed to write " ++ path, [error.message], 1⟩

theorem run_write (desk : Desk) (path : String) (content : List UInt8) :
    carryOut (ExceptT.lift (Desk.host.write path content) : Task (StateM Desk) (Except IoError Unit)) desk =
      (.ok (desk.files.write path content).1, { desk with files := (desk.files.write path content).2 }) :=
  rfl

section Write

variable {files : Files} {path content : String} (format : LogFormat) (filter : Log.Filter)

theorem run_writeFile_ok (wrote : desk.files.write path content.toUTF8.toList = (.ok (), files)) :
    carryOut (Session.writeFile ⟨Desk.host, format, filter⟩ path content) desk = (.ok (), { desk with files }) := by
  have outcome := run_write desk path content.toUTF8.toList
  rw [wrote] at outcome
  exact carryOut_bind_ok _ outcome

theorem run_writeFile_error {reason : IoError}
    (wrote : desk.files.write path content.toUTF8.toList = (.error reason, files)) :
    carryOut (Session.writeFile ⟨Desk.host, format, filter⟩ path content) desk =
      (.error (writeError path reason), { desk with files }) := by
  have outcome := run_write desk path content.toUTF8.toList
  rw [wrote] at outcome
  exact carryOut_bind_ok _ outcome

end Write

theorem run_log (desk : Desk) (format : LogFormat) (filter : Log.Filter) (level : LogLevel) (target message : String) :
    ∃ logged, carryOut (Session.log ⟨Desk.host, format, filter⟩ level target message) desk =
      (.ok (), { desk with logged }) := by
  simp only [Session.log]
  split
  · exact ⟨_, rfl⟩
  · exact ⟨_, rfl⟩

section MintRoot

variable (desk : Desk) (format : LogFormat) (filter : Log.Filter) (certificatePath keyPath commonName : String)
  (years : Nat)

/-- Both texts are made before a file is touched. -/
theorem mintRoot_eq : desk.mintRoot format filter certificatePath keyPath commonName years =
    match Root.mint? commonName years desk.time desk.randomness with
    | none => (.error ⟨"the root would be valid past the end of the calendar", [], 101⟩, desk)
    | some (certificate, key) => carryOut (do
        Session.writeFile ⟨Desk.host, format, filter⟩ certificatePath certificate
        Session.writeFile ⟨Desk.host, format, filter⟩ keyPath key
        Session.log ⟨Desk.host, format, filter⟩ .info "rift_mitm"
          ("Wrote root certificate to " ++ certificatePath ++ " and key to " ++ keyPath)) desk := by
  have timed : carryOut (ExceptT.lift Desk.host.now : Task (StateM Desk) Nat) desk = (.ok desk.time, desk) := rfl
  have seeded : carryOut (ExceptT.lift Desk.host.seed : Task (StateM Desk) (List UInt8)) desk =
      (.ok desk.randomness, desk) := rfl
  have started : desk.mintRoot format filter certificatePath keyPath commonName years =
      carryOut (Session.mintRoot ⟨Desk.host, format, filter⟩ certificatePath keyPath commonName years) desk := rfl
  rw [started, Session.mintRoot, carryOut_bind_ok _ timed, carryOut_bind_ok _ seeded]
  cases Root.mint? commonName years desk.time desk.randomness with
  | none => rfl
  | some pair => rfl

variable {certificatePath keyPath commonName years} {certificate key : String} {between final : Files}
  {reason : IoError} (made : Root.mint? commonName years desk.time desk.randomness = some (certificate, key))

include made

theorem mintRoot_of_write_error
    (wrote : desk.files.write certificatePath certificate.toUTF8.toList = (.error reason, final)) :
    desk.mintRoot format filter certificatePath keyPath commonName years =
      (.error (writeError certificatePath reason), { desk with files := final }) := by
  rw [mintRoot_eq, made]
  exact carryOut_bind_error _ (run_writeFile_error format filter wrote)

variable (wrote : desk.files.write certificatePath certificate.toUTF8.toList = (.ok (), between))

include wrote

theorem mintRoot_of_second_error (wrote' : between.write keyPath key.toUTF8.toList = (.error reason, final)) :
    desk.mintRoot format filter certificatePath keyPath commonName years =
      (.error (writeError keyPath reason), { desk with files := final }) := by
  rw [mintRoot_eq, made]
  exact (carryOut_bind_ok _ (run_writeFile_ok format filter wrote)).trans
    (carryOut_bind_error _ (run_writeFile_error format filter wrote'))

theorem mintRoot_of_writes (wrote' : between.write keyPath key.toUTF8.toList = (.ok (), final)) :
    ∃ logged, desk.mintRoot format filter certificatePath keyPath commonName years =
      (.ok (), { desk with files := final, logged }) := by
  obtain ⟨logged, said⟩ := run_log { desk with files := final } format filter .info "rift_mitm"
    ("Wrote root certificate to " ++ certificatePath ++ " and key to " ++ keyPath)
  refine ⟨logged, ?_⟩
  rw [mintRoot_eq, made]
  exact (carryOut_bind_ok _ (run_writeFile_ok format filter wrote)).trans
    ((carryOut_bind_ok _ (run_writeFile_ok format filter wrote')).trans said)

omit wrote in
/-- Minting succeeds as long as both paths lead to places that keep what is written and there is room,
even if the two are one place. -/
theorem mintRoot_of_keeps {place place' : Place} (located : desk.files.locateNew certificatePath = .ok place)
    (located' : desk.files.locateNew keyPath = .ok place') (keeps : desk.files.Keeps place)
    (keeps' : desk.files.Keeps place') (unlimited : desk.files.room = none) :
    ∃ logged, desk.mintRoot format filter certificatePath keyPath commonName years =
      (.ok (), { desk with
        files := (desk.files.put place (.file certificate.toUTF8.toList)).put place' (.file key.toUTF8.toList), logged }) :=
  mintRoot_of_writes desk format filter made (Files.write_of_keeps _ located keeps unlimited)
    (Files.write_of_keeps _ (keeps.locateNew_put _ located') (keeps'.put _) unlimited)

end MintRoot

/-- How minting goes: what was minted, what the command says, and the files that it leaves. -/
inductive MintCourse (desk : Desk) (certificatePath keyPath : String) :
    Option (String × String) → Except CommandError Unit → Files → Prop
  | unmade (error : CommandError) : MintCourse desk certificatePath keyPath none (.error error) desk.files
  | noCertificate {certificate key : String} {reason : IoError} {after : Files}
      (course : desk.files.WriteCourse certificatePath certificate.toUTF8.toList (.error reason) after) :
      MintCourse desk certificatePath keyPath (some (certificate, key)) (.error (writeError certificatePath reason)) after
  | noKey {certificate key : String} {reason : IoError} {between after : Files}
      (course : desk.files.WriteCourse certificatePath certificate.toUTF8.toList (.ok ()) between)
      (course' : between.WriteCourse keyPath key.toUTF8.toList (.error reason) after) :
      MintCourse desk certificatePath keyPath (some (certificate, key)) (.error (writeError keyPath reason)) after
  | both {certificate key : String} {between after : Files}
      (course : desk.files.WriteCourse certificatePath certificate.toUTF8.toList (.ok ()) between)
      (course' : between.WriteCourse keyPath key.toUTF8.toList (.ok ()) after) :
      MintCourse desk certificatePath keyPath (some (certificate, key)) (.ok ()) after

/-- Minting goes one of these ways. -/
theorem mintRoot_cases (desk : Desk) (format : LogFormat) (filter : Log.Filter)
    (certificatePath keyPath commonName : String) (years : Nat) :
    MintCourse desk certificatePath keyPath (Root.mint? commonName years desk.time desk.randomness)
      (desk.mintRoot format filter certificatePath keyPath commonName years).1
      (desk.mintRoot format filter certificatePath keyPath commonName years).2.files := by
  cases made : Root.mint? commonName years desk.time desk.randomness with
  | none =>
      rw [mintRoot_eq, made]
      exact .unmade _
  | some pair =>
      obtain ⟨certificate, key⟩ := pair
      have course := desk.files.course_write certificatePath certificate.toUTF8.toList
      rcases wrote : desk.files.write certificatePath certificate.toUTF8.toList with ⟨_ | _, between⟩
      · rw [wrote] at course
        rw [mintRoot_of_write_error desk format filter made wrote]
        exact .noCertificate course
      · rw [wrote] at course
        have course' := between.course_write keyPath key.toUTF8.toList
        rcases wrote' : between.write keyPath key.toUTF8.toList with ⟨_ | _, after⟩
        · rw [wrote'] at course'
          rw [mintRoot_of_second_error desk format filter made wrote wrote']
          exact .noKey course course'
        · rw [wrote'] at course'
          obtain ⟨logged, ended⟩ := mintRoot_of_writes desk format filter made wrote wrote'
          rw [ended]
          exact .both course course'

/-! ## What is loaded afterwards -/

section Afterwards

variable {before after : Desk} {between : Files} {certificatePath keyPath commonName certificate key : String}
  {years now : Nat} {seed : List UInt8} {place place' : Place}

/-- The pair that was minted is loaded from its files if these are two, and keep what is written. -/
theorem loadRoot_minted_iff (held : commonName.utf8ByteSize < Parts.textBound)
    (made : Root.mint? commonName years now seed = some (certificate, key))
    (first : before.files.Landed certificatePath certificate.toUTF8.toList between place)
    (second : between.Landed keyPath key.toUTF8.toList after.files place') (root : Root) :
    after.loadRoot certificatePath keyPath = .ok root ↔
      place ≠ place' ∧ before.files.Keeps place ∧ before.files.Keeps place' ∧
        root = .minted commonName seed certificate := by
  have whole := Root.ofPem_mint held made
  have there : after.files.locate certificatePath = .ok place :=
    (first.ways.trans second.ways).locate first.located
  have there' : after.files.locate keyPath = .ok place' := second.ways.locate second.located
  rw [loadRoot_iff]
  constructor
  · rintro ⟨certificate', key', read, read', accepted⟩
    have apart : place ≠ place' := by
      rintro rfl
      obtain ⟨-, rfl⟩ | rfl := second.keeps_or_empty rfl there read
      · rw [Root.ofPem_minted_key made] at accepted
        cases accepted
      · rw [Root.ofPem_empty] at accepted
        cases accepted
    obtain ⟨keeps, rfl⟩ | rfl := first.keeps_or_empty (second.others place apart) there read
    · obtain ⟨keeps', rfl⟩ | rfl := second.keeps_or_empty rfl there' read'
      · rw [Files.Keeps, first.others place' apart.symm] at keeps'
        exact ⟨apart, keeps, keeps', Except.ok.inj (accepted.symm.trans whole)⟩
      · exact absurd accepted (Root.ofPem_empty_key _ root)
    · rw [Root.ofPem_empty] at accepted
      cases accepted
  · rintro ⟨apart, keeps, keeps', rfl⟩
    have stands : after.files.entry? place = some (.file certificate.toUTF8.toList) := by
      rw [second.others place apart]
      exact first.entry?_of_keeps keeps
    have stands' : after.files.entry? place' = some (.file key.toUTF8.toList) := by
      rw [Files.Keeps, ← first.others place' apart.symm] at keeps'
      exact second.entry?_of_keeps keeps'
    exact ⟨certificate, key, Files.readText_file there stands, Files.readText_file there' stands', whole⟩

end Afterwards

/-- A root has been written to two paths. -/
structure Stored (before : Desk) (certificatePath keyPath : String) (root : Root) (after : Desk)
    (place place' : Place) : Prop where
  located : before.files.locateNew certificatePath = .ok place
  located' : before.files.locateNew keyPath = .ok place'
  others : ∀ other, other ≠ place → other ≠ place' → after.files.entry? other = before.files.entry? other
  /-- It is loaded from them if they lead to two places that keep what is written; else no root is. -/
  loads : ∀ loaded, after.loadRoot certificatePath keyPath = .ok loaded ↔
    place ≠ place' ∧ before.files.Keeps place ∧ before.files.Keeps place' ∧ loaded = root

section Ended

variable {desk after : Desk} {format : LogFormat} {filter : Log.Filter} {certificatePath keyPath commonName : String}
  {years : Nat}

theorem stored_of_mintRoot (held : commonName.utf8ByteSize < Parts.textBound)
    (ended : desk.mintRoot format filter certificatePath keyPath commonName years = (.ok (), after)) :
    ∃ certificate key place place',
      Root.mint? commonName years desk.time desk.randomness = some (certificate, key) ∧
        Stored desk certificatePath keyPath (.minted commonName desk.randomness certificate) after place place' := by
  have course := mintRoot_cases desk format filter certificatePath keyPath commonName years
  rw [ended] at course
  generalize made : Root.mint? commonName years desk.time desk.randomness = minted? at course
  cases course with
  | @both certificate key between _ course course' =>
      obtain ⟨place, first⟩ := course.landed
      obtain ⟨place', second⟩ := course'.landed
      have located : desk.files.locateNew keyPath = .ok place' :=
        first.ways.symm.locateNew second.located
      refine ⟨certificate, key, place, place', rfl, first.located, located, fun other apart apart' => ?_,
        loadRoot_minted_iff held made first second⟩
      exact (second.others other apart').trans (first.others other apart)

/-- **The files after minting.** If it succeeds, two places have been written and nothing else has
changed; the pair that was minted is loaded from the two paths if they lead to different places that
keep what is written, and otherwise no root is. If it fails, nothing has changed, or the certificate's
file could not be written to its end, or the whole new certificate has been written and the key has not. -/
theorem root_files {outcome : Except CommandError Unit} (held : commonName.utf8ByteSize < Parts.textBound)
    (ended : desk.mintRoot format filter certificatePath keyPath commonName years = (outcome, after)) :
    (outcome = .ok () → ∃ certificate key place place',
      Root.mint? commonName years desk.time desk.randomness = some (certificate, key) ∧
        Stored desk certificatePath keyPath (.minted commonName desk.randomness certificate) after place place') ∧
    ∀ error, outcome = .error error →
      Root.mint? commonName years desk.time desk.randomness = none ∧ after.files = desk.files ∨
      ∃ certificate key reason, Root.mint? commonName years desk.time desk.randomness = some (certificate, key) ∧
        (error = writeError certificatePath reason ∧
            desk.files.WriteCourse certificatePath certificate.toUTF8.toList (.error reason) after.files ∨
          error = writeError keyPath reason ∧ ∃ between,
            desk.files.WriteCourse certificatePath certificate.toUTF8.toList (.ok ()) between ∧
            between.WriteCourse keyPath key.toUTF8.toList (.error reason) after.files) := by
  constructor
  · rintro rfl
    exact stored_of_mintRoot held ended
  · rintro error rfl
    have course := mintRoot_cases desk format filter certificatePath keyPath commonName years
    rw [ended] at course
    dsimp only at course
    generalize after.files = left at course ⊢
    generalize Root.mint? commonName years desk.time desk.randomness = minted? at course ⊢
    cases course with
    | unmade error => exact .inl ⟨rfl, rfl⟩
    | @noCertificate certificate key reason _ course =>
        exact .inr ⟨certificate, key, reason, rfl, .inl ⟨rfl, course⟩⟩
    | @noKey certificate key reason between _ course course' =>
        exact .inr ⟨certificate, key, reason, rfl, .inr ⟨rfl, between, course, course'⟩⟩

end Ended

/-! ## Samples -/

theorem exists_mint : ∃ certificate key, Root.mint? "Root" 10 0 [] = some (certificate, key) := by
  have there : (Root.mint? "Root" 10 0 []).isSome = true := by decide +kernel
  obtain ⟨⟨certificate, key⟩, made⟩ := Option.isSome_iff_exists.mp there
  exact ⟨certificate, key, made⟩

theorem sampleName_held : "Root".utf8ByteSize < Parts.textBound := by decide +kernel

/-- Two new files. -/
theorem root_files_new : ∃ certificate key after, Root.mint? "Root" 10 0 [] = some (certificate, key) ∧
    Desk.mintRoot {} .text ⟨[]⟩ "ca.pem" "ca.key" "Root" 10 = (.ok (), after) ∧
    after.loadRoot "ca.pem" "ca.key" = .ok (.minted "Root" [] certificate) := by
  obtain ⟨certificate, key, made⟩ := exists_mint
  have located : Files.locateNew {} "ca.pem" = .ok ["tmp", ".", "ca.pem"] := Root.eq_ok_of_toOption (by decide +kernel)
  have located' : Files.locateNew {} "ca.key" = .ok ["tmp", ".", "ca.key"] := Root.eq_ok_of_toOption (by decide +kernel)
  have keeps : Files.Keeps {} ["tmp", ".", "ca.pem"] := .inl (by decide +kernel)
  have keeps' : Files.Keeps {} ["tmp", ".", "ca.key"] := .inl (by decide +kernel)
  obtain ⟨logged, ended⟩ := mintRoot_of_keeps {} .text ⟨[]⟩ made located located' keeps keeps' rfl
  obtain ⟨certificate', key', place, place', made', stored⟩ := (root_files sampleName_held ended).1 rfl
  cases made.symm.trans made'
  cases located.symm.trans stored.located
  cases located'.symm.trans stored.located'
  exact ⟨certificate, key, _, made, ended, (stored.loads _).mpr ⟨by decide +kernel, keeps, keeps', rfl⟩⟩

/-- A directory with a root in it. -/
def withRoot : Desk where
  files := (({} : Files).put ["tmp", ".", "ca.pem"] (.file Root.developmentPem.toUTF8.toList)).put
    ["tmp", ".", "ca.key"] (.file Root.developmentKeyPem.toUTF8.toList)

theorem accepted_development : ∃ subject, Root.ofPem Root.developmentPem Root.developmentKeyPem =
    .ok ⟨Root.developmentPem, subject, Root.developmentKey.publicKey, Root.developmentKey⟩ := by
  obtain ⟨subject, -, certifies⟩ := Root.certifies_development
  exact ⟨subject, Root.ofPem_ok_iff.mpr ⟨rfl, certifies, Root.signingKey_development⟩⟩

theorem sampleKey_ne_development : (KeyPair.ofSeed []).publicKey ≠ Root.developmentKey.publicKey := by decide +kernel

theorem minted_ne_development {certificate key : String} (made : Root.mint? "Root" 10 0 [] = some (certificate, key)) :
    Root.developmentPem ≠ certificate := by
  rintro rfl
  obtain ⟨subject, accepted⟩ := accepted_development
  have mixed := Root.ofPem_mixed (Root.ofPem_mint sampleName_held made) accepted
  exact sampleKey_ne_development (congrArg Root.certificateKey (Except.ok.inj (mixed.symm.trans accepted)))

theorem locateNew_missing {files : Files} (missing : files.entry? ["tmp", ".", "no"] = none) :
    files.locateNew "no/ca.key" = .error .noSuchFile := by
  have sound : Files.refusal? "no/ca.key" = none := by decide +kernel
  have names : Files.names "no/ca.key" = ["no", "ca.key"] := by decide +kernel
  have start : Files.start "no/ca.key" = ["tmp", "."] := by decide +kernel
  have stepped : Files.step ["tmp", "."] "no" = .ok ["tmp", ".", "no"] := Root.eq_ok_of_toOption (by decide +kernel)
  have leads : files.locate "no/ca.key" = .error .noSuchFile := by
    rw [Files.locate, sound, names, start]
    dsimp only
    have plain : files.resolve ["tmp", ".", "no"] = .ok ["tmp", ".", "no"] :=
      Files.resolve_plain fun target stands => by simp [missing] at stands
    rw [Files.follow_further _ _ _ (List.cons_ne_nil _ _), stepped]
    simp only [bind, Except.bind, plain, missing]
  rw [Files.locateNew, sound, names]
  exact leads

/-- A new certificate stands beside the old key. -/
theorem half_replaced : ∃ old new after,
    withRoot.loadRoot "ca.pem" "ca.key" = .ok old ∧ old.key.publicKey = old.certificateKey ∧
    withRoot.mintRoot .text ⟨[]⟩ "ca.pem" "no/ca.key" "Root" 10 =
      (.error (writeError "no/ca.key" .noSuchFile), after) ∧
    after.loadRoot "ca.pem" "ca.key" = .ok new ∧ old.pem ≠ new.pem ∧ new.key.publicKey ≠ new.certificateKey := by
  obtain ⟨certificate, key, made⟩ := exists_mint
  obtain ⟨subject, accepted⟩ := accepted_development
  have mixed := Root.ofPem_mixed (Root.ofPem_mint sampleName_held made) accepted
  have apart : ["tmp", ".", "ca.key"] ≠ ["tmp", ".", "ca.pem"] := by decide +kernel
  have located : withRoot.files.locateNew "ca.pem" = .ok ["tmp", ".", "ca.pem"] :=
    Root.eq_ok_of_toOption (by decide +kernel)
  have located' : withRoot.files.locateNew "ca.key" = .ok ["tmp", ".", "ca.key"] :=
    Root.eq_ok_of_toOption (by decide +kernel)
  have stands : withRoot.files.entry? ["tmp", ".", "ca.pem"] = some (.file Root.developmentPem.toUTF8.toList) :=
    (Files.entry?_put_of_ne _ _ apart.symm).trans (Files.entry?_put_self ..)
  have stands' : withRoot.files.entry? ["tmp", ".", "ca.key"] = some (.file Root.developmentKeyPem.toUTF8.toList) :=
    Files.entry?_put_self ..
  have keeps : withRoot.files.Keeps ["tmp", ".", "ca.pem"] := .inr ⟨_, stands⟩
  have missing : withRoot.files.entry? ["tmp", ".", "no"] = none := by rfl
  have wrote := Files.write_of_keeps certificate.toUTF8.toList located keeps rfl
  have ended := mintRoot_of_second_error withRoot .text ⟨[]⟩ made wrote
    (Files.write_of_astray (locateNew_missing ((Files.entry?_put_of_ne _ _ (by decide +kernel)).trans missing)))
  have there {path : String} {place : Place} (located : withRoot.files.locateNew path = .ok place) :
      (withRoot.files.put ["tmp", ".", "ca.pem"] (.file certificate.toUTF8.toList)).locate path = .ok place :=
    (Files.SameWays.refl _).locate (keeps.locateNew_put _ located)
  refine ⟨_, _, _, loadRoot_iff.mpr ⟨_, _, ?_, ?_, accepted⟩, rfl, ended, loadRoot_iff.mpr ⟨_, _, ?_, ?_, mixed⟩,
    minted_ne_development made, sampleKey_ne_development.symm⟩
  · exact Files.readText_file ((Files.SameWays.refl _).locate located) stands
  · exact Files.readText_file ((Files.SameWays.refl _).locate located') stands'
  · exact Files.readText_file (there located) (Files.entry?_put_self ..)
  · exact Files.readText_file (there located') ((Files.entry?_put_of_ne _ _ apart).trans stands')

theorem one_file : ∃ after, Desk.mintRoot {} .text ⟨[]⟩ "a.pem" "a.pem" "Root" 10 = (.ok (), after) ∧
    ∀ root, after.loadRoot "a.pem" "a.pem" ≠ .ok root := by
  obtain ⟨certificate, key, made⟩ := exists_mint
  have located : Files.locateNew {} "a.pem" = .ok ["tmp", ".", "a.pem"] := Root.eq_ok_of_toOption (by decide +kernel)
  have keeps : Files.Keeps {} ["tmp", ".", "a.pem"] := .inl (by decide +kernel)
  obtain ⟨logged, ended⟩ := mintRoot_of_keeps {} .text ⟨[]⟩ made located located keeps keeps rfl
  obtain ⟨_, _, place, place', -, stored⟩ := stored_of_mintRoot sampleName_held ended
  refine ⟨_, ended, fun root loaded => ((stored.loads root).mp loaded).1 ?_⟩
  exact Except.ok.inj (stored.located.symm.trans stored.located')

theorem on_device : ∃ after, Desk.mintRoot {} .text ⟨[]⟩ "/dev/null" "ca.key" "Root" 10 = (.ok (), after) ∧
    ∀ root, after.loadRoot "/dev/null" "ca.key" ≠ .ok root := by
  obtain ⟨certificate, key, made⟩ := exists_mint
  have located : Files.locateNew {} "/dev/null" = .ok ["dev", "null"] := Root.eq_ok_of_toOption (by decide +kernel)
  have located' : Files.locateNew {} "ca.key" = .ok ["tmp", ".", "ca.key"] := Root.eq_ok_of_toOption (by decide +kernel)
  have device : Files.entry? {} ["dev", "null"] = some .sink := by decide +kernel
  have keeps : Files.Keeps {} ["tmp", ".", "ca.key"] := .inl (by decide +kernel)
  obtain ⟨logged, ended⟩ := mintRoot_of_writes {} .text ⟨[]⟩ made (Files.write_of_sink located device)
    (Files.write_of_keeps _ located' keeps rfl)
  obtain ⟨_, _, place, place', -, stored⟩ := stored_of_mintRoot sampleName_held ended
  cases located.symm.trans stored.located
  refine ⟨_, ended, fun root loaded => ?_⟩
  obtain ⟨-, keeps, -⟩ := (stored.loads root).mp loaded
  simp [Files.Keeps, device] at keeps

/-- Minting may fail and leave a new certificate beside the old key; it may succeed with both texts in
one file, or with one of them on a device, and leave nothing that can be loaded. -/
theorem pair_lost :
    (∃ old new after,
      withRoot.loadRoot "ca.pem" "ca.key" = .ok old ∧ old.key.publicKey = old.certificateKey ∧
      withRoot.mintRoot .text ⟨[]⟩ "ca.pem" "no/ca.key" "Root" 10 =
        (.error (writeError "no/ca.key" .noSuchFile), after) ∧
      after.loadRoot "ca.pem" "ca.key" = .ok new ∧ old.pem ≠ new.pem ∧ new.key.publicKey ≠ new.certificateKey) ∧
    (∃ after, Desk.mintRoot {} .text ⟨[]⟩ "a.pem" "a.pem" "Root" 10 = (.ok (), after) ∧
      ∀ root, after.loadRoot "a.pem" "a.pem" ≠ .ok root) ∧
    ∃ after, Desk.mintRoot {} .text ⟨[]⟩ "/dev/null" "ca.key" "Root" 10 = (.ok (), after) ∧
      ∀ root, after.loadRoot "/dev/null" "ca.key" ≠ .ok root :=
  ⟨half_replaced, one_file, on_device⟩

end Desk

end Interceptor

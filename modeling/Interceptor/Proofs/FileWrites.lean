/-
# Interceptor.Proofs.FileWrites — what comes of writing a file

A file is written in place: what it held is gone before it is known whether there is room for what
it is to hold. `WriteCourse` lists every way that this can go, with what the files are afterwards,
and `course_write` says that there is no other. Whichever it is, at most one entry has changed, and
neither a directory nor a link has come or gone (`SameWays`), so every path leads where it led.

* `entry?_put_self`, `entry?_put_of_ne`: entries after one has been put;
* `course_write`: the courses of a write;
* `WriteCourse.landed`: a write that succeeds, and which entry can be read back;
* `SameWays.locate`: where a file was made, it is found.
-/
import Interceptor.Files
import Interceptor.Proofs.Tables

namespace Interceptor.Files

set_option autoImplicit false

/-! ## Entries -/

theorem entry?_put (files : Files) (place other : Place) (entry : FileEntry) :
    Files.entry? (files.put place entry) other = if other = place then some entry else files.entry? other := by
  have taken : (fun there : Place × FileEntry => decide (there.1 ≠ place)) = fun there => there.1 != place := by
    funext there
    by_cases same : there.1 = place <;> simp [bne, same]
  unfold entry? put
  rw [taken]
  exact lookup_put files.entries place other entry

@[simp] theorem entry?_put_self (files : Files) (place : Place) (entry : FileEntry) :
    Files.entry? (files.put place entry) place = some entry := by
  rw [entry?_put, if_pos rfl]

theorem entry?_put_of_ne (files : Files) {place other : Place} (entry : FileEntry) (apart : other ≠ place) :
    Files.entry? (files.put place entry) other = files.entry? other := by
  rw [entry?_put, if_neg apart]

/-! ## Writing -/

/-- Why what stands at a place cannot be written. -/
def obstacle? (files : Files) (place : Place) : Option IoError :=
  match files.entry? place with
  | some (.readOnly _) => some .permissionDenied
  | some .directory => some .isADirectory
  | some (.link _) => some .tooManyLinks
  | some .full => some .noSpace
  | _ => none

/-- What a file becomes by writing it: one is made if there is none, and each keeps its sort. -/
inductive Takes (files : Files) (place : Place) : (List UInt8 → FileEntry) → Prop
  | made (free : files.entry? place = none) : Takes files place .file
  | replaced {old : List UInt8} (stands : files.entry? place = some (.file old)) : Takes files place .file
  | hidden {old : List UInt8} (stands : files.entry? place = some (.writeOnly old)) : Takes files place .writeOnly

/-- There is this entry at a place now, and nothing else has changed. -/
structure Replaced (before : Files) (place : Place) (entry : FileEntry) (after : Files) : Prop where
  here : after.entry? place = some entry
  others : ∀ other, other ≠ place → after.entry? other = before.entry? other

/-- How writing a file goes, and what the files are afterwards. -/
inductive WriteCourse (files : Files) (path : String) (content : List UInt8) : Except IoError Unit → Files → Prop
  /-- There is no such place. -/
  | astray {error : IoError} (nowhere : files.locateNew path = .error error) :
      WriteCourse files path content (.error error) files
  | refused {place : Place} {error : IoError} (located : files.locateNew path = .ok place)
      (refused : files.obstacle? place = some error) : WriteCourse files path content (.error error) files
  /-- There is room for a part of it only, and this part is there. -/
  | fellShort {place : Place} {entry : List UInt8 → FileEntry} {after : Files} {size : Nat}
      (located : files.locateNew path = .ok place) (takes : files.Takes place entry)
      (limited : files.room.isSome) (less : size < content.length)
      (replaced : files.Replaced place (entry (content.take size)) after) :
      WriteCourse files path content (.error .noSpace) after
  /-- A device takes what is written and keeps nothing. -/
  | swallowed {place : Place} (located : files.locateNew path = .ok place)
      (device : files.entry? place = some .sink) : WriteCourse files path content (.ok ()) files
  | written {place : Place} {entry : List UInt8 → FileEntry} {after : Files}
      (located : files.locateNew path = .ok place) (takes : files.Takes place entry)
      (replaced : files.Replaced place (entry content) after) : WriteCourse files path content (.ok ()) after

/-- What a path may lead through. -/
inductive Leads : FileEntry → Prop
  | directory : Leads .directory
  | link (target : Option Place) : Leads (.link target)

/-- There are the same directories and the same links. -/
def SameWays (before after : Files) : Prop :=
  ∀ place way, Leads way → (after.entry? place = some way ↔ before.entry? place = some way)

theorem SameWays.refl (files : Files) : SameWays files files := fun _ _ _ => Iff.rfl

theorem SameWays.symm {before after : Files} (same : SameWays before after) : SameWays after before :=
  fun place way leads => (same place way leads).symm

theorem SameWays.trans {first second third : Files} (same : SameWays first second) (same' : SameWays second third) :
    SameWays first third :=
  fun place way leads => (same' place way leads).trans (same place way leads)

section Write

variable {files after : Files} {path : String} {content : List UInt8}

theorem replaced_put (files : Files) (place : Place) (entry : FileEntry) :
    files.Replaced place entry (files.put place entry) :=
  ⟨entry?_put_self .., fun _ apart => entry?_put_of_ne files entry apart⟩

theorem course_fill {place : Place} (located : files.locateNew path = .ok place) {entry : List UInt8 → FileEntry}
    (takes : files.Takes place entry) (old : Nat) : WriteCourse files path content
      (files.fill place entry old content).1 (files.fill place entry old content).2 := by
  unfold fill
  cases limited : files.room with
  | none => exact .written located takes (replaced_put files place _)
  | some room =>
      have put := replaced_put files place (entry (content.take (room + old)))
      by_cases enough : content.length ≤ room + old
      · rw [List.take_of_length_le enough] at put
        simp only [if_pos enough, List.take_of_length_le enough]
        exact .written located takes ⟨put.here, put.others⟩
      · simp only [if_neg enough]
        exact .fellShort located takes (limited ▸ rfl) (Nat.lt_of_not_le enough) ⟨put.here, put.others⟩

/-- Writing goes one of these ways. -/
theorem course_write (files : Files) (path : String) (content : List UInt8) :
    WriteCourse files path content (files.write path content).1 (files.write path content).2 := by
  unfold write
  cases located : files.locateNew path with
  | error error => exact .astray located
  | ok place =>
      dsimp only
      cases stands : files.entry? place with
      | none => exact course_fill located (.made stands) 0
      | some entry =>
          cases entry with
          | file old => exact course_fill located (.replaced stands) old.length
          | writeOnly old => exact course_fill located (.hidden stands) old.length
          | readOnly old => exact .refused located (by rw [obstacle?, stands])
          | directory => exact .refused located (by rw [obstacle?, stands])
          | link target => exact .refused located (by rw [obstacle?, stands])
          | full => exact .refused located (by rw [obstacle?, stands])
          | sink => exact .swallowed located stands

theorem Replaced.sameWays {place : Place} {entry : List UInt8 → FileEntry} (takes : files.Takes place entry)
    (replaced : files.Replaced place (entry content) after) : SameWays files after := by
  intro other way leads
  by_cases same : other = place
  · subst same
    rw [replaced.here]
    cases takes with
    | made free => cases leads <;> simp [free]
    | replaced stands => cases leads <;> simp [stands]
    | hidden stands => cases leads <;> simp [stands]
  · rw [replaced.others other same]

theorem WriteCourse.sameWays {outcome : Except IoError Unit} (course : WriteCourse files path content outcome after) :
    SameWays files after := by
  cases course with
  | astray nowhere => exact .refl files
  | refused located refused => exact .refl files
  | fellShort located takes limited less replaced => exact replaced.sameWays takes
  | swallowed located device => exact .refl files
  | written located takes replaced => exact replaced.sameWays takes

/-- Whether a file at a place holds what is written to it, for everybody to read: one that is made
does, and an ordinary one. -/
def Keeps (files : Files) (place : Place) : Prop :=
  files.entry? place = none ∨ ∃ old, files.entry? place = some (.file old)

/-- What a write that succeeds leaves behind. -/
structure Landed (files : Files) (path : String) (content : List UInt8) (after : Files) (place : Place) : Prop where
  located : files.locateNew path = .ok place
  shown : files.Keeps place ∧ after.entry? place = some (.file content) ∨
    ¬ files.Keeps place ∧ after.entry? place = some (.writeOnly content) ∨
    ¬ files.Keeps place ∧ after.entry? place = some .sink
  others : ∀ other, other ≠ place → after.entry? other = files.entry? other
  ways : SameWays files after

theorem WriteCourse.landed (course : WriteCourse files path content (.ok ()) after) :
    ∃ place, Landed files path content after place := by
  have ways := course.sameWays
  cases course with
  | @swallowed place located device =>
      have lost : ¬ files.Keeps place := by simp [Keeps, device]
      exact ⟨place, located, .inr (.inr ⟨lost, device⟩), fun _ _ => rfl, ways⟩
  | @written place entry _ located takes replaced =>
      refine ⟨place, located, ?_, replaced.others, ways⟩
      cases takes with
      | made free => exact .inl ⟨.inl free, replaced.here⟩
      | replaced stands => exact .inl ⟨.inr ⟨_, stands⟩, replaced.here⟩
      | hidden stands =>
          have lost : ¬ files.Keeps place := by simp [Keeps, stands]
          exact .inr (.inl ⟨lost, replaced.here⟩)

theorem Landed.entry?_of_keeps {place : Place} (landed : Landed files path content after place)
    (keeps : files.Keeps place) : after.entry? place = some (.file content) := by
  obtain ⟨-, file⟩ | ⟨lost, -⟩ | ⟨lost, -⟩ := landed.shown
  · exact file
  · exact absurd keeps lost
  · exact absurd keeps lost

/-- What is kept is written as long as there is no limit. -/
theorem write_of_keeps (content : List UInt8) {place : Place} (located : files.locateNew path = .ok place)
    (keeps : files.Keeps place) (unlimited : files.room = none) : files.write path content = (.ok (), files.put place (.file content)) := by
  unfold write
  rw [located]
  dsimp only
  obtain free | ⟨old, stands⟩ := keeps
  · simp only [free, fill, unlimited]
  · simp only [stands, fill, unlimited]

theorem write_of_astray {error : IoError} (nowhere : files.locateNew path = .error error) :
    files.write path content = (.error error, files) := by
  rw [write, nowhere]

theorem write_of_sink {place : Place} (located : files.locateNew path = .ok place)
    (device : files.entry? place = some .sink) : files.write path content = (.ok (), files) := by
  unfold write
  rw [located]
  simp only [device]

end Write

/-! ## Paths -/

section Resolve

variable {files : Files} {place target : Place}

theorem resolve_plain (plain : ∀ target, files.entry? place ≠ some (.link target)) :
    files.resolve place = .ok place := by
  unfold resolve
  split
  · exact absurd ‹_› (plain _)
  · exact absurd ‹_› (plain _)
  · rfl

theorem resolve_nowhere (stands : files.entry? place = some (.link none)) :
    files.resolve place = .error .noSuchFile := by
  rw [resolve, stands]

variable (stands : files.entry? place = some (.link (some target)))

include stands

theorem resolve_link (plain : ∀ further, files.entry? target ≠ some (.link further)) :
    files.resolve place = .ok target := by
  rw [resolve, stands]
  dsimp only
  split
  · exact absurd ‹_› (plain _)
  · rfl

theorem resolve_circle {further : Option Place} (circle : files.entry? target = some (.link further)) :
    files.resolve place = .error .tooManyLinks := by
  rw [resolve, stands]
  dsimp only
  rw [circle]

end Resolve

theorem follow_further (files : Files) (place : Place) (name : String) {rest : List String} (more : rest ≠ []) :
    files.follow place (name :: rest) = (do
      let next ← files.resolve (← step place name)
      match files.entry? next with
      | some .directory => files.follow next rest
      | some _ => .error .notADirectory
      | none => .error .noSuchFile) := by
  cases rest with
  | nil => exact absurd rfl more
  | cons second rest => rfl

namespace SameWays

variable {before after : Files} (same : SameWays before after) {place : Place}

include same

theorem resolve (place : Place) : after.resolve place = before.resolve place := by
  have plain {place : Place} (plain : ∀ target, before.entry? place ≠ some (.link target)) (target : Option Place) :
      after.entry? place ≠ some (.link target) := fun stands => plain target ((same place _ (.link target)).mp stands)
  have stands {place : Place} {target : Option Place} := (same place _ (.link target)).mpr
  by_cases linked : ∃ target, before.entry? place = some (.link target)
  · obtain ⟨target, there⟩ := linked
    cases target with
    | none => rw [resolve_nowhere there, resolve_nowhere (stands there)]
    | some target =>
        by_cases circle : ∃ further, before.entry? target = some (.link further)
        · obtain ⟨further, circle⟩ := circle
          rw [resolve_circle there circle, resolve_circle (stands there) (stands circle)]
        · have ends := not_exists.mp circle
          rw [resolve_link there ends, resolve_link (stands there) (plain ends)]
  · have here := not_exists.mp linked
    rw [resolve_plain here, resolve_plain (plain here)]

/-- A path leads where it led. -/
theorem follow {names : List String} {start : Place} (leads : before.follow start names = .ok place) :
    after.follow start names = .ok place := by
  induction names generalizing start with
  | nil => exact leads
  | cons name rest ih =>
      cases rest with
      | nil =>
          obtain ⟨next, stepped, resolved⟩ := bind_eq_ok_iff.mp leads
          exact bind_eq_ok_iff.mpr ⟨next, stepped, (same.resolve next).trans resolved⟩
      | cons second rest =>
          rw [follow_further _ _ _ (List.cons_ne_nil _ _)] at leads ⊢
          obtain ⟨place, stepped, further⟩ := bind_eq_ok_iff.mp leads
          obtain ⟨next, resolved, further⟩ := bind_eq_ok_iff.mp further
          refine bind_eq_ok_iff.mpr ⟨place, stepped, bind_eq_ok_iff.mpr ⟨next, (same.resolve place).trans resolved, ?_⟩⟩
          split at further
          · rename_i directory
            rw [(same next _ .directory).mpr directory]
            exact ih further
          · cases further
          · cases further

theorem locate {path : String} (located : before.locateNew path = .ok place) : after.locate path = .ok place := by
  unfold locateNew at located
  split at located
  · cases located
  · obtain ⟨_, _, further⟩ := bind_eq_ok_iff.mp located
    cases further
  · unfold Files.locate at located ⊢
    split at located
    · cases located
    · exact same.follow located

/-- So does the path of a file that may have to be made. -/
theorem locateNew {path : String} (located : before.locateNew path = .ok place) :
    after.locateNew path = .ok place := by
  have found := same.locate located
  unfold Files.locateNew at located ⊢
  split at located
  · cases located
  · obtain ⟨_, _, further⟩ := bind_eq_ok_iff.mp located
    cases further
  · exact found

end SameWays

section Keeps

variable {files : Files} {place other : Place} (keeps : files.Keeps place) (content : List UInt8)

include keeps

theorem Keeps.takes : files.Takes place .file := by
  obtain free | ⟨old, stands⟩ := keeps
  · exact .made free
  · exact .replaced stands

theorem Keeps.locateNew_put {path : String} (located : files.locateNew path = .ok other) :
    (files.put place (.file content)).locateNew path = .ok other :=
  (Replaced.sameWays keeps.takes (replaced_put files place _)).locateNew located

omit keeps in
theorem Keeps.put (keeps : files.Keeps other) : (files.put place (.file content)).Keeps other := by
  by_cases same : other = place
  · subst same
    exact .inr ⟨content, entry?_put_self ..⟩
  · rw [Keeps, entry?_put_of_ne files _ same]
    exact keeps

end Keeps

end Interceptor.Files

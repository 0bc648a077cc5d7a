import Turtle.FileSystem
import Turtle.Proofs.Fallible
import Turtle.Proofs.Procedures

/-
This file says what a file system holds after a file has been stored: the bytes under its path, and
all else as before. A file is stored where its path has been opened.
-/

namespace Turtle.FileSystem

open Fallible

/-- An entry is found where it was put, and every other one where it was before. -/
theorem lookup_put (names other : List Bytes) (entry : Entry)
    (entries : List (List Bytes × Entry)) :
    (put names entry entries).lookup other =
      if other = names then some entry else entries.lookup other := by
  induction entries with
  | nil => rw [put, Table.lookup_cons]
  | cons first rest inductionHypothesis =>
      by_cases kept : first.1 = names
      · by_cases same : other = names <;> simp [put, Table.lookup_cons, kept, same]
      · by_cases here : other = first.1
        · simp [put, Table.lookup_cons, here, kept]
        · simp [put, Table.lookup_cons, here, kept, inductionHypothesis]

/-- What was put at a place before is forgotten. -/
theorem put_put (names : List Bytes) (first second : Entry)
    (entries : List (List Bytes × Entry)) :
    put names second (put names first entries) = put names second entries := by
  induction entries with
  | nil => simp [put]
  | cons entry rest inductionHypothesis =>
      by_cases kept : entry.1 = names
      · simp [put, kept]
      · simp [put, kept, inductionHypothesis]

@[simp]
theorem store_store (files : FileSystem) (place : List Bytes) (first second : Bytes) :
    (files.store place first).store place second = files.store place second := by
  simp only [store, put_put]

theorem entry?_of_ne_nil {files : FileSystem} {names : List Bytes} (named : names ≠ []) :
    files.entry? names = files.entries.lookup names := by
  simp [ entry?, named]

/-- A path leads to the same place wherever all directories are kept. -/
theorem locate_of_directories {files other : FileSystem}
    (kept : ∀ names, files.entry? names = some .directory → other.entry? names = some .directory)
    {here place : List Bytes} {names : List Bytes}
    (found : files.locate here names = .ok place) : other.locate here names = .ok place := by
  induction names generalizing here with
  | nil => exact found
  | cons name rest inductionHypothesis =>
      rw [locate] at found ⊢
      split at found
      · cases found
      · next short =>
          rw [if_neg short]
          dsimp only at found ⊢
          split at found
          · next last => rwa [if_pos last]
          · next more =>
              rw [if_neg more]
              split at found
              · next directory =>
                  rw [kept _ directory]
                  exact inductionHypothesis found
              · cases found
              · cases found

/-- The path leads to a file with these bytes, where no directory was, and every other place is as
it was. -/
structure Saves (before after : FileSystem) (path bytes : Bytes) : Prop where
  readBytes : after.readBytes path = .ok bytes
  others : ∃ place, before.resolve path = .ok place ∧ after.resolve path = .ok place ∧
    before.entry? place ≠ some .directory ∧
    ∀ names, names ≠ place → after.entry? names = before.entry? names
  workingDirectory : after.workingDirectory = before.workingDirectory
  room : after.room = before.room

/-- A path that is a single name leads into the working directory. -/
theorem resolve_of_single (files : FileSystem) {path : Bytes} (checked : checkPath path = .ok ())
    (relative : (path.head? == some slash) = false) (single : FileSystem.names path = [path])
    (short : path.length ≤ 255) :
    files.resolve path = .ok (descend files.workingDirectory path) := by
  rw [resolve, checked, ok_bind, start, relative, single]
  simp only [locate, List.isEmpty_nil, if_neg (Nat.not_lt.mpr short)]
  rfl

/-- A path for a new file does not end in a slash, and it leads to the same place as any path. -/
theorem resolveNew_ok_iff {files : FileSystem} {path : Bytes} {place : List Bytes} :
    files.resolveNew path = .ok place ↔
      files.resolve path = .ok place ∧ endsInSlash path = false := by
  rw [resolveNew, resolve]
  cases checkPath path with
  | error fault => exact iff_of_false nofun (fun both => nomatch both.1)
  | ok done =>
      rw [ok_bind, ok_bind]
      cases endsInSlash path with
      | true =>
          refine iff_of_false ?_ (fun both => nomatch both.2)
          intro found
          obtain ⟨parent, -, refused⟩ := bind_eq_ok_iff.mp found
          cases refused
      | false => exact (and_iff_left rfl).symm

/-- A path can be opened where it leads to a place for a file and no directory is there. -/
theorem openNew_ok_iff {files : FileSystem} {path : Bytes} {place : List Bytes} :
    files.openNew path = .ok place ↔
      files.resolve path = .ok place ∧ endsInSlash path = false ∧
        files.entry? place ≠ some .directory := by
  rw [openNew, bind_eq_ok_iff]
  constructor
  · rintro ⟨found, resolved, more⟩
    obtain ⟨before, ends⟩ := resolveNew_ok_iff.mp resolved
    split at more
    · cases more
    · next vacant =>
        cases more
        exact ⟨before, ends, vacant⟩
  · rintro ⟨resolved, ends, vacant⟩
    refine ⟨place, resolveNew_ok_iff.mpr ⟨resolved, ends⟩, ?_⟩
    split
    · next directory => exact absurd directory vacant
    · rfl

/-- A file that is stored where its path was opened is read back under that path, and nothing else
changes. -/
theorem saves_of_openNew {files : FileSystem} {path : Bytes} {place : List Bytes}
    (opened : files.openNew path = .ok place) (bytes : Bytes) :
    Saves files (files.store place bytes) path bytes := by
  obtain ⟨before, ends, vacant⟩ := openNew_ok_iff.mp opened
  obtain ⟨done, checked, located⟩ := bind_eq_ok_iff.mp before
  have named : place ≠ [] := by
    rintro rfl
    exact vacant rfl
  have here : entry? (files.store place bytes) place = some (.file bytes) := by
    rw [entry?_of_ne_nil named, store, lookup_put, if_pos rfl]
  have others : ∀ names, names ≠ place →
      entry? (files.store place bytes) names = files.entry? names := by
    intro names different
    rw [ entry?, entry?, store, lookup_put, if_neg different]
  have kept : ∀ names, files.entry? names = some .directory →
      entry? (files.store place bytes) names = some .directory := by
    intro names directory
    rw [others names fun same => vacant (same ▸ directory), directory]
  have behind : (files.store place bytes).resolve path = .ok place := by
    rw [resolve, checked]
    exact locate_of_directories kept located
  refine ⟨?_, ⟨place, before, behind, vacant, others⟩, rfl, rfl⟩
  rw [FileSystem.readBytes, behind, ok_bind, here, ends]
  rfl

/-- The way to a place is never blocked by a null byte. -/
theorem locate_failsOnly (files : FileSystem) (here names : List Bytes) :
    FailsOnly (· ≠ .nullByte) (files.locate here names) := by
  induction names generalizing here with
  | nil => exact failsOnly_ok here
  | cons name rest inductionHypothesis =>
      rw [locate]
      split
      · exact failsOnly_error nofun
      · dsimp only
        split
        · exact failsOnly_ok _
        · split
          · exact inductionHypothesis _
          · exact failsOnly_error nofun
          · exact failsOnly_error nofun

theorem checkPath_nullByte_iff {path : Bytes} :
    checkPath path = .error .nullByte ↔ 0 ∈ path := by
  rw [checkPath, ← List.contains_iff_mem]
  grind

/-- A path cannot be opened for a null byte exactly where it holds one. -/
theorem openNew_nullByte_iff {files : FileSystem} {path : Bytes} :
    files.openNew path = .error .nullByte ↔ 0 ∈ path := by
  rw [← checkPath_nullByte_iff]
  cases checked : checkPath path with
  | error fault =>
      have refused : files.openNew path = .error fault := by
        rw [openNew, resolveNew, checked]
        rfl
      rw [refused, Except.error.injEq, Except.error.injEq]
  | ok done =>
      have others : FailsOnly (· ≠ .nullByte) (files.openNew path) := by
        rw [openNew, resolveNew, checked, ok_bind]
        refine FailsOnly.bind ?_ fun place => ?_
        · split
          · exact (locate_failsOnly files _ _).bind fun _ => failsOnly_error nofun
          · exact locate_failsOnly files _ _
        · split
          · exact failsOnly_error nofun
          · exact failsOnly_ok _
      exact iff_of_false (fun refused => others _ refused rfl) nofun

/-- There is room for a file of this size. -/
def Fits (files : FileSystem) (size : Nat) : Prop :=
  ∀ room, files.room = some room → size ≤ room

theorem not_fits_iff {files : FileSystem} {size : Nat} :
    ¬files.Fits size ↔ ∃ room, files.room = some room ∧ room < size := by
  simp [Fits]

theorem fill_of_fits {files : FileSystem} {bytes : Bytes} (fits : files.Fits bytes.length)
    (place : List Bytes) : files.fill place bytes = (.ok (), files.store place bytes) := by
  rw [fill]
  cases left : files.room with
  | none => rfl
  | some room =>
      dsimp only
      rw [if_pos (fits room left)]

/-- A file that does not fit is cut off. -/
theorem fill_of_short {files : FileSystem} {bytes : Bytes} {room : Nat}
    (left : files.room = some room) (short : room < bytes.length) (place : List Bytes) :
    files.fill place bytes = (.error .noSpace, files.store place (bytes.take room)) := by
  rw [fill, left]
  dsimp only
  rw [if_neg (Nat.not_le.mpr short)]

end Turtle.FileSystem

/-
  A disk that answers every call as it should: nothing fails that need not fail.

  A disk is a world of files with the list of the paths where a file may be, so that a directory can
  be listed.  Every answer of `serve` is one that the world may give (`serve_step`), so a program that
  runs on a disk has an execution in the world.
-/
import Mathlib.Data.List.Dedup
import Aurora.ConfigProfiles.Filesystem

namespace Aurora.ConfigProfiles

open Program

/-- A world, and where its files are. -/
structure Disk where
  world : FsWorld
  entries : List Path
  covers : ∀ path, world.files path ≠ none → path ∈ entries

namespace Disk

/-! ## Changing a disk -/

/-- Another world with the same files. -/
def become (disk : Disk) (w : FsWorld) (h : w.files = disk.world.files) : Disk where
  world := w
  entries := disk.entries
  covers path hpath := disk.covers path (h ▸ hpath)

/-- Another world, where one file is different. -/
def change (disk : Disk) (w : FsWorld) (path : Path) (content : Option Bytes)
    (h : w.files = Function.update disk.world.files path content) : Disk where
  world := w
  entries := path :: disk.entries
  covers other hother := by
    by_cases hsame : other = path
    · exact hsame ▸ List.mem_cons_self
    · rw [h, Function.update_of_ne hsame] at hother
      exact List.mem_cons_of_mem _ (disk.covers other hother)

/-- A disk without files. -/
def blank : Disk := ⟨⟨fun _ => none, 0, fun _ => ⟨[], false, 0, []⟩, []⟩, [], nofun⟩

/-- Write a file from outside. -/
def put (disk : Disk) (path : Path) (data : Bytes) : Disk :=
  disk.change (disk.world.put path (some data)) path (some data) rfl

/-! ## Answers -/

variable (directories : List Path) (uid : Nat)

/-- A file or a directory of the user, with the expected mode. -/
def metadata (disk : Disk) (path : Path) : Except OsError Stat :=
  match disk.world.files path with
  | some data => .ok ⟨.regular, fileMode, 1, uid, 0, 0, data.length, 0⟩
  | none =>
    if path ∈ directories then .ok ⟨.directory, directoryMode, 1, uid, 0, 0, 0, 0⟩
    else .error .fileNotFound

/-- The names of a directory. -/
def names (disk : Disk) (directory : Path) : List String :=
  (disk.entries.filterMap fun path =>
    if path.dropLast = directory then path.getLast? else none).dedup

/-- Open a file that is there. -/
def openFile (disk : Disk) (path : Path) : Except OsError Descriptor × Disk :=
  match disk.world.files path with
  | none => (.error .fileNotFound, disk)
  | some _ => (.ok disk.world.opened, disk.become (disk.world.opening path false) rfl)

/-- Create a file that is not there. -/
def create (disk : Disk) (path : Path) (created : Bool) : Except OsError Descriptor × Disk :=
  match disk.world.files path with
  | none => (.ok disk.world.opened, disk.change
      ((disk.world.opening path created).put path (some [])) path (some []) rfl)
  | some _ => (.error .fileExists, disk)

/-- The answer of the disk, and what it changes. -/
def serve (disk : Disk) : (c : FsCall) → FsInterface.Answer c × Disk
  | .lstat path => (disk.metadata directories uid path, disk)
  | .stat path => (disk.metadata directories uid path, disk)
  | .fstat d => (disk.metadata directories uid (disk.world.records d).path, disk)
  | .openDirectory path => (.ok disk.world.opened, disk.become (disk.world.opening path false) rfl)
  | .openRead path => disk.openFile path
  | .openNew path => disk.create path true
  | .openLock path true => disk.create path false
  | .openLock path false => disk.openFile path
  | .fchmod _ => (.ok (), disk)
  | .read d limit =>
    let chunk := ((disk.world.content d).drop (disk.world.records d).position).take limit
    (.ok chunk, disk.become (disk.world.advancing d chunk.length) rfl)
  | .write d data =>
    (.ok (data.length : Int), disk.change (disk.world.appending d data) (disk.world.records d).path
      (some (disk.world.content d ++ data)) rfl)
  | .fsync _ => (.ok (), disk)
  | .close d => (.ok (), disk.become (disk.world.closing d true) rfl)
  | .unlink path => (.ok (), disk.change (disk.world.put path none) path none rfl)
  | .replace source destination =>
    (.ok (), (disk.change (disk.world.put source none) source none rfl).change
      ((disk.world.put source none).put destination (disk.world.files source)) destination
      (disk.world.files source) rfl)
  | .scandir d => (.ok (disk.names (disk.world.records d).path), disk)
  | .flock _ => (.ok (), disk)
  | .unlock _ => (.ok (), disk)
  | .token bytes => (.ok (String.ofList (List.replicate (2 * bytes) '0')), disk)

variable {directories uid}

theorem mem_names {disk : Disk} {directory : Path} {name : String}
    (h : disk.world.files (directory ++ [name]) ≠ none) : name ∈ disk.names directory := by
  refine List.mem_dedup.mpr (List.mem_filterMap.mpr ⟨_, disk.covers _ h, ?_⟩)
  rw [List.dropLast_concat, if_pos rfl, List.getLast?_concat]

/-- What is said to be missing is no file. -/
theorem metadata_missing {disk : Disk} {path : Path}
    (h : disk.metadata directories uid path = .error .fileNotFound) :
    disk.world.files path = none := by
  unfold metadata at h
  split at h
  · cases h
  · assumption

theorem openFile_cases (disk : Disk) (path : Path) :
    (∃ e, disk.openFile path = (.error e, disk)) ∨ disk.world.files path ≠ none ∧
      disk.openFile path = (.ok disk.world.opened, disk.become (disk.world.opening path false) rfl) := by
  unfold openFile
  cases hfile : disk.world.files path with
  | none => exact .inl ⟨_, rfl⟩
  | some data => exact .inr ⟨Option.some_ne_none data, rfl⟩

theorem create_cases (disk : Disk) (path : Path) (created : Bool) :
    (∃ e, disk.create path created = (.error e, disk)) ∨ disk.world.files path = none ∧
      disk.create path created = (.ok disk.world.opened, disk.change
        ((disk.world.opening path created).put path (some [])) path (some []) rfl) := by
  unfold create
  cases hfile : disk.world.files path with
  | none => exact .inr ⟨rfl, rfl⟩
  | some data => exact .inl ⟨_, rfl⟩

/-- The answers of a disk are answers of its world. -/
theorem serve_step (disk : Disk) (c : FsCall) :
    FsStep disk.world ⟨c, (serve directories uid disk c).1⟩ (serve directories uid disk c).2.world := by
  cases c with
  | lstat path => exact .lstat path _ metadata_missing
  | stat path => exact .passive (by trivial) _
  | fstat d => exact .passive (by trivial) _
  | openDirectory path => exact .openDirectory path
  | openRead path =>
    show FsStep disk.world ⟨.openRead path, (disk.openFile path).1⟩ (disk.openFile path).2.world
    rcases disk.openFile_cases path with ⟨e, hrefused⟩ | ⟨hexists, hopened⟩
    · rw [hrefused]
      exact .refused (by trivial) e
    · rw [hopened]
      exact .openRead hexists
  | openNew path =>
    show FsStep disk.world ⟨.openNew path, (disk.create path true).1⟩ (disk.create path true).2.world
    rcases disk.create_cases path true with ⟨e, hrefused⟩ | ⟨hnew, hcreated⟩
    · rw [hrefused]
      exact .refused (by trivial) e
    · rw [hcreated]
      exact .openNew hnew
  | openLock path exclusive =>
    cases exclusive with
    | true =>
      show FsStep disk.world ⟨.openLock path true, (disk.create path false).1⟩
        (disk.create path false).2.world
      rcases disk.create_cases path false with ⟨e, hrefused⟩ | ⟨hnew, hcreated⟩
      · rw [hrefused]
        exact .refused (by trivial) e
      · rw [hcreated]
        exact .createLock hnew
    | false =>
      show FsStep disk.world ⟨.openLock path false, (disk.openFile path).1⟩
        (disk.openFile path).2.world
      rcases disk.openFile_cases path with ⟨e, hrefused⟩ | ⟨hexists, hopened⟩
      · rw [hrefused]
        exact .refused (by trivial) e
      · rw [hopened]
        exact .openLock hexists
  | fchmod d => exact .passive (by trivial) _
  | read d limit =>
    refine .read (List.take_prefix _ _) (List.length_take_le _ _) fun hnone hlimit => ?_
    -- no bytes of a positive number come only from the end
    rcases List.take_eq_nil_iff.mp hnone with hzero | hend
    · exact absurd hlimit (by omega)
    · exact hend
  | write d data =>
    have hall : data.take (data.length : Int).toNat = data := by
      rw [Int.toNat_natCast, List.take_length]
    have hstep := FsStep.write (w := disk.world) d data data.length
    rwa [hall] at hstep
  | fsync d => exact .passive (by trivial) _
  | close d => exact .close d
  | unlink path => exact .unlink path
  | replace source destination => exact .replace source destination
  | scandir d => exact .scandir (fun _ => mem_names) (List.nodup_dedup _)
  | flock d => exact .passive (by trivial) _
  | unlock d => exact .passive (by trivial) _
  | token bytes => exact .passive (by trivial) _

variable (directories uid)

/-- What a program does on a disk. -/
def execution {ε α : Type} (disk : Disk) (p : Program FsInterface ε α) :
    Execution FsStep p disk.world :=
  Execution.played (serve directories uid) world serve_step p disk

/-- The disk after a program. -/
def after {ε α : Type} (disk : Disk) (p : Program FsInterface ε α) : Disk :=
  (p.play (serve directories uid) disk).2

variable {directories uid}

theorem execution_final {ε α : Type} (disk : Disk) (p : Program FsInterface ε α) :
    (disk.execution directories uid p).final = (disk.after directories uid p).world := rfl

theorem put_files (disk : Disk) (path : Path) (data : Bytes) :
    (disk.put path data).world.files = Function.update disk.world.files path (some data) := rfl

end Disk

end Aurora.ConfigProfiles

/-
Settings that are there and are not read.

Whether a file is there is told by a look-up, and every fault of the look-up is taken for its absence. So the defaults
hold where a directory above the file is closed to the user or where links lead round in a circle, and not only where
nothing is. Only a file that was found can be refused.

- `load_found`, `load_of_lookup_error`: all that is read hangs on the look-up.
- `load_of_readText`, `load_unreadable`: what comes of a file that can be read, and which files are refused.
- `load_eq_strict_iff`: where it makes a difference that a fault is taken for absence.
- `settings_ignored_iff`: which settings are ignored.
-/
import CheckReport.Proofs.Disk.Opened
import CheckReport.Proofs.Disk.Reading
import CheckReport.Settings.Store

namespace CheckReport.Settings

variable {path : Path} {disk : Disk} {loc : Disk.Location} {node : Disk.Node}

/-! ## Settings that are found -/

/-- the settings of a file that is taken to be there -/
def ofFile (path : Path) (disk : Disk) : Except Fault Settings :=
  match disk.readText path with
  | .error fault => .error (.unreadable path fault)
  | .ok text =>
    match ofText? text with
    | none => .error (.malformed path)
    | some settings =>
      match settings.collector.check with
      | .error _ => .error (.zeroTimeoutIn path)
      | .ok () => .ok settings

theorem isPresent_iff : disk.isPresent path = true ↔ ∃ found, disk.lookup .target path = .ok found := by
  rw [Disk.isPresent]
  cases disk.lookup .target path with
  | error fault => simp [Except.isOk, Except.toBool]
  | ok found => simp [Except.isOk, Except.toBool]

theorem load_found {found : Disk.Location × Disk.Node} (seen : disk.lookup .target path = .ok found) :
    load path disk = ofFile path disk := by
  have present : disk.isPresent path = true := isPresent_iff.2 ⟨found, seen⟩
  rw [load, present]
  rfl

/-- whatever the fault, it is taken for absence -/
theorem load_of_lookup_error {fault : Disk.Fault} (h : disk.lookup .target path = .error fault) :
    load path disk = .ok defaults := by
  have absent : disk.isPresent path = false := by
    rw [← Bool.not_eq_true, isPresent_iff]
    rintro ⟨found, seen⟩
    rw [h] at seen
    cases seen
  rw [load, absent]
  rfl

/-! ## Files that are read -/

variable {text : String}

/-- what comes of a text that is read -/
theorem load_of_readText (read : disk.readText path = .ok text) :
    load path disk = match ofText? text with
      | none => .error (.malformed path)
      | some settings => if settings.collector.timeoutSecs = 0 then .error (.zeroTimeoutIn path) else .ok settings := by
  obtain ⟨found, seen⟩ := Disk.lookup_of_read ((Disk.readText_eq_ok_iff_read disk path text).1 read)
  rw [load_found seen, ofFile, read]
  simp only [Collector.check]
  cases ofText? text with
  | none => rfl
  | some settings =>
    simp only
    split_ifs
    · rfl
    · rfl

/-! ## Files that are refused -/

theorem ofFile_eq_unreadable_iff (fault : Disk.Fault) :
    ofFile path disk = .error (.unreadable path fault) ↔ disk.readText path = .error fault := by
  unfold ofFile
  constructor
  · intro h
    split at h
    · cases h
      assumption
    split at h
    · cases h
    split at h
    · cases h
    · cases h
  · intro h
    rw [h]

/-- **A file that is found is refused exactly if it cannot be read**, with its fault. -/
theorem load_unreadable (seen : disk.lookup .target path = .ok (loc, node)) (fault : Disk.Fault) :
    load path disk = .error (.unreadable path fault) ↔ Disk.Unread disk.user node fault := by
  rw [load_found seen, ofFile_eq_unreadable_iff, Disk.readText_eq_error_iff seen]

/-! ## Main result -/

/-- as `load`, but only the fault that says that nothing is there is taken for absence -/
def loadStrictly (path : Path) (disk : Disk) : Except Fault Settings :=
  match disk.lookup .target path with
  | .error .notFound => .ok defaults
  | .error fault => .error (.unreadable path fault)
  | .ok _ => ofFile path disk

theorem load_eq_strict_iff (path : Path) (disk : Disk) :
    load path disk = loadStrictly path disk ↔ ∀ fault, disk.lookup .target path = .error fault → fault = .notFound := by
  cases seen : disk.lookup .target path with
  | ok found =>
    rw [load_found seen, loadStrictly, seen]
    simp
  | error fault =>
    rw [load_of_lookup_error seen, loadStrictly, seen]
    cases fault with
    | _ => simp

/-- what decides whether settings are read -/
structure LooksUp (path : Path) (disk : Disk) : Prop where
  /-- a file that is found is read, and refused exactly if that fails -/
  found : ∀ loc node, disk.lookup .target path = .ok (loc, node) → disk.Stands path ∧
    load path disk = ofFile path disk ∧
    ∀ fault, load path disk = .error (.unreadable path fault) ↔ Disk.Unread disk.user node fault
  /-- every fault of the look-up is taken for absence -/
  unseen : ∀ fault, disk.lookup .target path = .error fault → load path disk = .ok defaults
  /-- what stands there all the same is what the user is kept from -/
  hidden : disk.Stands path → ∀ fault, disk.lookup .target path = .error fault → fault = .accessDenied
  /-- no fault is passed over exactly if there is none, or the one that says that nothing is there -/
  strict : load path disk = loadStrictly path disk ↔
    ∀ fault, disk.lookup .target path = .error fault → fault = .notFound

/-- **Which settings are ignored**: those whose look-up fails, for whatever reason. A file that is found is never ignored:
it is read, or the fault is reported. -/
theorem settings_ignored_iff (path : Path) (disk : Disk) : LooksUp path disk := by
  refine { found := ?found, unseen := fun fault h => load_of_lookup_error h, hidden := ?hidden,
           strict := load_eq_strict_iff path disk }
  case found =>
    intro loc node seen
    exact ⟨Disk.stands_of_lookup seen, load_found seen, load_unreadable seen⟩
  case hidden =>
    intro stands fault h
    rcases Disk.lookup_of_stands stands with ⟨found, seen⟩ | denied
    · rw [h] at seen
      cases seen
    · rw [h] at denied
      cases denied
      rfl

/-- a disk with nothing on it but its root -/
def bareDisk : Disk := ⟨⟨some ⟨.directory, .newDirectory, ⟨0, 0⟩, ⟨0⟩⟩, .empty⟩, [], ⟨0, 0⟩, ⟨0⟩⟩

def fileHolding (data : Text.Utf8.Bytes) : Disk.Node := ⟨.file data, .newFile, ⟨0, 0⟩, ⟨0⟩⟩

/-- a disk with settings in a directory that no one may search -/
def closedDisk : Disk :=
  let inner : Disk.Location := [Text.Utf8.encode "p"]
  (bareDisk.put inner ⟨.directory, .ofBits 0o666, ⟨0, 0⟩, ⟨0⟩⟩).put (Text.Utf8.encode "c" :: inner)
    (fileHolding (Text.Utf8.encode "[log]\nlevel='r'\n"))

/-- the settings stand on the disk, the user is kept from them, and the defaults hold without a word -/
theorem settings_overlooked :
    let path : Path := .ofString "p/c"
    (closedDisk.opened.lookup .target path).isOk = true ∧ closedDisk.lookup .target path = .error .accessDenied ∧
      load path closedDisk.opened = .ok { defaults with log := ⟨"r"⟩ } ∧ load path closedDisk = .ok defaults ∧
      loadStrictly path closedDisk = .error (.unreadable path .accessDenied) := by
  decide +kernel

end CheckReport.Settings

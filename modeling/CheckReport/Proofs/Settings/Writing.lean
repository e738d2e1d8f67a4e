/-
Writing the default settings.

The defaults are written in place of whatever the file held, and the directories above it that are missing are made. What
is read under the path afterwards gives the defaults again. Nothing else on the disk is touched; a write that fails has
touched no more than the directories that it made.

- `load_of_defaultText`: the text that is written gives the defaults.
- `defaulted_error`, `defaulted_file`, `defaulted_device`: how a write ends.
- `defaults_written`: what is on the disk then.
-/
import CheckReport.Proofs.Disk.Directories
import CheckReport.Proofs.Disk.Reading
import CheckReport.Proofs.Settings.Loading

namespace CheckReport.Settings

open Text.Utf8 (Bytes encode)

variable {path : Path} {disk made after : Disk} {loc : Disk.Location} {node : Disk.Node}

/-! ## What is read again -/

theorem load_of_text {text : String} (gives : ofText? text = some defaults) (read : disk.read path = .ok (encode text)) :
    load path disk = .ok defaults := by
  rw [load_of_readText ((Disk.readText_eq_ok_iff_read disk path text).2 read), gives]
  rfl

/-- the text that is written gives the defaults -/
theorem load_of_defaultText (seen : disk.lookup .target path = .ok (loc, node))
    (content : node.content = .file (encode defaultText)) {data : Bytes} (read : disk.read path = .ok data) :
    load path disk = .ok defaults := by
  have whole : disk.read path = .ok (encode defaultText) := by
    rw [Disk.read, seen]
    simp only [Disk.rights_of_read seen read, Bool.not_true, Bool.false_eq_true, if_false, content]
  exact load_of_text (by decide +kernel) whole

/-- so does nothing at all, which is what is read from something that keeps no bytes -/
theorem load_of_device (seen : disk.lookup .target path = .ok (loc, node)) (file : node.isFile = false)
    (directory : node.isDirectory = false) {data : Bytes} (read : disk.read path = .ok data) :
    load path disk = .ok defaults := by
  have nothing : disk.read path = .ok (encode "") := by
    rw [Disk.read, seen]
    simp only [Disk.rights_of_read seen read, Bool.not_true, Bool.false_eq_true, if_false]
    rw [Disk.Node.isFile] at file
    rw [Disk.Node.isDirectory] at directory
    cases content : node.content with
    | file data =>
      rw [content] at file
      cases file
    | directory =>
      rw [content] at directory
      cases directory
    | _ => rfl
  exact load_of_text (by decide +kernel) nothing

/-! ## What is touched -/

/-- what stood at the location stands there still, or nothing did and it is a new directory above the path -/
def Untouched (path : Path) (disk after : Disk) (loc : Disk.Location) : Prop :=
  after.node? loc = disk.node? loc ∨ (disk.node? loc = none ∧
    ∃ above : Path, above.IsAbove path ∧ after.lookup .target above = .ok (loc, disk.newDirectory))

/-- the location is that of the file, which holds the defaults; its mode and its owner are as before, or those of a new
file -/
def Rewritten (path : Path) (disk after : Disk) (loc : Disk.Location) : Prop :=
  ∃ node, after.lookup .target path = .ok (loc, node) ∧ after.node? loc = some node ∧
    Disk.Rewrites disk loc (fun _ => encode defaultText) node

theorem untouched_of_grown {paths : List Path} (grown : Disk.Grown disk paths after)
    (above : ∀ q ∈ paths, q.IsAbove path) (loc : Disk.Location) : Untouched path disk after loc :=
  (grown.node?_eq loc).imp_right fun ⟨missing, q, mem, there⟩ => ⟨missing, q, above q mem, there⟩

/-- a file put among the directories leaves them where they are -/
theorem Untouched.put (untouched : Untouched path disk made loc) {place : Disk.Location}
    (filed : Disk.Filed made after place node) (other : loc ≠ place) : Untouched path disk after loc := by
  have same : after.node? loc = made.node? loc := by rw [filed.node?_eq, if_neg other]
  rcases untouched with kept | ⟨missing, q, above, there⟩
  · exact Or.inl (same.trans kept)
  · exact Or.inr ⟨missing, q, above, Disk.lookup_kept filed.alike rfl there⟩

/-- no file stands where a directory was made, so that the file is the one of the disk before -/
theorem rewrites_of_grown {paths : List Path} {edit : Bytes → Bytes} (grown : Disk.Grown disk paths made)
    (rewrites : Disk.Rewrites made loc edit node) : Disk.Rewrites disk loc edit node := by
  have same : made.node? loc = disk.node? loc := by
    rcases grown.node?_eq loc with same | ⟨-, q, -, there⟩
    · exact same
    · cases rewrites.was _ (Disk.node?_of_lookup there)
  have bytes_eq : made.bytes loc = disk.bytes loc := Disk.bytes_of_node? same
  refine { content := ?content, rest := ?rest }
  case content => rw [rewrites.content, bytes_eq]
  case rest =>
    have rest := rewrites.rest
    rwa [same, grown.user_eq, grown.now_eq] at rest

/-! ## How a write ends -/

/-- what comes of writing the defaults -/
structure Defaulted (path : Path) (disk : Disk) (result : Except Disk.Fault Unit) (after : Disk) : Prop where
  user_eq : after.user = disk.user
  workingDirectory_eq : after.workingDirectory = disk.workingDirectory
  now_eq : after.now = disk.now
  /-- the file is there, so that the defaults are not those of a file that is missing -/
  there : result = .ok () → ∃ loc node, after.lookup .target path = .ok (loc, node) ∧ node.isDirectory = false
  /-- if it can be read, the defaults are read again, whatever it held before -/
  round_trip : result = .ok () → ∀ data, after.read path = .ok data → load path after = .ok defaults
  /-- the file is the only one that is touched -/
  written : result = .ok () → ∀ loc, Untouched path disk after loc ∨ Rewritten path disk after loc
  failed : ∀ fault, result = .error fault → ∀ loc, Untouched path disk after loc

section Endings

variable {paths : List Path} (grown : Disk.Grown disk paths made) (above : ∀ q ∈ paths, q.IsAbove path)

include grown above

theorem defaulted_error (fault : Disk.Fault) : Defaulted path disk (.error fault) made where
  user_eq := grown.user_eq
  workingDirectory_eq := grown.workingDirectory_eq
  now_eq := grown.now_eq
  there h := by cases h
  round_trip h := by cases h
  written h := by cases h
  failed _ _ := untouched_of_grown grown above

theorem defaulted_file {place : Disk.Place} (resolved : made.resolve .file path = .ok place)
    (rewrites : Disk.Rewrites made place.loc (fun _ => encode defaultText) node) :
    Defaulted path disk (.ok ()) (made.put place.loc node) := by
  have filed := rewrites.filed
  have seen : (made.put place.loc node).lookup .target path = .ok (place.loc, node) := by
    rw [Disk.lookup, Disk.resolve_filed filed (by simp) (Disk.resolve_target resolved) rfl]
  refine { user_eq := grown.user_eq, workingDirectory_eq := grown.workingDirectory_eq, now_eq := grown.now_eq,
           there := ?there, round_trip := ?round, written := ?written, failed := ?failed }
  case there =>
    have noDirectory : node.isDirectory = false := by
      rw [Disk.Node.isDirectory, rewrites.content]
      rfl
    exact fun _ => ⟨place.loc, node, seen, noDirectory⟩
  case round =>
    intro _ data read
    exact load_of_defaultText seen rewrites.content read
  case written =>
    intro _ loc
    by_cases own : loc = place.loc
    · rw [own]
      exact Or.inr ⟨node, seen, filed.node?_self, rewrites_of_grown grown rewrites⟩
    · exact Or.inl ((untouched_of_grown grown above loc).put filed own)
  case failed =>
    intro fault h
    cases h

theorem defaulted_device (resolved : made.resolve .file path = .ok (.found loc node)) (file : node.isFile = false)
    (directory : node.isDirectory = false) : Defaulted path disk (.ok ()) made := by
  have seen : made.lookup .target path = .ok (loc, node) := by rw [Disk.lookup, Disk.resolve_target resolved]
  refine { user_eq := grown.user_eq, workingDirectory_eq := grown.workingDirectory_eq, now_eq := grown.now_eq,
           there := ?there, round_trip := ?round, written := ?written, failed := ?failed }
  case there => exact fun _ => ⟨loc, node, seen, directory⟩
  case round =>
    intro _ data read
    exact load_of_device seen file directory read
  case written => exact fun _ loc => Or.inl (untouched_of_grown grown above loc)
  case failed =>
    intro fault h
    cases h

end Endings

/-! ## Main result -/

/-- first the directories, then the file -/
theorem writeDefault_cases (path : Path) (disk : Disk) : ∃ paths made, (∀ q ∈ paths, Path.IsAbove q path) ∧
    Disk.Grown disk paths made ∧ ((∃ fault, writeDefault path disk = (.error fault, made)) ∨
      writeDefault path disk = made.overwrite path (encode defaultText)) := by
  unfold writeDefault
  cases parent : path.parent? with
  | none => exact ⟨[], disk, by simp, Disk.Grown.refl disk [], Or.inr rfl⟩
  | some dir =>
    obtain ⟨paths, above, grown⟩ := Disk.makeDirectories_grown disk parent
    rcases hm : disk.makeDirectories dir with ⟨result, made⟩
    rw [hm] at grown
    cases result with
    | error fault => exact ⟨paths, made, above, grown, Or.inl ⟨fault, by simp only [hm]⟩⟩
    | ok => exact ⟨paths, made, above, grown, Or.inr (by simp only [hm])⟩

/-- **Defaults that are written are read again, and nothing else is touched.** For every path and every disk: after a
write that succeeded, a file that can be read gives the defaults, whatever it held before; the only nodes that are not
what they were are that file and new directories above the path; and a write that fails has left every node as it was,
and at most made such directories. -/
theorem defaults_written (path : Path) (disk : Disk) :
    Defaulted path disk (writeDefault path disk).1 (writeDefault path disk).2 := by
  obtain ⟨paths, made, above, grown, ⟨fault, failed⟩ | passed⟩ := writeDefault_cases path disk
  · rw [failed]
    exact defaulted_error grown above fault
  · rw [passed]
    cases wrote : (made.overwrite path (encode defaultText)).1 with
    | error fault =>
      rw [Disk.overwrite_error wrote]
      exact defaulted_error grown above fault
    | ok =>
      rcases Disk.overwrite_ok wrote with ⟨place, node, resolved, rewrites, put⟩ |
        ⟨same, loc, node, resolved, file, directory⟩
      · rw [put]
        exact defaulted_file grown above resolved rewrites
      · rw [same]
        exact defaulted_device grown above resolved file directory

/-- a disk with a file that is no text -/
def garbledDisk : Disk := bareDisk.put [encode "c"] (fileHolding [0xFF, 0xFE])

/-- the defaults are read where there were no settings, and where there was not even a directory -/
theorem defaults_written_garbled :
    load (.ofString "c") garbledDisk = .error (.unreadable (.ofString "c") .notUtf8) ∧
      load (.ofString "c") (writeDefault (.ofString "c") garbledDisk).2 = .ok defaults ∧
      load (.ofString "x/y/c") (writeDefault (.ofString "x/y/c") garbledDisk).2 = .ok defaults := by
  refine ⟨by decide +kernel, ?replaced, ?fresh⟩
  case replaced =>
    exact (defaults_written (.ofString "c") garbledDisk).round_trip (by decide +kernel) (encode defaultText)
      (by decide +kernel)
  case fresh =>
    exact (defaults_written (.ofString "x/y/c") garbledDisk).round_trip (by decide +kernel) (encode defaultText)
      (by decide +kernel)

end CheckReport.Settings

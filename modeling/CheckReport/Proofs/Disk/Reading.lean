/-
What is read where something was written.

A look-up for writing ends at a file or at a place where nothing is. No look-up goes on from there: when a file is put
there, every way to the place is as it was, for the next write and for reading. So what is appended under a path is read
under it, behind what was read before.

- `resolve_target`: what is found for writing is found for reading.
- `resolve_filed`: the way to a place at which a file was put.
- `append_filed`: what an append puts there.
- `readText_eq_error_iff`: why nothing is read as a text.
- `readText_append`: what is read under a path to which a text was appended.
-/
import CheckReport.Proofs.Disk.Append
import CheckReport.Proofs.Disk.Entries
import CheckReport.Proofs.Text.Utf8

namespace CheckReport.Disk

variable {disk other : Disk} {loc : Location} {node : Node}

/-! ## Looking up for writing and for reading -/

/-- a stride for writing that is not refused is one for reading -/
theorem stride_target {here : Spot disk} {name : Name} {rest : List Name} {made : Stride disk}
    (h : stride .file here name rest = made) (goes : ∀ fault, made ≠ .stop (.error fault)) :
    stride .target here name rest = made := by
  unfold stride at h ⊢
  cases hs : here.searchable name with
  | error fault =>
    rw [hs] at h
    exact absurd h.symm (goes fault)
  | ok =>
    rw [hs] at h
    simp only at h ⊢
    split_ifs at h with stays climbs slashed long
    · rw [if_pos stays]
      exact h
    · rw [if_neg stays, if_pos climbs]
      exact h
    · exact absurd h.symm (goes _)
    · exact absurd h.symm (goes _)
    · rw [if_neg stays, if_neg climbs, if_neg (by simp), if_neg long, ← h]
      cases (here.down name).node? with
      | none => rfl
      | some node => simp only [enter, reduceCtorEq, decide_false, Bool.and_false]

theorem walkFrom_target {jump jump' : Spot disk → Path → List Name → Except Fault Place} {place : Place}
    (hjump : ∀ here target rest, jump here target rest = .ok place → jump' here target rest = .ok place)
    {names : List Name} {here : Spot disk} (h : walkFrom .file jump here names = .ok place) :
    walkFrom .target jump' here names = .ok place := by
  induction names generalizing here with
  | nil => exact h
  | cons name rest ih =>
    rw [walkFrom_cons] at h ⊢
    cases hs : stride .file here name rest with
    | stop result =>
      rw [hs] at h
      obtain rfl : result = .ok place := h
      rw [stride_target hs (by simp)]
    | go next =>
      rw [hs] at h
      rw [stride_target hs (by simp)]
      exact ih h
    | jump target =>
      rw [hs] at h
      rw [stride_target hs (by simp)]
      exact hjump here target rest h

theorem walk_target (links : ℕ) {names : List Name} {here : Spot disk} {place : Place}
    (h : walk .file links here names = .ok place) : walk .target links here names = .ok place := by
  induction links generalizing here names with
  | zero => exact walkFrom_target (fun _ _ _ hj => hj) h
  | succ links ih =>
    refine walkFrom_target (fun here target rest hj => ?_) h
    split at hj
    · cases hj
    · rename_i htarget
      rw [if_neg htarget]
      exact ih hj

/-- **What is found for writing is found for reading.** -/
theorem resolve_target {path : Path} {place : Place} (h : disk.resolve .file path = .ok place) :
    disk.resolve .target path = .ok place := by
  unfold resolve at h ⊢
  split at h
  · cases h
  · exact walk_target maxLinks h

/-! ## A file put in its place -/

/-- on the other disk a file stands at a location at which a file or nothing stood, and nothing else is different -/
structure Filed (disk other : Disk) (loc : Location) (node : Node) : Prop where
  user_eq : other.user = disk.user
  workingDirectory_eq : other.workingDirectory = disk.workingDirectory
  isFile : node.isFile = true
  was : ∀ old, disk.node? loc = some old → old.isFile = true
  node?_eq : ∀ place, other.node? place = if place = loc then some node else disk.node? place

namespace Filed

theorem alike (filed : Filed disk other loc node) : Alike disk other where
  user_eq := filed.user_eq
  workingDirectory_eq := filed.workingDirectory_eq
  kept place old hn hf := by
    rw [filed.node?_eq, if_neg, hn]
    rintro rfl
    rw [filed.was old hn] at hf
    cases hf

theorem node?_self (filed : Filed disk other loc node) : other.node? loc = some node := by
  rw [filed.node?_eq, if_pos rfl]

end Filed

variable {aim : Aim}

/-- what a walk does at the name of a file -/
theorem enter_of_isFile {here : Spot disk} {name : Name} {rest : List Name} (h : node.isFile = true) :
    enter aim here name rest (some node) = .go (here.down name) := by
  obtain ⟨content, mode, owner, modified⟩ := node
  cases content with
  | file data => rfl
  | _ => cases h

/-- a name at which a walk on the first disk goes on leads on in the same way on the other -/
theorem enter_filed (filed : Filed disk other loc node) (haim : aim ≠ .entry) {start : Location} {name : Name}
    {rest : List Name} {old : Node} (hn : disk.node? (name :: start) = some old) :
    enter aim (Spot.ofLocation start : Spot other) name rest (other.node? (name :: start)) =
      (enter aim (Spot.ofLocation start : Spot disk) name rest (some old)).onto other := by
  rw [filed.node?_eq]
  split_ifs with hloc
  · have file := filed.was old (hloc ▸ hn)
    rw [enter_of_isFile filed.isFile, enter_of_isFile file, Spot.down_ofLocation, Spot.down_ofLocation]
    rfl
  · rw [hn]
    simp only [enter, haim, decide_false, Bool.and_false, Bool.false_eq_true, if_false]
    cases old.content with
    | link target => rfl
    | _ =>
      simp only [Spot.down_ofLocation]
      rfl

/-- all that a stride on the first disk can do: it is refused; it finds nothing behind the last name, and goes to the file
if that is where the file was put; or it leads on, in the same way on both disks -/
theorem stride_filed (filed : Filed disk other loc node) (haim : aim ≠ .entry) (start : Location) (name : Name)
    (rest : List Name) :
    (∃ fault, stride aim (Spot.ofLocation start : Spot disk) name rest = .stop (.error fault)) ∨
    (stride aim (Spot.ofLocation start : Spot disk) name rest = .stop (.ok (.missing start name)) ∧ rest = [] ∧
      (name :: start = loc → stride aim (Spot.ofLocation start : Spot other) name rest = .go (Spot.ofLocation loc))) ∨
    ((∀ result, stride aim (Spot.ofLocation start : Spot disk) name rest ≠ .stop result) ∧
      stride aim (Spot.ofLocation start : Spot other) name rest =
        (stride aim (Spot.ofLocation start : Spot disk) name rest).onto other) := by
  unfold stride
  cases hs : (Spot.ofLocation start : Spot disk).searchable name with
  | error fault => exact Or.inl ⟨fault, rfl⟩
  | ok =>
    rw [searchable_kept filed.alike hs]
    simp only
    -- only the last case, that of a proper name, looks at a node
    split_ifs
    · exact Or.inr (Or.inr ⟨by simp, rfl⟩)
    · exact Or.inr (Or.inr ⟨by simp, rfl⟩)
    · exact Or.inl ⟨_, rfl⟩
    · exact Or.inl ⟨_, rfl⟩
    · have below : ((Spot.ofLocation start : Spot disk).down name).node? = disk.node? (name :: start) := Spot.node?_eq _
      have onOther : ((Spot.ofLocation start : Spot other).down name).node? = other.node? (name :: start) :=
        Spot.node?_eq _
      rw [below, onOther]
      cases hn : disk.node? (name :: start) with
      | none =>
        cases rest with
        | nil =>
          refine Or.inr (Or.inl ⟨rfl, rfl, fun hloc => ?_⟩)
          rw [hloc, filed.node?_self, enter_of_isFile filed.isFile, Spot.down_ofLocation, hloc]
        | cons next rest => exact Or.inl ⟨.notFound, rfl⟩
      | some old =>
        refine Or.inr (Or.inr ⟨?_, enter_filed filed haim hn⟩)
        simp only [enter, haim, decide_false, Bool.and_false, Bool.false_eq_true, if_false]
        cases old.content with
        | _ => simp

theorem walkFrom_filed (filed : Filed disk other loc node) (haim : aim ≠ .entry)
    {jump : Spot disk → Path → List Name → Except Fault Place}
    {jump' : Spot other → Path → List Name → Except Fault Place} {place : Place} (hloc : place.loc = loc)
    (hjump : ∀ start target rest, jump (Spot.ofLocation start) target rest = .ok place →
      jump' (Spot.ofLocation start) target rest = .ok (.found loc node)) {names : List Name} {start : Location}
    (h : walkFrom aim jump (Spot.ofLocation start) names = .ok place) :
    walkFrom aim jump' (Spot.ofLocation start) names = .ok (.found loc node) := by
  have ends : walkFrom aim jump' (Spot.ofLocation loc) [] = .ok (.found loc node) := by
    rw [walkFrom, Spot.node?_eq]
    simp only [Spot.ofLocation, filed.node?_self]
  induction names generalizing start with
  | nil =>
    have same : start = loc := by
      rw [walkFrom] at h
      split at h
      · cases h
        exact hloc
      · cases h
    rw [same]
    exact ends
  | cons name rest ih =>
    rw [walkFrom_cons] at h ⊢
    rcases stride_filed filed haim start name rest with ⟨fault, refused⟩ | ⟨missing, rfl, goes⟩ | ⟨leads, same⟩
    · rw [refused] at h
      cases h
    · rw [missing] at h
      cases h
      rw [goes hloc]
      exact ends
    · rw [same]
      cases hs : stride aim (Spot.ofLocation start : Spot disk) name rest with
      | stop result => exact absurd hs (leads result)
      | go next =>
        rw [hs] at h
        rw [next.eq_ofLocation] at h
        exact ih h
      | jump target =>
        rw [hs] at h
        exact hjump start target rest h

theorem walk_filed (filed : Filed disk other loc node) (haim : aim ≠ .entry) (links : ℕ) {names : List Name}
    {start : Location} {place : Place} (hloc : place.loc = loc)
    (h : walk aim links (Spot.ofLocation start : Spot disk) names = .ok place) :
    walk aim links (Spot.ofLocation start : Spot other) names = .ok (.found loc node) := by
  induction links generalizing names start with
  | zero => exact walkFrom_filed filed haim hloc (fun _ _ _ hj => by cases hj) h
  | succ links ih =>
    refine walkFrom_filed filed haim hloc (fun start target rest hj => ?_) h
    split at hj
    · cases hj
    · rename_i htarget
      rw [if_neg htarget]
      rw [Spot.start_ofLocation] at hj ⊢
      exact ih hj

/-- **The way to a place at which a file was put** leads to the file. -/
theorem resolve_filed (filed : Filed disk other loc node) (haim : aim ≠ .entry) {path : Path} {place : Place}
    (h : disk.resolve aim path = .ok place) (hloc : place.loc = loc) :
    other.resolve aim path = .ok (.found loc node) := by
  rw [resolve] at h ⊢
  cases checked : checkPath path with
  | error fault =>
    rw [checked] at h
    cases h
  | ok =>
    simp only [checked, follow, Spot.start_ofLocation] at h ⊢
    rw [filed.workingDirectory_eq]
    exact walk_filed filed haim maxLinks hloc h

/-! ## What a write puts in its place -/

/-- the user may read what stands at the location, if anything does -/
def Readable (disk : Disk) (loc : Location) : Prop :=
  ∀ node, disk.node? loc = some node → (node.rights disk.user).read = true

section Rewritten

variable {edit : Text.Utf8.Bytes → Text.Utf8.Bytes}

theorem Rewrites.filed (rewrites : Rewrites disk loc edit node) : Filed disk (disk.put loc node) loc node where
  user_eq := rfl
  workingDirectory_eq := rfl
  isFile := by rw [Node.isFile, rewrites.content]
  was := rewrites.was
  node?_eq place := node?_put disk loc place node

/-- the user may read what was written if the one there could be read -/
theorem Rewrites.readable (rewrites : Rewrites disk loc edit node) (readable : disk.Readable loc) :
    (disk.put loc node).Readable loc := by
  intro node' hn
  rw [rewrites.filed.node?_self] at hn
  cases hn
  rcases rewrites.rest with ⟨-, fresh⟩ | ⟨old, stands, -, changed⟩
  · -- a new file is its owner's to read
    have own : node.rights disk.user = Mode.newFile.owner := by rw [fresh, Node.rights, if_pos rfl]
    exact congrArg Rights.read own
  · have same : node.rights disk.user = old.rights disk.user := by rw [changed, Node.rights, Node.rights]
    exact (congrArg Rights.read same).trans (readable old stands)

end Rewritten

/-- **What an append puts in its place**: a file, which the user may read if the one there could be read. -/
theorem append_filed {path : Path} {data : Text.Utf8.Bytes} (h : (disk.append path data).1 = .ok ()) :
    ∃ place node, disk.resolve .file path = .ok place ∧ node.content = .file (disk.bytes place.loc ++ data) ∧
      Filed disk (disk.append path data).2 place.loc node ∧
      (disk.Readable place.loc → (disk.append path data).2.Readable place.loc) := by
  rcases write_ok h with ⟨place, node, hr, rewrites, hput⟩ | ⟨hnull, -⟩
  · have put : (disk.append path data).2 = disk.put place.loc node := hput
    rw [put]
    exact ⟨place, node, hr, rewrites.content, rewrites.filed, rewrites.readable⟩
  · cases hnull

/-- the next write goes where the append went -/
theorem target?_append {path : Path} {data : Text.Utf8.Bytes} (h : (disk.append path data).1 = .ok ()) :
    (disk.append path data).2.target? path = disk.target? path := by
  obtain ⟨place, node, hr, -, filed, -⟩ := append_filed h
  rw [target?, resolve_filed filed (by simp) hr rfl, target?, hr]
  rfl

/-! ## Texts -/

section Reading

variable {path : Path} {data : Text.Utf8.Bytes}

theorem readText_eq_ok_iff_read (disk : Disk) (path : Path) (text : String) :
    disk.readText path = .ok text ↔ disk.read path = .ok (Text.Utf8.encode text) := by
  rw [readText]
  cases disk.read path with
  | error fault => simp
  | ok data =>
    simp only [Except.ok.injEq, ← Text.Utf8.decode?_eq_some_iff]
    cases Text.Utf8.decode? data with
    | none => simp
    | some found => simp

theorem lookup_of_read (h : disk.read path = .ok data) : ∃ found, disk.lookup .target path = .ok found := by
  cases seen : disk.lookup .target path with
  | error fault =>
    rw [read, seen] at h
    cases h
  | ok found => exact ⟨found, rfl⟩

theorem rights_of_read (seen : disk.lookup .target path = .ok (loc, node)) (h : disk.read path = .ok data) :
    (node.rights disk.user).read = true := by
  rw [read, seen] at h
  simp only at h
  split_ifs at h with closed
  simpa using closed

/-- why a node cannot be read as a text -/
inductive Unread (user : User) (node : Node) : Fault → Prop where
  | denied (h : (node.rights user).read = false) : Unread user node .accessDenied
  | directory (h : (node.rights user).read = true) (content : node.content = .directory) : Unread user node .isDirectory
  | noText (data : Text.Utf8.Bytes) (h : (node.rights user).read = true) (content : node.content = .file data)
      (bytes : ∀ text, data ≠ Text.Utf8.encode text) : Unread user node .notUtf8

/-- what is found is read as a text unless there is one of the reasons -/
theorem readText_eq_error_iff (seen : disk.lookup .target path = .ok (loc, node)) (fault : Fault) :
    disk.readText path = .error fault ↔ Unread disk.user node fault := by
  rw [readText, read, seen]
  constructor
  · intro h
    cases may : (node.rights disk.user).read with
    | false =>
      simp only [may, Bool.not_false, if_true] at h
      cases h
      exact .denied may
    | true =>
      simp only [may, Bool.not_true, Bool.false_eq_true, if_false] at h
      cases content : node.content with
      | file data =>
        rw [content] at h
        simp only at h
        cases text : Text.Utf8.decode? data with
        | none =>
          rw [text] at h
          cases h
          exact .noText data may content ((Text.Utf8.decode?_eq_none_iff data).1 text)
        | some found =>
          rw [text] at h
          cases h
      | directory =>
        rw [content] at h
        cases h
        exact .directory may content
      | _ =>
        -- what is neither a file nor a directory gives no bytes
        rw [content] at h
        cases h
  · intro unread
    cases unread with
    | denied may => simp only [may, Bool.not_false, if_true]
    | directory may content => simp only [may, Bool.not_true, Bool.false_eq_true, if_false, content]
    | noText data may content bytes =>
      simp only [may, Bool.not_true, Bool.false_eq_true, if_false, content,
        (Text.Utf8.decode?_eq_none_iff data).2 bytes]

end Reading

/-- what stands under a path is read as this text; where nothing is, a text begins -/
def Reads (disk : Disk) (path : Path) (text : String) : Prop :=
  disk.readText path = .ok text ∨ (disk.readText path = .error .notFound ∧ text = "")

theorem readText_missing {path : Path} {dir : Location} {name : Name}
    (h : disk.resolve .target path = .ok (.missing dir name)) : disk.readText path = .error .notFound := by
  rw [readText, read, lookup, h]

/-- a file that is found is read if the user may, and if it holds a text -/
theorem readText_eq_ok_iff {path : Path} {data : Text.Utf8.Bytes} (h : disk.resolve .target path = .ok (.found loc node))
    (content : node.content = .file data) (text : String) : disk.readText path = .ok text ↔
      (node.rights disk.user).read = true ∧ data = Text.Utf8.encode text := by
  rw [readText_eq_ok_iff_read, read, lookup, h]
  simp only [content]
  split_ifs with closed
  · rw [Bool.not_eq_true'] at closed
    simp [closed]
  · rw [Bool.not_eq_true', Bool.not_eq_false] at closed
    simp [closed]

/-- a file that is found is not missing -/
theorem readText_ne_notFound {path : Path} {data : Text.Utf8.Bytes} (h : disk.resolve .target path = .ok (.found loc node))
    (content : node.content = .file data) : disk.readText path ≠ .error .notFound := by
  rw [readText, read, lookup, h]
  simp only [content]
  split_ifs
  · simp
  · simp only
    split <;> simp

/-- what is read where a file may be written is what the bytes there say -/
theorem Reads.bytes_eq {path : Path} {text : String} {place : Place} (reads : disk.Reads path text)
    (h : disk.resolve .file path = .ok place) (was : ∀ old, disk.node? place.loc = some old → old.isFile = true) :
    disk.Readable place.loc ∧ disk.bytes place.loc = Text.Utf8.encode text := by
  have holds := resolve_holds h
  have target := resolve_target h
  cases place with
  | missing dir name =>
    have none : disk.node? (name :: dir) = none := holds
    rw [Reads, readText_missing target] at reads
    obtain ⟨-, rfl⟩ := reads.resolve_left (by simp)
    refine ⟨fun node hn => ?_, ?_⟩
    · rw [Place.loc, none] at hn
      cases hn
    · rw [bytes, Place.loc, none]
      rfl
  | found loc node =>
    have stands : disk.node? loc = some node := holds
    obtain ⟨data, content⟩ : ∃ data, node.content = .file data := by
      have file := was node stands
      unfold Node.isFile at file
      split at file
      · exact ⟨_, by assumption⟩
      · cases file
    have found := reads.resolve_right fun absent => readText_ne_notFound target content absent.1
    obtain ⟨may, encoded⟩ := (readText_eq_ok_iff target content text).1 found
    refine ⟨fun node' hn => ?_, ?_⟩
    · rw [Place.loc, stands] at hn
      cases hn
      exact may
    · rw [bytes, Place.loc, stands, Option.map_some, content]
      exact encoded

/-- **A text that was appended** is read behind the one before. -/
theorem readText_append {path : Path} {text more : String} (reads : disk.Reads path text)
    (h : (disk.append path (Text.Utf8.encode more)).1 = .ok ()) :
    (disk.append path (Text.Utf8.encode more)).2.readText path = .ok (text ++ more) := by
  obtain ⟨place, node, hr, content, filed, readable⟩ := append_filed h
  obtain ⟨may, bytes_eq⟩ := reads.bytes_eq hr filed.was
  have found := resolve_filed filed (by simp) (resolve_target hr) rfl
  refine (readText_eq_ok_iff found content _).2 ⟨readable may node (resolve_holds found), ?_⟩
  rw [bytes_eq, Text.Utf8.encode, Text.Utf8.encode, Text.Utf8.encode, String.toList_append,
    Text.Utf8.encodeChars_append]

end CheckReport.Disk

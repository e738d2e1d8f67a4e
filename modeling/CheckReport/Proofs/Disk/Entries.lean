/-
Entries of a directory.

A directory that a path leads to is entered by a path with one name more. What is found there hangs on the directory
and on that one name alone (`lookup_join`), however many links and steps up the path takes. Regular files do not matter
on the way to anything else: a look-up that ends at no file ends there on every disk that differs in files only
(`lookup_kept`). Where a directory is listed, its names have to be names: none is empty or holds a slash or a zero, and
none is there twice (`Disk.isSound`).
-/
import Mathlib.Tactic
import CheckReport.Disk.Operations
import CheckReport.Proofs.Disk.Walk

namespace CheckReport

open Disk (Location Name Node Spot noName slash)

/-! ## Names of a path with one name more -/

namespace Disk

/-- a name that an entry of a directory can have -/
def isEntryName (name : Name) : Bool :=
  !name.isEmpty && name != hereName && name != upName && !name.contains slash && !name.contains 0

theorem isEntryName_iff (name : Name) :
    isEntryName name = true ↔ name ≠ [] ∧ name ≠ hereName ∧ name ≠ upName ∧ slash ∉ name ∧ 0 ∉ name := by
  simp [isEntryName, and_assoc]

end Disk

namespace Path

open Text.Utf8 (Bytes)

theorem splitAtByte_ne_nil (mark : UInt8) (bytes : Bytes) : splitAtByte mark bytes ≠ [] := by
  cases bytes with
  | nil => simp [splitAtByte]
  | cons b bytes =>
    rw [splitAtByte]
    split
    · simp
    · split <;> simp

theorem splitAtByte_append (mark : UInt8) (front back : Bytes) :
    splitAtByte mark (front ++ mark :: back) = splitAtByte mark front ++ splitAtByte mark back := by
  induction front with
  | nil => simp [splitAtByte]
  | cons b front ih =>
    rw [List.cons_append, splitAtByte, splitAtByte, ih]
    by_cases hb : b = mark
    · rw [if_pos hb, if_pos hb, List.cons_append]
    · rw [if_neg hb, if_neg hb]
      cases h : splitAtByte mark front with
      | nil => exact absurd h (splitAtByte_ne_nil mark front)
      | cons part parts => rfl

theorem splitAtByte_of_notMem {mark : UInt8} {bytes : Bytes} (h : mark ∉ bytes) : splitAtByte mark bytes = [bytes] := by
  induction bytes with
  | nil => rfl
  | cons b bytes ih =>
    rw [List.mem_cons, not_or] at h
    rw [splitAtByte, if_neg (Ne.symm h.1), ih h.2]

variable {dir : Path} {name : Name}

theorem join_name (hdir : dir.isEmpty = false) (hname : slash ∉ name) :
    dir.join ⟨name⟩ = ⟨dir.bytes ++ (if dir.endsInSlash then name else slash :: name)⟩ := by
  have relative : (⟨name⟩ : Path).isAbsolute = false := by
    cases name with
    | nil => rfl
    | cons b bytes =>
      rw [List.mem_cons, not_or] at hname
      simpa [isAbsolute] using Ne.symm hname.1
  unfold join
  rw [relative, hdir]
  cases h : dir.endsInSlash <;> simp

theorem bareNames_join (hdir : dir.isEmpty = false) (hne : name ≠ []) (hname : slash ∉ name) :
    (dir.join ⟨name⟩).bareNames = dir.bareNames ++ [name] := by
  rw [join_name hdir hname, bareNames, bareNames]
  cases h : dir.endsInSlash with
  | false =>
    simp only [Bool.false_eq_true, if_false]
    rw [splitAtByte_append, splitAtByte_of_notMem hname, List.filter_append]
    simp [hne]
  | true =>
    -- the slash at the end of the directory's path parts the two
    obtain ⟨front, hfront⟩ : ∃ front, dir.bytes = front ++ [slash] := by
      rw [endsInSlash, beq_iff_eq, List.getLast?_eq_some_iff] at h
      exact h
    simp only [if_true]
    rw [hfront, List.append_assoc, List.singleton_append, splitAtByte_append, splitAtByte_append,
      splitAtByte_of_notMem hname, List.filter_append, List.filter_append]
    simp [hne, splitAtByte]

theorem names_join (hdir : dir.isEmpty = false) (hne : name ≠ []) (hname : slash ∉ name) :
    (dir.join ⟨name⟩).names = dir.bareNames ++ [name] := by
  have ends : (dir.join ⟨name⟩).endsInSlash = false := by
    rw [join_name hdir hname, endsInSlash, beq_eq_false_iff_ne, ne_eq, List.getLast?_eq_some_iff]
    rintro ⟨front, hfront⟩
    have last : name.getLast? = some slash := by
      have := congrArg List.getLast? hfront
      cases name with
      | nil => exact absurd rfl hne
      | cons b bytes =>
        split at this <;> simpa [List.getLast?_append, List.getLast?_cons] using this
    exact hname (List.mem_of_getLast? last)
  rw [names, ends, bareNames_join hdir hne hname]
  rfl

end Path

namespace Disk

variable {disk other : Disk} {loc : Location} {node : Node}

/-! ## One step below a directory -/

/-- the entry of the directory at a location under a name -/
def entry (disk : Disk) (loc : Location) (name : Name) : Except Fault (Location × Node) :=
  match (Spot.ofLocation loc : Spot disk).searchable name with
  | .error fault => .error fault
  | .ok () =>
    if maxName < name.length then .error .nameTooLong
    else
      match disk.node? (name :: loc) with
      | none => .error .notFound
      | some node => .ok (name :: loc, node)

/-- location and node of a place that a look-up found -/
def found : Except Fault Place → Except Fault (Location × Node)
  | .error fault => .error fault
  | .ok (.missing _ _) => .error .notFound
  | .ok (.found loc node) => .ok (loc, node)

theorem lookup_eq (disk : Disk) (aim : Aim) (path : Path) : disk.lookup aim path = found (disk.resolve aim path) := by
  unfold lookup found
  split <;> simp_all

/-- the last name of a walk for an entry -/
theorem walkFrom_last {jump : Spot disk → Path → List Name → Except Fault Place} {name : Name}
    (hname : isEntryName name = true) (here : Spot disk) :
    found (walkFrom .entry jump here [name]) = disk.entry here.loc name := by
  obtain ⟨hne, hhere, hup, -, -⟩ := (isEntryName_iff name).1 hname
  have hno : name ≠ noName := hne
  have below : (here.down name).node? = disk.node? (name :: here.loc) := (here.down name).node?_eq
  rw [walkFrom, entry, ← here.eq_ofLocation]
  cases here.searchable name with
  | error fault => rfl
  | ok =>
    simp only [hno, hhere, hup, decide_false, Bool.or_false, Bool.false_eq_true, if_false, reduceCtorEq,
      Bool.false_and, below]
    split
    · rfl
    · cases hn : disk.node? (name :: here.loc) with
      | none => rfl
      | some node =>
        simp only [List.isEmpty_nil, if_true, decide_true, Bool.and_self]
        split
        · rfl
        · rw [walkFrom, below, hn]
          rfl

/-- with a name behind, a walk for an entry strides as one for a target does, whatever comes then -/
theorem stride_onward {aim : Aim} {here : Spot disk} {name : Name} {rest rest' : List Name} {made : Stride disk}
    (plain : aim = .target ∨ (aim = .entry ∧ rest' ≠ [])) (h : stride .target here name rest = made)
    (goes : ∀ result, made ≠ .stop result) : stride aim here name rest' = made := by
  have noFile : aim ≠ .file := by
    rintro rfl
    rcases plain with h | ⟨h, -⟩
    · cases h
    · cases h
  have noLink : (rest'.isEmpty && decide (aim = .entry)) = false := by
    rcases plain with rfl | ⟨-, more⟩
    · simp
    · simp [more]
  unfold stride at h ⊢
  cases hs : here.searchable name with
  | error fault =>
    rw [hs] at h
    exact absurd h.symm (goes _)
  | ok =>
    simp only [hs, noFile, reduceCtorEq, decide_false, Bool.false_and, Bool.false_eq_true, if_false] at h ⊢
    split_ifs at h ⊢
    · exact h
    · exact h
    · exact absurd h.symm (goes _)
    · cases hn : (here.down name).node? with
      | none =>
        rw [hn, enter] at h
        exact absurd h.symm (goes _)
      | some node =>
        rw [← h, hn]
        simp only [enter, noLink, reduceCtorEq, decide_false, Bool.and_false]

/-- a walk that leads to a place goes on from there, as one with other names behind does -/
theorem walkFrom_onward {aim : Aim} {last more : List Name} (P : Except Fault Place → Prop)
    {jump jump' : Spot disk → Path → List Name → Except Fault Place}
    (plain : aim = .target ∨ (aim = .entry ∧ more ≠ []))
    (stays : ∀ here, walkFrom .target jump here last = .ok (.found loc node) → P (walkFrom aim jump' here more))
    (hjump : ∀ here target rest, jump here target (rest ++ last) = .ok (.found loc node) →
      P (jump' here target (rest ++ more))) {names : List Name} {here : Spot disk}
    (h : walkFrom .target jump here (names ++ last) = .ok (.found loc node)) :
    P (walkFrom aim jump' here (names ++ more)) := by
  induction names generalizing here with
  | nil => exact stays here h
  | cons first rest ih =>
    rw [List.cons_append, walkFrom_cons] at h ⊢
    have plain' : aim = .target ∨ (aim = .entry ∧ rest ++ more ≠ []) :=
      plain.imp_right (And.imp_right fun some none => some (List.append_eq_nil_iff.1 none).2)
    cases hs : stride .target here first (rest ++ last) with
    | stop result =>
      rw [hs] at h
      obtain rfl : result = .ok (.found loc node) := h
      rcases stride_stop hs with ⟨missing, -⟩ | ⟨aim, -⟩
      · cases missing
      · cases aim
    | go next =>
      rw [stride_onward plain' hs (by simp)]
      rw [hs] at h
      exact ih h
    | jump target =>
      rw [stride_onward plain' hs (by simp)]
      rw [hs] at h
      exact hjump here target rest h

theorem walk_onward {aim : Aim} {last : List Name} (P : Except Fault Place → Prop) (more : List Name)
    (plain : aim = .target ∨ (aim = .entry ∧ more ≠ []))
    (stays : ∀ (jump jump' : Spot disk → Path → List Name → Except Fault Place) here,
      walkFrom .target jump here last = .ok (.found loc node) → P (walkFrom aim jump' here more))
    (links : ℕ) {names : List Name} {here : Spot disk}
    (h : walk .target links here (names ++ last) = .ok (.found loc node)) :
    P (walk aim links here (names ++ more)) := by
  induction links generalizing names here with
  | zero => exact walkFrom_onward P plain (stays _ _) (fun _ _ _ hj => by cases hj) h
  | succ links ih =>
    refine walkFrom_onward P plain (stays _ _) (fun here target rest hj => ?_) h
    split at hj
    · cases hj
    · rename_i htarget
      rw [if_neg htarget, ← List.append_assoc]
      rw [← List.append_assoc] at hj
      exact ih hj

/-- a walk that leads to a directory leads to its entries; `last` is what stands behind the path of the directory -/
theorem walk_entry {name : Name} {last : List Name} (hname : isEntryName name = true)
    (hlast : last = [] ∨ last = [noName]) (links : ℕ) {names : List Name} {here : Spot disk}
    (h : walk .target links here (names ++ last) = .ok (.found loc node)) :
    found (walk .entry links here (names ++ [name])) = disk.entry loc name := by
  refine walk_onward (fun result => found result = disk.entry loc name) [name] (Or.inr ⟨rfl, by simp⟩)
    (fun jump jump' here stays => ?_) links h
  -- what is left of the walk stays in place
  have same : here.loc = loc := by
    rcases hlast with rfl | rfl
    · rw [walkFrom] at stays
      split at stays <;> simp_all
    · rw [walkFrom] at stays
      split at stays
      · cases stays
      · rw [if_pos (by simp), walkFrom] at stays
        split at stays <;> simp_all
  rw [walkFrom_last hname, same]

theorem lookup_found {aim : Aim} {path : Path} (h : disk.lookup aim path = .ok (loc, node)) :
    checkPath path = .ok () ∧ disk.follow aim path path.names = .ok (.found loc node) := by
  unfold lookup resolve at h
  cases hc : checkPath path with
  | error fault =>
    rw [hc] at h
    cases h
  | ok =>
    rw [hc] at h
    refine ⟨rfl, ?_⟩
    simp only at h
    split at h <;> simp_all

theorem checkPath_ok {path : Path} (h : checkPath path = .ok ()) : path.hasNul = false ∧ path.isEmpty = false := by
  unfold checkPath at h
  split at h
  · cases h
  · split at h
    · cases h
    · simp_all

/-- **An entry is found by its directory and its name**, unless the path is too long. -/
theorem lookup_join {dir : Path} {name : Name} (hname : isEntryName name = true)
    (h : disk.lookup .target dir = .ok (loc, node)) :
    disk.lookup .entry (dir.join ⟨name⟩) =
      if maxPath < (dir.join ⟨name⟩).bytes.length then .error .nameTooLong else disk.entry loc name := by
  obtain ⟨hne, -, -, hslash, hnul⟩ := (isEntryName_iff name).1 hname
  obtain ⟨hcheck, hwalk⟩ := lookup_found h
  obtain ⟨hdirNul, hdir⟩ := checkPath_ok hcheck
  have joined := Path.join_name hdir hslash
  have noNul : (dir.join ⟨name⟩).hasNul = false := by
    rw [joined]
    unfold Path.hasNul at hdirNul ⊢
    rw [List.contains_eq_mem, decide_eq_false_iff_not] at hdirNul ⊢
    split <;> simp_all [slash]
  obtain ⟨b, bytes, hbytes⟩ : ∃ b bytes, dir.bytes = b :: bytes := by
    rw [Path.isEmpty, List.isEmpty_eq_false_iff] at hdir
    exact List.exists_cons_of_ne_nil hdir
  have notEmpty : (dir.join ⟨name⟩).isEmpty = false := by
    rw [joined, Path.isEmpty, hbytes]
    rfl
  have absolute : (dir.join ⟨name⟩).isAbsolute = dir.isAbsolute := by
    rw [joined, Path.isAbsolute, Path.isAbsolute, hbytes]
    rfl
  have start : (Spot.ofLocation disk.workingDirectory : Spot disk).start (dir.join ⟨name⟩) =
      (Spot.ofLocation disk.workingDirectory).start dir := by
    rw [Spot.start, Spot.start, absolute]
  rw [lookup_eq, resolve, checkPath, noNul, notEmpty]
  simp only [Bool.false_eq_true, if_false]
  by_cases hlong : maxPath < (dir.join ⟨name⟩).bytes.length
  · rw [if_pos hlong, if_pos hlong]
    rfl
  · rw [if_neg hlong, if_neg hlong]
    simp only
    rw [follow, start, Path.names_join hdir hne hslash]
    unfold follow Path.names at hwalk
    split at hwalk
    · exact walk_entry hname (Or.inr rfl) maxLinks hwalk
    · rw [← List.append_nil dir.bareNames] at hwalk
      exact walk_entry hname (Or.inl rfl) maxLinks hwalk

theorem entry_ok {name : Name} {place : Location} {child : Node} (h : disk.entry loc name = .ok (place, child)) :
    place = name :: loc ∧ disk.node? (name :: loc) = some child := by
  unfold entry at h
  split at h
  · cases h
  split at h
  · cases h
  split at h
  · cases h
  · rename_i hn
    cases h
    exact ⟨rfl, hn⟩

theorem lookup_join_ok {dir : Path} {name : Name} (hname : isEntryName name = true)
    (h : disk.lookup .target dir = .ok (loc, node)) {place : Location} {child : Node}
    (hfound : disk.lookup .entry (dir.join ⟨name⟩) = .ok (place, child)) :
    place = name :: loc ∧ disk.node? (name :: loc) = some child := by
  rw [lookup_join hname h] at hfound
  split at hfound
  · cases hfound
  · exact entry_ok hfound

/-- what is removed is what is found -/
theorem remove_ok {path : Path} (h : (disk.remove path).1 = .ok ()) :
    ∃ place child, disk.lookup .entry path = .ok (place, child) ∧ (disk.remove path).2 = disk.erase place := by
  unfold remove at h ⊢
  split at h
  · cases h
  · rename_i place child hfound
    split at h
    · cases h
    · rename_i hmay
      split at h
      · cases h
      · rename_i hdir
        refine ⟨place, child, hfound, ?_⟩
        rw [if_neg hmay, if_neg hdir]

/-! ## Disks that differ in regular files only -/

/-- all that is no regular file is on the other disk too -/
structure Alike (disk other : Disk) : Prop where
  user_eq : other.user = disk.user
  workingDirectory_eq : other.workingDirectory = disk.workingDirectory
  kept : ∀ loc node, disk.node? loc = some node → node.isFile = false → other.node? loc = some node

theorem isFile_of_isDirectory (h : node.isDirectory = true) : node.isFile = false := by
  rw [Node.isDirectory, beq_iff_eq] at h
  rw [Node.isFile, h]

/-- where a look-up may go on, there is a directory in which the user may look the name up -/
theorem searchable_ok {here : Spot disk} {name : Name} (h : here.searchable name = .ok ()) :
    ∃ node, here.node? = some node ∧ node.isDirectory = true ∧
      (name = noName || (node.rights disk.user).execute) = true := by
  unfold Spot.searchable at h
  split at h
  · cases h
  · rename_i node hn
    split at h
    · cases h
    · rename_i hdir
      split at h
      · exact ⟨node, hn, by simpa using hdir, by assumption⟩
      · cases h

theorem searchable_kept (alike : Alike disk other) {name : Name}
    (h : (Spot.ofLocation loc : Spot disk).searchable name = .ok ()) :
    (Spot.ofLocation loc : Spot other).searchable name = .ok () := by
  obtain ⟨dir, hn, hdir, hrights⟩ := searchable_ok h
  have kept : (Spot.ofLocation loc : Spot other).node? = some dir :=
    (Spot.node?_eq _).trans (alike.kept loc dir ((Spot.node?_eq _).symm.trans hn) (isFile_of_isDirectory hdir))
  unfold Spot.searchable
  rw [kept]
  simp only [hdir, Bool.not_true, Bool.false_eq_true, if_false, alike.user_eq, hrights, if_true]

/-- a walk does not go on from a regular file -/
theorem walkFrom_of_isFile {aim : Aim} {jump : Spot disk → Path → List Name → Except Fault Place} {here : Spot disk}
    {child : Node} (hn : here.node? = some child) (hf : child.isFile = true) {names : List Name}
    (h : walkFrom aim jump here names = .ok (.found loc node)) : node = child := by
  cases names with
  | nil =>
    rw [walkFrom, hn] at h
    cases h
    rfl
  | cons name rest =>
    have noDirectory : child.isDirectory = false := by
      rw [← Bool.not_eq_true]
      intro hd
      rw [isFile_of_isDirectory hd] at hf
      cases hf
    have closed : here.searchable name = .error .notDirectory := by
      unfold Spot.searchable
      rw [hn]
      simp only [noDirectory, Bool.not_false, if_true]
    rw [walkFrom, closed] at h
    cases h

/-- the same stride on another disk -/
def Stride.onto (other : Disk) : Stride disk → Stride other
  | .stop result => .stop result
  | .go next => .go (Spot.ofLocation next.loc)
  | .jump target => .jump target

/-- a stride that finds something or goes on, and not to a regular file -/
def Stride.Leads : Stride disk → Prop
  | .stop (.ok (.found _ _)) => True
  | .stop _ => False
  | .go next => ∀ node, next.node? = some node → node.isFile = false
  | .jump _ => True

theorem enter_kept (alike : Alike disk other) {aim : Aim} {start : Location} {name : Name} {rest : List Name}
    (leads : (enter aim (Spot.ofLocation start : Spot disk) name rest (disk.node? (name :: start))).Leads) :
    enter aim (Spot.ofLocation start : Spot other) name rest (other.node? (name :: start)) =
      (enter aim (Spot.ofLocation start : Spot disk) name rest (disk.node? (name :: start))).onto other := by
  cases hn : disk.node? (name :: start) with
  | none =>
    rw [hn, enter] at leads
    split at leads
    · exact leads.elim
    · exact leads.elim
  | some node =>
    have below : ((Spot.ofLocation start : Spot disk).down name).node? = some node := (Spot.node?_eq _).trans hn
    have passed : node.isFile = false := by
      rw [hn, enter] at leads
      cases hc : node.content with
      | file data =>
        rw [hc] at leads
        exact leads node below
      | _ => rw [Node.isFile, hc]
    rw [alike.kept _ node hn passed]
    simp only [enter]
    cases node.content with
    | link target =>
      simp only
      split
      · rfl
      · rfl
    | _ =>
      simp only [Spot.down_ofLocation]
      rfl

/-- a stride that leads on is the same on both disks -/
theorem stride_kept (alike : Alike disk other) {aim : Aim} {start : Location} {name : Name} {rest : List Name}
    (leads : (stride aim (Spot.ofLocation start : Spot disk) name rest).Leads) :
    stride aim (Spot.ofLocation start : Spot other) name rest =
      (stride aim (Spot.ofLocation start : Spot disk) name rest).onto other := by
  unfold stride at leads ⊢
  cases hs : (Spot.ofLocation start : Spot disk).searchable name with
  | error fault =>
    rw [hs] at leads
    exact leads.elim
  | ok =>
    rw [searchable_kept alike hs]
    simp only [hs] at leads ⊢
    split_ifs at leads ⊢
    · rfl
    · rfl
    · exact leads.elim
    · exact leads.elim
    · rw [Spot.node?_eq] at leads ⊢
      rw [Spot.node?_eq]
      exact enter_kept alike leads

theorem walkFrom_kept (alike : Alike disk other) {aim : Aim} {jump : Spot disk → Path → List Name → Except Fault Place}
    {jump' : Spot other → Path → List Name → Except Fault Place} (hnode : node.isFile = false)
    (hjump : ∀ start target rest, jump (Spot.ofLocation start) target rest = .ok (.found loc node) →
      jump' (Spot.ofLocation start) target rest = .ok (.found loc node)) {names : List Name} {start : Location}
    (h : walkFrom aim jump (Spot.ofLocation start) names = .ok (.found loc node)) :
    walkFrom aim jump' (Spot.ofLocation start) names = .ok (.found loc node) := by
  induction names generalizing start with
  | nil =>
    rw [walkFrom] at h ⊢
    cases hn : (Spot.ofLocation start : Spot disk).node? with
    | none => simp [hn] at h
    | some here =>
      simp only [hn, Except.ok.injEq, Place.found.injEq] at h
      obtain ⟨hloc, rfl⟩ := h
      have kept : (Spot.ofLocation start : Spot other).node? = some here :=
        (Spot.node?_eq _).trans (alike.kept start here ((Spot.node?_eq _).symm.trans hn) hnode)
      rw [kept, ← hloc]
      rfl
  | cons name rest ih =>
    rw [walkFrom_cons] at h ⊢
    cases hs : stride aim (Spot.ofLocation start : Spot disk) name rest with
    | stop result =>
      rw [hs] at h
      obtain rfl : result = .ok (.found loc node) := h
      rw [stride_kept alike (by rw [hs]; trivial), hs]
      rfl
    | go next =>
      rw [hs] at h
      change walkFrom aim jump next rest = .ok (.found loc node) at h
      -- the walk does not go on from a regular file, nor is it one that it ends at
      have passes : (Stride.go next).Leads := by
        intro child hn
        rw [← Bool.not_eq_true]
        intro hf
        rw [walkFrom_of_isFile hn hf h, hf] at hnode
        cases hnode
      rw [stride_kept alike (by rw [hs]; exact passes), hs]
      rw [next.eq_ofLocation] at h
      exact ih h
    | jump target =>
      rw [hs] at h
      rw [stride_kept alike (by rw [hs]; trivial), hs]
      exact hjump start target rest h

theorem walk_kept (alike : Alike disk other) {aim : Aim} (hnode : node.isFile = false) (links : ℕ) {names : List Name}
    {start : Location} (h : walk aim links (Spot.ofLocation start : Spot disk) names = .ok (.found loc node)) :
    walk aim links (Spot.ofLocation start : Spot other) names = .ok (.found loc node) := by
  induction links generalizing names start with
  | zero => exact walkFrom_kept alike hnode (fun _ _ _ hj => by cases hj) h
  | succ links ih =>
    refine walkFrom_kept alike hnode (fun start target rest hj => ?_) h
    split at hj
    · cases hj
    · rename_i htarget
      rw [if_neg htarget]
      rw [Spot.start_ofLocation] at hj ⊢
      exact ih hj

theorem follow_kept (alike : Alike disk other) {aim : Aim} {path : Path} {names : List Name} (hnode : node.isFile = false)
    (h : disk.follow aim path names = .ok (.found loc node)) : other.follow aim path names = .ok (.found loc node) := by
  rw [follow, Spot.start_ofLocation] at h ⊢
  rw [alike.workingDirectory_eq]
  exact walk_kept alike hnode maxLinks h

/-- **Regular files do not matter on the way.** -/
theorem lookup_kept (alike : Alike disk other) {aim : Aim} {path : Path} (hnode : node.isFile = false)
    (h : disk.lookup aim path = .ok (loc, node)) : other.lookup aim path = .ok (loc, node) := by
  obtain ⟨hcheck, hwalk⟩ := lookup_found h
  rw [lookup_eq, resolve, hcheck]
  exact congrArg found (follow_kept alike hnode hwalk)

/-! ## Disks with proper names -/

namespace Forest

variable {α : Type}

def labels : Forest α → List Name
  | .empty => []
  | .cons label _ _ rest => label :: rest.labels

/-- every name can be one, and stands once among its neighbours -/
def isSound : Forest α → Bool
  | .empty => true
  | .cons label _ below rest => isEntryName label && !rest.labels.contains label && below.isSound && rest.isSound

theorem names_sublist (forest : Forest α) : forest.names.Sublist forest.labels := by
  induction forest with
  | empty => exact List.Sublist.refl _
  | cons label value below rest _ ih =>
    rw [names, labels]
    split
    · exact ih.cons_cons label
    · exact ih.cons label

theorem labels_of_isSound {forest : Forest α} (h : forest.isSound = true) :
    forest.labels.Nodup ∧ ∀ name ∈ forest.labels, isEntryName name = true := by
  induction forest with
  | empty => exact ⟨List.nodup_nil, fun _ hn => by cases hn⟩
  | cons label value below rest _ ih =>
    simp only [isSound, Bool.and_eq_true, Bool.not_eq_true', List.contains_eq_mem, decide_eq_false_iff_not] at h
    obtain ⟨⟨⟨proper, fresh⟩, -⟩, hrest⟩ := h
    exact ⟨List.nodup_cons.2 ⟨fresh, (ih hrest).1⟩, List.forall_mem_cons.2 ⟨proper, (ih hrest).2⟩⟩

theorem get_isSound {forest : Forest α} (h : forest.isSound = true) (name : Name) :
    (forest.get name).below.isSound = true := by
  induction forest with
  | empty => rfl
  | cons label value below rest _ ih =>
    simp only [isSound, Bool.and_eq_true] at h
    rw [get]
    split
    · exact h.1.2
    · exact ih h.2

end Forest

/-- every directory has proper names, each of them once -/
def isSound (disk : Disk) : Bool := disk.root.below.isSound

theorem treeAt_isSound (h : disk.isSound = true) (loc : Location) : (disk.treeAt loc).below.isSound = true := by
  induction loc with
  | nil => exact h
  | cons name loc ih =>
    rw [treeAt_cons]
    exact Forest.get_isSound ih name

/-- what a list of a directory's names can be relied on for -/
theorem list_of_isSound (h : disk.isSound = true) {dir : Path} {names : List Name} (hlist : disk.list dir = .ok names) :
    (∃ loc node, disk.lookup .target dir = .ok (loc, node) ∧ node.isDirectory = true) ∧
      names.Nodup ∧ ∀ name ∈ names, isEntryName name = true := by
  unfold list at hlist
  split at hlist
  · cases hlist
  · rename_i loc node hlook
    split at hlist
    · cases hlist
    · rename_i hdir
      split at hlist
      · cases hlist
      · cases hlist
        have sub := Forest.names_sublist (disk.treeAt loc).below
        obtain ⟨once, proper⟩ := Forest.labels_of_isSound (treeAt_isSound h loc)
        refine ⟨⟨loc, node, hlook, by simpa using hdir⟩, once.sublist sub, fun name hn => proper name (sub.subset hn)⟩

end Disk

end CheckReport

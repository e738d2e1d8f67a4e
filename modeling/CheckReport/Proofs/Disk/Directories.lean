/-
Directories that are made.

A directory is made where nothing stands, and it is found there under its path. So when the directories of a row of paths
are made one after another, all that stood on the disk stands there still, and what is new are directories that the row
names.

- `makeDirectory_ok`, `lookup_made`: what is made, and that it is found.
- `Grown.then_made`: one directory more.
- `makeAll_grown`, `makeDirectories_grown`: a row of paths, and all paths above one, whether all of them could be made or
  not.
-/
import CheckReport.Proofs.Disk.Entries

namespace CheckReport.Disk

variable {disk : Disk} {path : Path} {loc dir : Location} {name : Name} {node : Node}

/-! ## The directory above -/

/-- a walk that stays in place is in a directory that can be searched -/
theorem walkFrom_here {jump : Spot disk → Path → List Name → Except Fault Place} {here : Spot disk}
    (h : walkFrom .target jump here [hereName] = .ok (.found loc node)) :
    here = Spot.ofLocation loc ∧ here.searchable hereName = .ok () := by
  rw [walkFrom] at h
  cases hs : here.searchable hereName with
  | error fault =>
    rw [hs] at h
    cases h
  | ok =>
    rw [hs] at h
    simp only [decide_true, Bool.or_true, if_true, walkFrom] at h
    split at h
    · cases h
      exact ⟨here.eq_ofLocation, rfl⟩
    · cases h

/-- what leads to a directory and stays in it has found one that can be searched -/
theorem searchable_of_walk {links : ℕ} {names : List Name} {here : Spot disk}
    (h : walk .target links here (names ++ [hereName]) = .ok (.found loc node)) :
    (Spot.ofLocation loc : Spot disk).searchable hereName = .ok () := by
  refine walk_onward (fun _ => (Spot.ofLocation loc : Spot disk).searchable hereName = .ok ()) [] (Or.inl rfl)
    (fun jump jump' here stays => ?_) links h
  obtain ⟨rfl, search⟩ := walkFrom_here stays
  exact search

theorem bareNames_ne_nil {name : Name} (h : name ∈ path.bareNames) : name ≠ [] := by
  rw [Path.bareNames, List.mem_filter] at h
  rintro rfl
  exact absurd h.2 (by simp)

/-- the directory in which a path would make its last name -/
structure Before (disk : Disk) (path : Path) (dir : Location) (name : Name) : Prop where
  checked : checkPath path = .ok ()
  bareNames_eq : path.bareNames = path.bareNames.dropLast ++ [name]
  proper : name ≠ noName ∧ name ≠ hereName ∧ name ≠ upName
  follow_eq : ∃ node, disk.follow .target path (path.bareNames.dropLast ++ [hereName]) = .ok (.found dir node)

theorem parentOf_ok (h : disk.parentOf path = .ok (dir, some name)) : Before disk path dir name := by
  unfold parentOf at h
  cases checked : checkPath path with
  | error fault =>
    rw [checked] at h
    cases h
  | ok =>
    rw [checked] at h
    simp only at h
    cases led : disk.follow .target path (path.bareNames.dropLast ++ [hereName]) with
    | error fault =>
      rw [led] at h
      cases h
    | ok place =>
      rw [led] at h
      cases place with
      | missing above name => cases h
      | found loc node =>
        simp only [Except.ok.injEq, Prod.mk.injEq, Option.filter_eq_some_iff] at h
        obtain ⟨rfl, last, proper⟩ := h
        rw [Bool.and_eq_true, decide_eq_true_iff, decide_eq_true_iff] at proper
        have whole : path.bareNames = path.bareNames.dropLast ++ [name] :=
          (List.dropLast_append_getLast? name last).symm
        have mem : name ∈ path.bareNames := List.mem_of_getLast? last
        exact ⟨checked, whole, ⟨bareNames_ne_nil mem, proper⟩, node, led⟩

namespace Before

/-- the names of the path end with the one to be made; a slash may stand behind it -/
theorem names_eq (before : Before disk path dir name) : ∃ last, (last = [] ∨ last = [noName]) ∧
    path.names = path.bareNames.dropLast ++ (name :: last) := by
  unfold Path.names
  split_ifs
  · exact ⟨[noName], Or.inr rfl, by rw [before.bareNames_eq]; simp⟩
  · exact ⟨[], Or.inl rfl, before.bareNames_eq⟩

/-- what was found above is no regular file, so that the way there does not hang on those -/
theorem follow_above (before : Before disk path dir name) : ∃ above : Node, above.isFile = false ∧
    disk.follow .target path (path.bareNames.dropLast ++ [hereName]) = .ok (.found dir above) := by
  obtain ⟨above, led⟩ := before.follow_eq
  obtain ⟨node, hn, directory, -⟩ := searchable_ok (searchable_of_walk led)
  rw [Spot.node?_eq] at hn
  obtain rfl : above = node := Option.some.inj ((walk_holds maxLinks led).symm.trans hn)
  exact ⟨above, isFile_of_isDirectory directory, led⟩

end Before

/-! ## One directory -/

/-- a directory that is made now -/
def newDirectory (disk : Disk) : Node := ⟨.directory, .newDirectory, disk.user, disk.now⟩

/-- what is made is new -/
theorem makeDirectory_ok (h : (disk.makeDirectory path).1 = .ok ()) :
    ∃ dir name, Before disk path dir name ∧ name.length ≤ maxName ∧ disk.node? (name :: dir) = none ∧
      (disk.makeDirectory path).2 = disk.put (name :: dir) disk.newDirectory := by
  unfold makeDirectory at h ⊢
  split at h
  · cases h
  · cases h
  · rename_i dir name before
    split_ifs at h ⊢ with long there may
    exact ⟨dir, name, parentOf_ok before, Nat.not_lt.1 long, by simpa using there, rfl⟩

theorem alike_put (missing : disk.node? loc = none) : Alike disk (disk.put loc node) where
  user_eq := rfl
  workingDirectory_eq := rfl
  kept place old hn _ := by
    rw [node?_put, if_neg, hn]
    rintro rfl
    rw [missing] at hn
    cases hn

/-- the last name of a way, behind a directory that has it for a directory -/
theorem walkFrom_directory {jump : Spot disk → Path → List Name → Except Fault Place} {last : List Name}
    (search : (Spot.ofLocation dir : Spot disk).searchable hereName = .ok ())
    (proper : name ≠ noName ∧ name ≠ hereName ∧ name ≠ upName) (short : name.length ≤ maxName)
    (hn : disk.node? (name :: dir) = some node) (directory : node.isDirectory = true)
    (hlast : last = [] ∨ last = [noName]) :
    walkFrom .target jump (Spot.ofLocation dir) (name :: last) = .ok (.found (name :: dir) node) := by
  obtain ⟨above, habove, hdir, rights⟩ := searchable_ok search
  have may : (Spot.ofLocation dir : Spot disk).searchable name = .ok () := by
    have execute : (above.rights disk.user).execute = true := by simpa [hereName, noName] using rights
    unfold Spot.searchable
    rw [habove]
    simp only [hdir, Bool.not_true, Bool.false_eq_true, if_false, execute, Bool.or_true, if_true]
  have below : (Spot.ofLocation (name :: dir) : Spot disk).node? = some node := (Spot.node?_eq _).trans hn
  have content : node.content = .directory := by simpa [Node.isDirectory] using directory
  have goes : stride .target (Spot.ofLocation dir : Spot disk) name last = .go (Spot.ofLocation (name :: dir)) := by
    rw [stride, may]
    simp only [proper, decide_false, Bool.or_false, Bool.false_eq_true, if_false, reduceCtorEq, Bool.false_and,
      Nat.not_lt.2 short, Spot.down_ofLocation, below, enter, content]
  rw [walkFrom_cons, goes]
  rcases hlast with rfl | rfl
  · simp only [walkFrom, below]
    rfl
  · have stays : (Spot.ofLocation (name :: dir) : Spot disk).searchable noName = .ok () := by
      unfold Spot.searchable
      rw [below]
      simp only [directory, Bool.not_true, Bool.false_eq_true, if_false, decide_true, Bool.true_or, if_true]
    simp only [walkFrom, stays, below, decide_true, Bool.true_or, if_true]
    rfl

/-- **A directory that is made is found under its path.** -/
theorem lookup_made {dir : Location} {name : Name} (before : Before disk path dir name) (short : name.length ≤ maxName)
    (missing : disk.node? (name :: dir) = none) :
    (disk.put (name :: dir) disk.newDirectory).lookup .target path = .ok (name :: dir, disk.newDirectory) := by
  obtain ⟨above, noFile, led⟩ := before.follow_above
  obtain ⟨last, hlast, names⟩ := before.names_eq
  -- the way to the directory above is the same as before, and goes on to the new one
  have alike : Alike disk (disk.put (name :: dir) disk.newDirectory) := alike_put missing
  have led' := follow_kept alike noFile led
  have there : (disk.put (name :: dir) disk.newDirectory).node? (name :: dir) = some disk.newDirectory := by
    rw [node?_put, if_pos rfl]
  have found' : (disk.put (name :: dir) disk.newDirectory).follow .target path path.names =
      .ok (.found (name :: dir) disk.newDirectory) := by
    rw [names]
    refine walk_onward (· = .ok (.found (name :: dir) disk.newDirectory)) (name :: last) (Or.inl rfl)
      (fun jump jump' here stays => ?_) maxLinks led'
    obtain ⟨rfl, search'⟩ := walkFrom_here stays
    exact walkFrom_directory search' before.proper short there rfl hlast
  rw [lookup_eq, resolve, before.checked]
  exact congrArg found found'

/-! ## A row of directories -/

/-- all that stood on the disk stands there still; what is new are directories that the paths name -/
structure Grown (disk : Disk) (paths : List Path) (after : Disk) : Prop where
  user_eq : after.user = disk.user
  workingDirectory_eq : after.workingDirectory = disk.workingDirectory
  now_eq : after.now = disk.now
  node?_eq : ∀ loc, after.node? loc = disk.node? loc ∨
    (disk.node? loc = none ∧ ∃ path ∈ paths, after.lookup .target path = .ok (loc, disk.newDirectory))

namespace Grown

variable {after : Disk} {paths more : List Path}

theorem refl (disk : Disk) (paths : List Path) : Grown disk paths disk := ⟨rfl, rfl, rfl, fun _ => Or.inl rfl⟩

theorem mono (grown : Grown disk paths after) (sub : ∀ path ∈ paths, path ∈ more) : Grown disk more after where
  user_eq := grown.user_eq
  workingDirectory_eq := grown.workingDirectory_eq
  now_eq := grown.now_eq
  node?_eq loc := (grown.node?_eq loc).imp_right fun ⟨missing, path, mem, there⟩ => ⟨missing, path, sub path mem, there⟩

/-- what is missing now was missing before -/
theorem was_missing (grown : Grown disk paths after) (missing : after.node? loc = none) : disk.node? loc = none := by
  rcases grown.node?_eq loc with same | ⟨fresh, -⟩
  · rw [← same, missing]
  · exact fresh

theorem newDirectory_eq (grown : Grown disk paths after) : after.newDirectory = disk.newDirectory := by
  rw [newDirectory, newDirectory, grown.user_eq, grown.now_eq]

/-- one directory more, or none if it cannot be made -/
theorem then_made (grown : Grown disk paths after) (mem : path ∈ paths) :
    Grown disk paths (after.makeDirectory path).2 := by
  cases made : (after.makeDirectory path).1 with
  | error fault => rwa [makeDirectory_error after path fault made]
  | ok =>
    obtain ⟨dir, name, before, short, missing, put⟩ := makeDirectory_ok made
    have there := lookup_made before short missing
    rw [put]
    refine ⟨grown.user_eq, grown.workingDirectory_eq, grown.now_eq, fun loc => ?_⟩
    by_cases own : loc = name :: dir
    · rw [own]
      exact Or.inr ⟨grown.was_missing missing, path, mem, by rw [there, grown.newDirectory_eq]⟩
    · have other : (after.put (name :: dir) after.newDirectory).node? loc = after.node? loc := by
        rw [node?_put, if_neg own]
      rcases grown.node?_eq loc with same | ⟨fresh, above, mem', stands⟩
      · exact Or.inl (other.trans same)
      · exact Or.inr ⟨fresh, above, mem', lookup_kept (alike_put missing) rfl stands⟩

end Grown

/-- **A row of directories** leaves what stood there, whether all of them could be made or not. -/
theorem makeAll_grown (disk : Disk) (paths : List Path) : Grown disk paths (disk.makeAll paths).2 := by
  induction paths with
  | nil => exact Grown.refl disk []
  | cons path above ih =>
    -- the row is begun with the first path, and again with it once the others are made
    have first : Grown disk (path :: above) (disk.makeDirectory path).2 :=
      (Grown.refl disk _).then_made List.mem_cons_self
    rw [makeAll]
    split
    · exact Grown.refl disk _
    split
    · rename_i made hm
      rwa [hm] at first
    · have before := ih.mono fun q mem => List.mem_cons_of_mem path mem
      split
      · rename_i fault made ha
        rwa [ha] at before
      · rename_i made ha
        rw [ha] at before
        have again := before.then_made List.mem_cons_self
        split
        · rename_i done hd
          rwa [hd] at again
        · exact before
    · exact Grown.refl disk _

end CheckReport.Disk

namespace CheckReport

/-- the path is the parent of the other, or the parent of its parent, and so on -/
def Path.IsAbove (above path : Path) : Prop := Relation.TransGen (fun p q => p.parent? = some q) path above

theorem Path.isAbove_of_mem {n : ℕ} {path q : Path} (mem : q ∈ Path.above n path) : q.IsAbove path := by
  induction n generalizing path with
  | zero => cases mem
  | succ n ih =>
    rw [Path.above] at mem
    cases parent : path.parent? with
    | none =>
      rw [parent] at mem
      cases mem
    | some dir =>
      rw [parent] at mem
      rcases List.mem_cons.1 mem with rfl | mem
      · exact .single parent
      · exact .head parent (ih mem)

/-- a directory with all that it lacks above, when something is to be put into it -/
theorem Disk.makeDirectories_grown (disk : Disk) {path dir : Path} (parent : path.parent? = some dir) :
    ∃ paths, (∀ q ∈ paths, q.IsAbove path) ∧ Disk.Grown disk paths (disk.makeDirectories dir).2 := by
  refine ⟨dir :: dir.ancestors, fun q mem => ?_, Disk.makeAll_grown disk _⟩
  rcases List.mem_cons.1 mem with rfl | mem
  · exact .single parent
  · exact .head parent (Path.isAbove_of_mem mem)

end CheckReport

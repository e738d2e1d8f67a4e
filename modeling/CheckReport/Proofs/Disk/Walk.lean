/-
One name of a walk.

What a walk does at a name hangs on the spot, on the aim and on the names behind, not on what comes of these (`stride`):
it stops, goes on to another spot, or jumps at a link. What is to be shown of walks is shown of strides, and carried
along the names.

- `walkFrom_cons`: a walk is a stride, and then a walk.
- `stride_stop`: what a walk finds when it stops at a name.
- `resolve_holds`: what a look-up says of a place is true of the disk.
-/
import Mathlib.Tactic
import CheckReport.Disk.Walk

namespace CheckReport.Disk

variable {disk : Disk}

theorem Spot.start_ofLocation (loc : Location) (path : Path) :
    (Spot.ofLocation loc : Spot disk).start path = Spot.ofLocation (if path.isAbsolute then [] else loc) := by
  unfold Spot.start
  split_ifs
  · rfl
  · rfl

/-! ## Strides -/

/-- what comes of one name -/
inductive Stride (disk : Disk) where
  | stop (result : Except Fault Place)
  | go (next : Spot disk)
  | jump (target : Path)

/-- what a walk does where a name leads to a node, or to none -/
def enter (aim : Aim) (here : Spot disk) (name : Name) (rest : List Name) : Option Node → Stride disk
  | none => .stop (if rest.isEmpty then .ok (.missing here.loc name) else .error .notFound)
  | some node =>
    match node.content with
    | .link target =>
      if rest.isEmpty && aim = .entry then .stop (.ok (.found (name :: here.loc) node)) else .jump target
    | _ => .go (here.down name)

/-- what a walk does at a name with others behind it -/
def stride (aim : Aim) (here : Spot disk) (name : Name) (rest : List Name) : Stride disk :=
  match here.searchable name with
  | .error fault => .stop (.error fault)
  | .ok () =>
    if name = noName || name = hereName then .go here
    else if name = upName then .go here.up
    else if aim = .file && rest = [noName] then .stop (.error .isDirectory)
    else if maxName < name.length then .stop (.error .nameTooLong)
    else enter aim here name rest (here.down name).node?

variable {aim : Aim} {jump : Spot disk → Path → List Name → Except Fault Place} {here : Spot disk} {name : Name}
  {rest : List Name}

theorem walkFrom_cons : walkFrom aim jump here (name :: rest) =
    match stride aim here name rest with
    | .stop result => result
    | .go next => walkFrom aim jump next rest
    | .jump target => jump here target rest := by
  rw [walkFrom, stride]
  cases here.searchable name with
  | error fault => rfl
  | ok =>
    simp only
    split
    · rfl
    split
    · rfl
    split
    · rfl
    split
    · rfl
    cases (here.down name).node? with
    | none => rfl
    | some node =>
      simp only [enter]
      cases node.content with
      | link target =>
        simp only
        split
        · rfl
        · rfl
      | _ => rfl

/-- a walk that stops at a name without a fault has found that nothing is there, or the link that it was to find -/
theorem stride_stop {place : Place} (h : stride aim here name rest = .stop (.ok place)) :
    (place = .missing here.loc name ∧ disk.node? (name :: here.loc) = none) ∨
      (aim = .entry ∧ ∃ node, place = .found (name :: here.loc) node ∧ disk.node? (name :: here.loc) = some node) := by
  have below : (here.down name).node? = disk.node? (name :: here.loc) := (here.down name).node?_eq
  unfold stride at h
  split at h
  · cases h
  split_ifs at h
  · cases h
  · cases h
  rw [below] at h
  cases hn : disk.node? (name :: here.loc) with
  | none =>
    rw [hn, enter] at h
    split at h
    · cases h
      exact Or.inl ⟨rfl, rfl⟩
    · cases h
  | some node =>
    rw [hn, enter] at h
    split at h
    · split at h
      · rename_i hlast
        cases h
        rw [Bool.and_eq_true, decide_eq_true_iff] at hlast
        exact Or.inr ⟨hlast.2, node, rfl, rfl⟩
      · cases h
    · cases h

/-! ## Places -/

/-- what a place says is true: there is the node, or there is none -/
def Place.Holds (disk : Disk) : Place → Prop
  | .found loc node => disk.node? loc = some node
  | .missing dir name => disk.node? (name :: dir) = none

theorem walkFrom_holds (hjump : ∀ here target rest place, jump here target rest = .ok place → place.Holds disk)
    {names : List Name} {place : Place} (h : walkFrom aim jump here names = .ok place) : place.Holds disk := by
  induction names generalizing here with
  | nil =>
    rw [walkFrom] at h
    cases hn : here.node? with
    | none =>
      rw [hn] at h
      cases h
    | some node =>
      rw [hn] at h
      cases h
      exact here.node?_eq.symm.trans hn
  | cons name rest ih =>
    rw [walkFrom_cons] at h
    cases hs : stride aim here name rest with
    | stop result =>
      rw [hs] at h
      obtain rfl : result = .ok place := h
      rcases stride_stop hs with ⟨rfl, hn⟩ | ⟨-, node, rfl, hn⟩
      · exact hn
      · exact hn
    | go next =>
      rw [hs] at h
      exact ih h
    | jump target =>
      rw [hs] at h
      exact hjump here target rest place h

theorem walk_holds (links : ℕ) {names : List Name} {place : Place} (h : walk aim links here names = .ok place) :
    place.Holds disk := by
  induction links generalizing here names place with
  | zero => exact walkFrom_holds (fun _ _ _ _ hj => by cases hj) h
  | succ links ih =>
    refine walkFrom_holds (fun here target rest place hj => ?_) h
    split at hj
    · cases hj
    · exact ih hj

theorem resolve_holds {path : Path} {place : Place} (h : disk.resolve aim path = .ok place) : place.Holds disk := by
  unfold resolve at h
  split at h
  · cases h
  · exact walk_holds maxLinks h

/-- what a look-up finds stands where it is found -/
theorem node?_of_lookup {path : Path} {loc : Location} {node : Node} (h : disk.lookup aim path = .ok (loc, node)) :
    disk.node? loc = some node := by
  unfold lookup at h
  split at h
  · cases h
  · cases h
  · rename_i hr
    cases h
    exact resolve_holds hr

end CheckReport.Disk

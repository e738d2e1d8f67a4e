/-
Look-ups in a file tree.

`resolve` follows a path to a place: a location that holds a node, or the directory and the name where one is missing. A
walk goes from spot to spot: a spot is a location together with the tree there, and so tells no more than its location
does (`eq_ofLocation`). At each name a walk checks that it stands in a directory which the user may search; it follows
symbolic links, at most `maxLinks` of them.
-/
import CheckReport.Disk.Basic
import CheckReport.Disk.Fault

namespace CheckReport.Disk

/-- number of symbolic links that one look-up follows -/
def maxLinks : Nat := 40

/-- greatest number of bytes in a name -/
def maxName : Nat := 255

/-- greatest number of bytes in a path -/
def maxPath : Nat := 4095

/-- where a look-up ends -/
inductive Place where
  | found (loc : Location) (node : Node)
  | missing (dir : Location) (name : Name)
  deriving DecidableEq, Repr

/-- what a path is looked up for -/
inductive Aim where
  /-- the entry that the path names, which may be a symbolic link -/
  | entry
  /-- what the entry leads to -/
  | target
  /-- a file to write, which is made if it is missing; a name with a slash behind it is no file's name -/
  | file
  deriving DecidableEq, Repr

/-- a location with the tree there -/
structure Spot (disk : Disk) where
  loc : Location
  tree : Tree Node
  tree_eq : tree = disk.treeAt loc

namespace Spot

variable {disk : Disk}

def ofLocation (loc : Location) : Spot disk := ⟨loc, disk.treeAt loc, rfl⟩

def node? (here : Spot disk) : Option Node := here.tree.value

/-- where a name leads to -/
def down (here : Spot disk) (name : Name) : Spot disk :=
  ⟨name :: here.loc, here.tree.below.get name, here.tree_eq ▸ (disk.treeAt_cons name here.loc).symm⟩

/-- the spot above; the root is above itself -/
def up (here : Spot disk) : Spot disk := ofLocation here.loc.tail

/-- where a path starts -/
def start (here : Spot disk) (path : Path) : Spot disk := if path.isAbsolute then ofLocation [] else here

/-- the spot is a directory in which the user may look a name up; `noName` needs no look-up -/
def searchable (here : Spot disk) (name : Name) : Except Fault Unit :=
  match here.node? with
  | none => .error .notFound
  | some node =>
    if !node.isDirectory then .error .notDirectory
    else if name = noName || (node.rights disk.user).execute then .ok ()
    else .error .accessDenied

theorem node?_eq (here : Spot disk) : here.node? = disk.node? here.loc := congrArg Tree.value here.tree_eq

theorem eq_ofLocation (here : Spot disk) : here = ofLocation here.loc := by
  obtain ⟨loc, tree, rfl⟩ := here
  rfl

theorem down_ofLocation (loc : Location) (name : Name) :
    (ofLocation loc : Spot disk).down name = ofLocation (name :: loc) :=
  eq_ofLocation ((ofLocation loc).down name)

end Spot

/-- go through the names from `here`; at a symbolic link go on with `jump`, which gets the spot of the link's directory,
its target and the names behind it -/
def walkFrom {disk : Disk} (aim : Aim) (jump : Spot disk → Path → List Name → Except Fault Place) (here : Spot disk) :
    List Name → Except Fault Place
  | [] =>
    match here.node? with
    | some node => .ok (.found here.loc node)
    | none => .error .notFound
  | name :: rest =>
    match here.searchable name with
    | .error fault => .error fault
    | .ok () =>
      if name = noName || name = hereName then walkFrom aim jump here rest
      else if name = upName then walkFrom aim jump here.up rest
      else if aim = .file && rest = [noName] then .error .isDirectory
      else if maxName < name.length then .error .nameTooLong
      else
        match (here.down name).node? with
        | none => if rest.isEmpty then .ok (.missing here.loc name) else .error .notFound
        | some node =>
          match node.content with
          | .link target =>
            if rest.isEmpty && aim = .entry then .ok (.found (name :: here.loc) node) else jump here target rest
          | _ => walkFrom aim jump (here.down name) rest

/-- a walk that follows at most `links` symbolic links -/
def walk {disk : Disk} (aim : Aim) : Nat → Spot disk → List Name → Except Fault Place
  | 0 => walkFrom aim fun _ _ _ => .error .linkLoop
  | links + 1 => walkFrom aim fun here target rest =>
      if target.isEmpty then .error .notFound else walk aim links (here.start target) (target.names ++ rest)

/-- the place that names lead to from where a path starts -/
def follow (disk : Disk) (aim : Aim) (path : Path) (names : List Name) : Except Fault Place :=
  walk aim maxLinks ((Spot.ofLocation disk.workingDirectory : Spot disk).start path) names

/-- a path that can be looked up at all -/
def checkPath (path : Path) : Except Fault Unit :=
  if path.hasNul then .error .nulInPath
  else if path.isEmpty then .error .notFound
  else if maxPath < path.bytes.length then .error .nameTooLong
  else .ok ()

/-- the place of a path -/
def resolve (disk : Disk) (aim : Aim) (path : Path) : Except Fault Place :=
  match checkPath path with
  | .error fault => .error fault
  | .ok () => disk.follow aim path path.names

/-- location and node of a path that exists -/
def lookup (disk : Disk) (aim : Aim) (path : Path) : Except Fault (Location × Node) :=
  match disk.resolve aim path with
  | .error fault => .error fault
  | .ok (.missing _ _) => .error .notFound
  | .ok (.found loc node) => .ok (loc, node)

end CheckReport.Disk

import Shipshape.Dict
import Shipshape.Text.Pieces

/-!
# The host's directories

A tree of directories and files, and what it means to make sure that a path exists in it: every directory
that is missing on the way is made.
-/

namespace Shipshape

/-- A node of the tree; a directory is written as the list of its entries. -/
inductive HostNode where
  | file
  | directory (entries : List (String × HostNode))

/-- A tree of directories and files: the entries of its root. -/
structure HostTree where
  entries : Dict HostNode := ∅

/-- A directory inside a tree: its entries, and the directories above it, the nearest first, each with the name
of the one below. -/
structure HostDirectory where
  entries : Dict HostNode
  above : List (String × Dict HostNode) := []

namespace HostDirectory

/-- The directory above; the root is above itself. -/
def up (d : HostDirectory) : HostDirectory :=
  match d.above with
  | [] => d
  | (_, entries) :: above => ⟨entries, above⟩

/-- The directory with other entries, and the whole tree around it. -/
def treeWith (d : HostDirectory) (entries : Dict HostNode) : HostTree :=
  ⟨d.above.foldl (fun below e => e.2.insert e.1 (.directory below.entries)) entries⟩

end HostDirectory

/-- What names lead to. -/
inductive HostTarget where
  | file
  | directory (d : HostDirectory)

/-- Why names lead nowhere. -/
inductive Lost where
  /-- There is no such node. -/
  | missing
  /-- A node on the way is no directory, or a name is too long for one. -/
  | blocked
  deriving DecidableEq, Repr

namespace HostTarget

def maxNameBytes : Nat := 255

def enter (t : HostTarget) (name : String) : Except Lost HostTarget :=
  match t with
  | .file => .error .blocked
  | .directory d =>
    if name.utf8ByteSize > maxNameBytes then .error .blocked
    else if name = "." then .ok t
    else if name = ".." then .ok (.directory d.up)
    else match d.entries.get? name with
      | none => .error .missing
      | some .file => .ok .file
      | some (.directory entries) => .ok (.directory ⟨.ofList entries, (name, d.entries) :: d.above⟩)

def isDirectory : HostTarget → Bool
  | .file => false
  | .directory _ => true

end HostTarget

namespace HostTree

/-- The names of a path; the empty ones between slashes say nothing. -/
def namesOf (path : String) : List String :=
  (Text.splitAtChar '/' path).filter (· != "")

/-- What names lead to from the root on. -/
def follow (t : HostTree) (names : List String) : Except Lost HostTarget :=
  names.foldlM HostTarget.enter (.directory ⟨t.entries, []⟩)

/-- The least number of bytes that is too much for a path. -/
def pathBytesLimit : Nat := 4096

/-- Whether a text is a path at all. No path holds a zero character. -/
def isPath (path : String) : Bool :=
  path.utf8ByteSize < pathBytesLimit && !path.toList.contains '\x00'

/-- What a path leads to. A path that ends with a slash has to lead to a directory. -/
def resolve (t : HostTree) (path : String) : Except Lost HostTarget :=
  let names := namesOf path
  t.follow (if path.toList.getLast? = some '/' then names ++ ["."] else names)

/-- How making one directory went. -/
inductive Made where
  | made (t : HostTree)
  /-- Something is in the way, or the names cannot be followed. -/
  | refused
  /-- A directory above is missing. -/
  | parentMissing

/-- Makes one directory; those above it have to be there. -/
def make (t : HostTree) (names : List String) : Made :=
  match names.getLast? with
  | none => .refused
  | some last =>
    match t.follow names.dropLast with
    | .error .missing => .parentMissing
    | .ok (.directory parent) =>
      if last = "." || last = ".." || last.utf8ByteSize > HostTarget.maxNameBytes ||
          parent.entries.contains last then .refused
      else .made (parent.treeWith (parent.entries.insert last (.directory [])))
    | _ => .refused

def hasDirectory (t : HostTree) (names : List String) : Bool :=
  match t.follow names with
  | .ok target => target.isDirectory
  | .error _ => false

/-- The names of the directory above; a name that stays where it is says nothing. -/
def above (names : List String) : List String :=
  (names.filter (· != ".")).dropLast

/-- Makes a directory and those above it that are missing: whether it is there then, and the tree. What was made
before something was found in the way stays. -/
def makeAll (t : HostTree) (names : List String) : Bool × HostTree :=
  if _h : names = [] then (true, t)
  else
    match t.make names with
    | .made t => (true, t)
    | .refused => (t.hasDirectory names, t)
    | .parentMissing =>
      match t.makeAll (above names) with
      | (false, t) => (false, t)
      | (true, t) =>
        match t.make names with
        | .made t => (true, t)
        | _ => (t.hasDirectory names, t)
termination_by names.length
decreasing_by
  have h1 : (names.filter (· != ".")).length ≤ names.length := List.length_filter_le _ _
  have h2 : 0 < names.length := List.length_pos_iff.2 _h
  simp only [above, List.length_dropLast]
  omega

def isDirectory (t : HostTree) (path : String) : Bool :=
  match t.resolve path with
  | .ok target => isPath path && target.isDirectory
  | .error _ => false

/-- Makes sure that a path exists: whether it had to be made, or nothing if that is impossible, and the tree
afterwards. -/
def ensure (t : HostTree) (path : String) : Option Bool × HostTree :=
  if !isPath path then (none, t)
  else match t.resolve path with
    | .ok _ => (some false, t)
    | .error _ =>
      match t.makeAll (namesOf path) with
      | (true, t) => (some true, t)
      | (false, t) => (none, t)

/-- The directories that every host has, and one file that can hold nothing. -/
def standard : HostTree :=
  ⟨.ofList [("dev", .directory [("null", .file)]), ("etc", .directory []), ("tmp", .directory [])]⟩

end HostTree

end Shipshape

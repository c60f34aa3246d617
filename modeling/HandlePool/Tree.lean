import HandlePool.IoError
import HandlePool.Path

/-!
# File trees

A tree gives names to nodes: files, directories and links.  A name belongs to a
location, the segments that lead to it from the root.  A node keeps its number
and its contents when its last name goes, so a handle that was opened under that
name still works.

The calls of a tree are those of a process that permissions do not bind: modes
are kept, and stand in nobody's way.
-/

namespace HandlePool

/-- The number of a node. -/
abbrev NodeId := Nat

/-- The bits of a file mode that can be set. -/
abbrev FileMode := UInt32

/-- What a name stands for. -/
inductive Node where
  /-- A file with its contents. -/
  | file (mode : FileMode) (contents : List UInt8)
  /-- A directory. -/
  | directory (mode : FileMode)
  /-- A link to the place that a path names. -/
  | link (target : Path)
  deriving DecidableEq, Repr

/-- The segments that lead to a name, the innermost one first; the root has
none. -/
abbrev Location := List Path.Segment

/-- A tree of named nodes. -/
structure Tree where
  /-- Every node there ever was, by number. -/
  nodes : List Node
  /-- The names in use. -/
  names : List (Location × NodeId)
  /-- Where relative paths start. -/
  origin : Location := []
  deriving DecidableEq, Repr

namespace Node

/-- The node is a directory. -/
def isDirectory : Node → Bool
  | .directory _ => true
  | _ => false

/-- The node is a file. -/
def isFile : Node → Bool
  | .file _ _ => true
  | _ => false

/-- The mode of a node; a link has none of its own. -/
def mode : Node → FileMode
  | .file mode _ => mode
  | .directory mode => mode
  | .link _ => 0o777

/-- The node with another mode. -/
def withMode (mode : FileMode) : Node → Node
  | .file _ contents => .file mode contents
  | .directory _ => .directory mode
  | .link target => .link target

/-- The number of bytes in a node; only files hold any. -/
def size : Node → Nat
  | .file _ contents => contents.length
  | _ => 0

end Node

namespace Tree

/-- The mode of a directory when it is made. -/
def directoryMode : FileMode := 0o755

/-- The mode of a file when it is made in passing. -/
def fileMode : FileMode := 0o644

/-- The bits that a mode can hold. -/
def modeBits : FileMode := 0o7777

/-- The bits that are taken off the mode of a new file. -/
def maskedBits : FileMode := 0o022

/-- A tree that holds nothing but its root. -/
def empty : Tree := ⟨[.directory directoryMode], [([], 0)], []⟩

/-! ## Looking up -/

/-- The number of the node at a location. -/
def find? (tree : Tree) (location : Location) : Option NodeId :=
  (tree.names.find? fun name => name.1 == location).map Prod.snd

/-- The node at a location. -/
def node? (tree : Tree) (location : Location) : Option Node :=
  (tree.find? location).bind fun node => tree.nodes[node]?

/-- There is a directory at the location. -/
def isDirectory (tree : Tree) (location : Location) : Bool :=
  ((tree.node? location).map Node.isDirectory).getD false

/-- Nothing is named inside the location. -/
def isBarren (tree : Tree) (location : Location) : Bool :=
  tree.names.all fun name =>
    match name.1 with
    | [] => true
    | _ :: directory => directory != location

/-! ## Changing -/

/-- Give a new node a name. -/
def add (tree : Tree) (location : Location) (node : Node) : NodeId × Tree :=
  (tree.nodes.length,
    { tree with
      nodes := tree.nodes ++ [node]
      names := tree.names ++ [(location, tree.nodes.length)] })

/-- Take the name at a location away. -/
def erase (tree : Tree) (location : Location) : Tree :=
  { tree with names := tree.names.filter fun name => name.1 != location }

/-- Replace a node. -/
def setNode (tree : Tree) (number : NodeId) (node : Node) : Tree :=
  { tree with nodes := tree.nodes.set number node }

/-- A location carried along when what is at `source` moves to `target`. -/
def carry (source target location : Location) : Location :=
  if source.isSuffixOf location then
    location.take (location.length - source.length) ++ target
  else location

/-- Move a name, and all names inside it. -/
def move (tree : Tree) (source target : Location) : Tree :=
  { tree with
    names := tree.names.map fun name => (carry source target name.1, name.2) }

/-! ## Small laws -/

theorem find?_add_self {tree : Tree} {location : Location} (node : Node)
    (unnamed : tree.find? location = none) :
    (tree.add location node).2.find? location = some tree.nodes.length := by
  have absent : tree.names.find? (fun name => name.1 == location) = none := by
    simpa [find?] using unnamed
  simp [find?, add, absent]

theorem find?_add_of_ne {location other : Location} (tree : Tree) (node : Node)
    (different : other ≠ location) :
    (tree.add location node).2.find? other = tree.find? other := by
  have passed : (location == other) = false :=
    beq_eq_false_iff_ne.mpr (Ne.symm different)
  simp [find?, add, passed]

@[simp] theorem find?_erase_self (tree : Tree) (location : Location) :
    (tree.erase location).find? location = none := by
  simp [find?, erase]

theorem find?_erase_of_ne {location other : Location} (tree : Tree)
    (different : other ≠ location) :
    (tree.erase location).find? other = tree.find? other := by
  unfold find? erase
  rw [List.find?_filter]
  congr 2
  funext name
  by_cases same : name.1 = other <;> simp [same, different]

@[simp] theorem nodes_erase (tree : Tree) (location : Location) :
    (tree.erase location).nodes = tree.nodes := rfl

@[simp] theorem find?_setNode (tree : Tree) (number : NodeId) (node : Node)
    (location : Location) :
    (tree.setNode number node).find? location = tree.find? location := rfl

@[simp] theorem carry_self (source target : Location) :
    carry source target source = target := by
  simp [carry]

/-- What lies inside a place is carried to the same spot inside the new one. -/
theorem carry_append (source target inner : Location) :
    carry source target (inner ++ source) = inner ++ target := by
  simp [carry]

end Tree
end HandlePool

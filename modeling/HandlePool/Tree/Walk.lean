import HandlePool.Tree

/-!
# Walking along paths

A walk starts at the root, or where relative paths start, and enters one
segment after another; everything it passes must be a directory.  Where it
meets a link it goes on along the link's target, at most forty times.  Calls
that make or remove a name walk to the directory of that name and treat the
last segment themselves.
-/

namespace HandlePool

/-- A refusal by the system. -/
def refuse {α : Type} (code : Int) : Except IoError α := .error (.system code)

namespace Path

/-- The longest path that is looked at, in bytes. -/
def longest : Nat := 4095

/-- The longest segment, in bytes. -/
def longestSegment : Nat := 255

/-- The segments a walk along the path enters; after a final slash it enters the
place it has come to once more. -/
def steps (path : Path) : List Segment :=
  path.segments ++ if path.endsInSlash then [here] else []

/-- The path can be looked at. -/
def admissible (path : Path) : Except IoError Unit :=
  if path.hasZeroByte then .error .zeroByte
  else if path.bytes.isEmpty then refuse Errno.noEntry
  else if path.bytes.length > longest then refuse Errno.nameTooLong
  else .ok ()

end Path

namespace Tree

/-- How many links a walk follows. -/
def mostLinks : Nat := 40

/-- Where a walk stops for the first time. -/
inductive Halt where
  /-- At its end. -/
  | arrived (location : Location)
  /-- At a link in a directory, with some segments still ahead. -/
  | atLink (directory : Location) (target : Path) (ahead : List Path.Segment)
  deriving DecidableEq

/-- Walk along segments as far as there is no link. -/
def walkToLink (tree : Tree) (location : Location) :
    List Path.Segment → Except IoError Halt
  | [] => .ok (.arrived location)
  | segment :: ahead =>
    if !tree.isDirectory location then refuse Errno.notDirectory
    else if segment.length > Path.longestSegment then refuse Errno.nameTooLong
    else
      match tree.node? (Path.enter location segment) with
      | none => refuse Errno.noEntry
      | some (.link target) => .ok (.atLink location target ahead)
      | some _ => walkToLink tree (Path.enter location segment) ahead

/-- Where a walk along a path starts, given where relative paths do. -/
def startOf (location : Location) (path : Path) : Location :=
  if path.isAbsolute then [] else location

/-- Where a walk ended, and how many links it might still have followed. -/
structure Arrival where
  location : Location
  linksLeft : Nat
  deriving DecidableEq

/-- Walk along segments, following links. -/
def walk (tree : Tree) (links : Nat) (location : Location)
    (segments : List Path.Segment) : Except IoError Arrival :=
  match tree.walkToLink location segments with
  | .error error => .error error
  | .ok (.arrived location) => .ok ⟨location, links⟩
  | .ok (.atLink directory target ahead) =>
    match links with
    | 0 => refuse Errno.tooManyLinks
    | links + 1 =>
      walk tree links (startOf directory target) (target.steps ++ ahead)

theorem linksLeft_walk_le {tree : Tree} {links : Nat} {location : Location}
    {segments : List Path.Segment} {arrival : Arrival}
    (walked : tree.walk links location segments = .ok arrival) :
    arrival.linksLeft ≤ links := by
  induction links generalizing location segments with
  | zero =>
    unfold walk at walked
    split at walked
    · cases walked
    · cases walked
      exact Nat.le_refl _
    · cases walked
  | succ links inductionHypothesis =>
    unfold walk at walked
    split at walked
    · cases walked
    · cases walked
      exact Nat.le_refl _
    · exact Nat.le_succ_of_le (inductionHypothesis walked)

/-- The location that a path names, all links followed. -/
def resolve (tree : Tree) (path : Path) : Except IoError Location := do
  path.admissible
  return (← tree.walk mostLinks (startOf tree.origin path) path.steps).location

/-! ## The last step -/

/-- The last step of a path, and the directory it is made from. -/
structure Approach where
  directory : Location
  last : Path.Component
  linksLeft : Nat
  deriving DecidableEq

/-- Walk along a path up to its last step. -/
def approach (tree : Tree) (links : Nat) (location : Location) (path : Path) :
    Except IoError Approach :=
  match path.segments.getLast? with
  | none => .ok ⟨[], .root, links⟩
  | some last =>
    match tree.walk links (startOf location path) path.segments.dropLast with
    | .error error => .error error
    | .ok arrival =>
      if tree.isDirectory arrival.location then
        .ok ⟨arrival.location, .ofSegment last, arrival.linksLeft⟩
      else refuse Errno.notDirectory

theorem linksLeft_approach_le {tree : Tree} {links : Nat} {location : Location}
    {path : Path} {found : Approach}
    (approached : tree.approach links location path = .ok found) :
    found.linksLeft ≤ links := by
  unfold approach at approached
  split at approached
  · cases approached
    exact Nat.le_refl _
  · split at approached
    · cases approached
    · next walked =>
      split at approached
      · cases approached
        exact linksLeft_walk_le walked
      · cases approached

/-- Walk along a path that must be fit to look at, up to its last step. -/
def approachPath (tree : Tree) (path : Path) : Except IoError Approach := do
  path.admissible
  tree.approach mostLinks tree.origin path

/-- The node under a name in a directory, if there is one. -/
def lookUnder (tree : Tree) (directory : Location) (name : Path.Segment) :
    Except IoError (Option Node) :=
  if name.length > Path.longestSegment then refuse Errno.nameTooLong
  else .ok (tree.node? (name :: directory))

/-- The location where a file of that path is, or where it would be made; a link
there is followed, whether or not it leads to anything. -/
def site (tree : Tree) (links : Nat) (location : Location) (path : Path) :
    Except IoError Location :=
  match _approached : tree.approach links location path with
  | .error error => .error error
  | .ok ⟨directory, .root, _⟩ => .ok directory
  | .ok ⟨directory, .here, _⟩ => .ok directory
  | .ok ⟨directory, .up, _⟩ => .ok directory.tail
  | .ok ⟨directory, .name name, linksLeft⟩ =>
    if path.endsInSlash then refuse Errno.isDirectory
    else
      match tree.lookUnder directory name with
      | .error error => .error error
      | .ok (some (.link target)) =>
        match _remaining : linksLeft with
        | 0 => refuse Errno.tooManyLinks
        | linksLeft + 1 => site tree linksLeft directory target
      | .ok _ => .ok (name :: directory)
termination_by links
decreasing_by
  have := linksLeft_approach_le _approached
  simp only at this
  omega

/-- The location that a path names, without following a link in its last step;
a final slash makes that link one on the way. -/
def locate (tree : Tree) (path : Path) : Except IoError Location :=
  if path.endsInSlash then tree.resolve path
  else do
    let found ← tree.approachPath path
    match found.last with
    | .root | .here => .ok found.directory
    | .up => .ok found.directory.tail
    | .name name =>
      match ← tree.lookUnder found.directory name with
      | none => refuse Errno.noEntry
      | some _ => .ok (name :: found.directory)

end Tree
end HandlePool

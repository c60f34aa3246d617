import HandlePool.Tree

/-!
# Contents of files

Contents are read and written by number of node, whether the node still has a
name or not.  Writing past the end fills the gap with zeros.
-/

namespace HandlePool

/-- Contents after `bytes` were put at a position. -/
def overwrite (contents bytes : List UInt8) (position : Nat) : List UInt8 :=
  contents.take position ++ List.replicate (position - contents.length) 0 ++
    bytes ++ contents.drop (position + bytes.length)

theorem length_overwrite (contents bytes : List UInt8) (position : Nat) :
    (overwrite contents bytes position).length =
      max contents.length (position + bytes.length) := by
  simp only [overwrite, List.length_append, List.length_take,
    List.length_replicate, List.length_drop]
  omega

/-- What was put at a position is found there. -/
theorem take_drop_overwrite (contents bytes : List UInt8) (position : Nat) :
    ((overwrite contents bytes position).drop position).take bytes.length =
      bytes := by
  have skipped : (contents.take position ++
      List.replicate (position - contents.length) (0 : UInt8)).length =
        position := by
    simp only [List.length_append, List.length_take, List.length_replicate]
    omega
  unfold overwrite
  rw [List.append_assoc, List.drop_append_of_le_length (by omega)]
  rw [List.drop_eq_nil_of_le (by omega), List.nil_append]
  simp

/-- Putting bytes at the end appends them. -/
@[simp] theorem overwrite_length_self (contents bytes : List UInt8) :
    overwrite contents bytes contents.length = contents ++ bytes := by
  simp [overwrite]

namespace Tree

/-- The contents of a node; only files have any. -/
def contents? (tree : Tree) (number : NodeId) : Option (List UInt8) :=
  match tree.nodes[number]? with
  | some (.file _ contents) => some contents
  | _ => none

/-- Replace the contents of a file. -/
def setContents (tree : Tree) (number : NodeId)
    (contents : List UInt8) : Tree :=
  match tree.nodes[number]? with
  | some (.file mode _) => tree.setNode number (.file mode contents)
  | _ => tree

theorem contents?_setContents_self {tree : Tree} {number : NodeId}
    {old : List UInt8} (isFile : tree.contents? number = some old)
    (contents : List UInt8) :
    (tree.setContents number contents).contents? number = some contents := by
  unfold contents? at isFile
  split at isFile
  · next mode _ found =>
    have bounded : number < tree.nodes.length :=
      (List.getElem?_eq_some_iff.mp found).1
    have replaced : tree.setContents number contents =
        tree.setNode number (.file mode contents) := by
      simp only [setContents, found]
    simp [replaced, contents?, setNode, bounded]
  · cases isFile

theorem contents?_setContents_of_ne {number other : NodeId}
    (different : other ≠ number) (tree : Tree) (contents : List UInt8) :
    (tree.setContents number contents).contents? other =
      tree.contents? other := by
  unfold setContents
  split
  · simp [contents?, setNode, List.getElem?_set_ne (Ne.symm different)]
  · rfl

/-- The size of a node. -/
def sizeOf (tree : Tree) (number : NodeId) : Nat :=
  (tree.nodes[number]?.map Node.size).getD 0

/-- Put bytes into a file, at a position or at its end. -/
def put (tree : Tree) (number : NodeId) (bytes : List UInt8)
    (position? : Option Nat) :
    Tree :=
  match tree.contents? number with
  | none => tree
  | some contents =>
    tree.setContents number
      (overwrite contents bytes (position?.getD contents.length))

end Tree
end HandlePool

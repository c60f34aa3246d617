import HandlePool.Proofs.Tree.Naming

/-!
# Writing through a handle

Writing at an offset and writing in sequence, given case by case for an open
handle. Either changes the contents of the one file that the handle is open on.
-/

namespace HandlePool

/-! ## Bytes put into contents -/

/-- What lies outside the bytes that are put stays. -/
theorem getElem?_overwrite_of_outside
    {contents : List UInt8}
    (bytes : List UInt8)
    {start position : Nat}
    (bounded : position < contents.length)
    (outside : position < start ∨ start + bytes.length ≤ position) :
    (overwrite contents bytes start)[position]? = contents[position]? := by
  obtain before | behind := outside
  · have inFront : position < (contents.take start).length := by
      rw [List.length_take]
      omega
    rw [overwrite, List.append_assoc, List.append_assoc,
      List.getElem?_append_left inFront, List.getElem?_take_of_lt before]
  · have front :
        (contents.take start ++ List.replicate (start - contents.length) 0 ++
        bytes).length = start + bytes.length := by
      simp only [List.length_append, List.length_take, List.length_replicate]
      omega
    rw [overwrite, List.getElem?_append_right (by omega), front,
      List.getElem?_drop]
    congr 1
    omega

namespace Tree

variable {tree : Tree} {number other : NodeId} {contents : List UInt8}

theorem contents?_put_self
    (isFile : tree.contents? number = some contents)
    (bytes : List UInt8)
    (position? : Option Nat) :
    (tree.put number bytes position?).contents? number =
      some (overwrite contents bytes (position?.getD contents.length)) := by
  rw [put, isFile]
  exact contents?_setContents_self isFile _

theorem contents?_put_of_ne
    (different : other ≠ number)
    (tree : Tree)
    (bytes : List UInt8)
    (position? : Option Nat) :
    (tree.put number bytes position?).contents? other =
      tree.contents? other := by
  unfold put
  split
  · rfl
  · exact contents?_setContents_of_ne different tree _

end Tree

namespace FileHandle

/-! ## Calls case by case -/

variable
  {handle moved : FileHandle}
  {tree after : Tree}
  {bytes : List UInt8}
  {descriptor : Descriptor}

theorem append_eq
    (held : handle.descriptor = some descriptor)
    (tree : Tree)
    (bytes : List UInt8) :
    handle.append tree bytes =
      if bytes.isEmpty then .ok (handle, tree)
      else if !handle.mode.writes then refuse Errno.badDescriptor
      else if handle.mode = .append then
        .ok (handle, tree.put descriptor.node bytes none)
      else
        .ok ({ handle with
            descriptor := some { descriptor with
              cursor := descriptor.cursor + bytes.length } },
          tree.put descriptor.node bytes (some descriptor.cursor)) := by
  simp only [append, live, held]
  change (if _ then _ else _) = _
  split
  · rfl
  · split <;> rfl

theorem writeAt_eq
    (held : handle.descriptor = some descriptor)
    (tree : Tree)
    (bytes : List UInt8)
    (offset : UInt64) :
    handle.writeAt tree bytes offset =
      if bytes.isEmpty then .ok tree
      else (transferable handle.mode.writes bytes.length offset).map fun _ =>
        tree.put descriptor.node bytes
          (if handle.mode = .append then none else some offset.toNat) := by
  simp only [writeAt, live, held]
  change (if _ then _ else _) = _
  split
  · rfl
  · cases transferable handle.mode.writes bytes.length offset <;> rfl

theorem append_of_closed
    (closed : handle.descriptor = none)
    (tree : Tree)
    (bytes : List UInt8) :
    handle.append tree bytes = .error .closedHandle := by
  simp only [append, live, closed]
  rfl

theorem writeAt_of_closed
    (closed : handle.descriptor = none)
    (tree : Tree)
    (bytes : List UInt8)
    (offset : UInt64) :
    handle.writeAt tree bytes offset = .error .closedHandle := by
  simp only [writeAt, live, closed]
  rfl

/-- Writing in sequence moves nothing but the cursor, and puts bytes into the
file of the handle, if any. -/
theorem of_append
    (appended : handle.append tree bytes = .ok (moved, after)) :
    ∃ descriptor cursor, handle.descriptor = some descriptor ∧
      moved = { handle with
        descriptor := some { descriptor with cursor := cursor } } ∧
      (after = tree ∨ ∃ position?,
        after = tree.put descriptor.node bytes position?) := by
  cases held : handle.descriptor with
  | none =>
      rw [append_of_closed held] at appended
      cases appended
  | some descriptor =>
      have unmoved : handle =
          { handle with
            descriptor :=
              some { descriptor with cursor := descriptor.cursor } } := by
        rw [← held]
      rw [append_eq held] at appended
      refine ⟨descriptor, ?_⟩
      split at appended
      · cases appended
        exact ⟨_, rfl, unmoved, .inl rfl⟩
      · split at appended
        · exact absurd appended refuse_ne_ok
        · split at appended
          · cases appended
            exact ⟨_, rfl, unmoved, .inr ⟨_, rfl⟩⟩
          · cases appended
            exact ⟨_, rfl, rfl, .inr ⟨_, rfl⟩⟩

/-- Writing at an offset puts bytes into the file of the handle, if any. -/
theorem of_writeAt
    {offset : UInt64}
    (written : handle.writeAt tree bytes offset = .ok after) :
    ∃ descriptor, handle.descriptor = some descriptor ∧
      (after = tree ∨ ∃ position?,
        after = tree.put descriptor.node bytes position?) := by
  cases held : handle.descriptor with
  | none =>
      rw [writeAt_of_closed held] at written
      cases written
  | some descriptor =>
      rw [writeAt_eq held] at written
      refine ⟨descriptor, rfl, ?_⟩
      split at written
      · cases written
        exact .inl rfl
      · obtain ⟨-, -, rfl⟩ := map_eq_ok_iff.mp written
        exact .inr ⟨_, rfl⟩

/-! ## What is written -/

/-- Writing in sequence adds to the end of the file, and
changes no other file. -/
def AppendsTo (handle : FileHandle) (node : NodeId) : Prop :=
  ∀ (tree : Tree) (bytes contents : List UInt8),
    tree.contents? node = some contents →
    ∃ moved after, handle.append tree bytes = .ok (moved, after) ∧
      after.contents? node = some (contents ++ bytes) ∧
      ∀ other, other ≠ node → after.contents? other = tree.contents? other

/-- Writing at an offset puts the bytes there, leaves all other
bytes of the file, and changes no other file; the offsets of the
bytes must be possible ones. -/
def WritesInto (handle : FileHandle) (node : NodeId) : Prop :=
  ∀ (tree : Tree) (bytes contents : List UInt8) (offset : UInt64),
    tree.contents? node = some contents →
    offset.toNat + bytes.length < positionBound →
    ∃ after written, handle.writeAt tree bytes offset = .ok after ∧
      after.contents? node = some written ∧
      (written.drop offset.toNat).take bytes.length = bytes ∧
      (∀ position, position < contents.length →
        position < offset.toNat ∨ offset.toNat + bytes.length ≤ position →
          written[position]? = contents[position]?) ∧
      ∀ other, other ≠ node → after.contents? other = tree.contents? other

theorem appendsTo_of_append
    (held : handle.descriptor = some descriptor)
    (appends : handle.mode = .append) :
    handle.AppendsTo descriptor.node := by
  intro tree bytes contents isFile
  rw [append_eq held]
  split
  · next isEmpty =>
    refine ⟨_, _, rfl, ?_, fun _ _ => rfl⟩
    rw [List.isEmpty_iff.mp isEmpty, List.append_nil]
    exact isFile
  · have writes : ¬(!handle.mode.writes) = true := by
      rw [appends]
      decide
    rw [if_neg writes]
    refine ⟨_, _, rfl, ?_, fun other different => ?_⟩
    · rw [Tree.contents?_put_self isFile, Option.getD_none,
        overwrite_length_self]
    · exact Tree.contents?_put_of_ne different tree bytes none

theorem writesInto_of_ne_append
    (held : handle.descriptor = some descriptor)
    (writes : handle.mode.writes = true)
    (notAppend : handle.mode ≠ .append) :
    handle.WritesInto descriptor.node := by
  intro tree bytes contents offset isFile bounded
  rw [writeAt_eq held]
  split
  · next isEmpty =>
    refine ⟨_, _, rfl, isFile, ?_, fun _ _ _ => rfl, fun _ _ => rfl⟩
    rw [List.isEmpty_iff.mp isEmpty]
    rfl
  · have possible :
        transferable handle.mode.writes bytes.length offset = .ok () := by
      rw [transferable, writes, if_neg (by omega), if_neg (by decide),
        if_neg (by omega)]
    rw [possible]
    refine ⟨_, _, rfl, Tree.contents?_put_self isFile _ _, ?_, ?_,
      fun other different => ?_⟩
    · exact take_drop_overwrite contents bytes offset.toNat
    · intro position inside outside
      exact getElem?_overwrite_of_outside bytes inside outside
    · exact Tree.contents?_put_of_ne different tree bytes _

end FileHandle
end HandlePool

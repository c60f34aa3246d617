import HandlePool.FileStore.Counted
import HandlePool.Proofs.Path.Resolution

/-!
# What a counted store has counted

The table of opened paths has one row to a path, so that its rows add up: they
are as many as the paths that were opened, each counted as often as it was.
Paths count as equal when their components are, which for paths in normal form
means that they are the same.
-/

namespace HandlePool

/-! ## Components of normal paths -/

namespace Path

theorem components_ofSegments
    {names : List Segment}
    (areNames : ∀ name ∈ names, IsName name) :
    (ofSegments names).components = .root :: names.map Component.ofSegment := by
  have noneHere : names.filter (fun name => name != here) = names :=
    List.filter_eq_self.mpr fun name present =>
      bne_iff_ne.mpr (areNames name present).ne_here
  rw [components_of_isAbsolute (isAbsolute_ofSegments names), moves,
    segments_ofSegments areNames, noneHere]

/-- Normal paths with the same components are the same path. -/
theorem IsNormal.eq_of_components_eq
    {left right : Path}
    (leftNormal : left.IsNormal)
    (rightNormal : right.IsNormal)
    (same : left.components = right.components) :
    left = right := by
  obtain ⟨leftNames, areNames, rfl⟩ := leftNormal
  obtain ⟨rightNames, areNamesToo, rfl⟩ := rightNormal
  rw [components_ofSegments areNames, components_ofSegments areNamesToo] at same
  have sameBytes := congrArg (List.map Component.bytes) (List.cons.inj same).2
  simp only [List.map_map, Function.comp_def, bytes_ofSegment, List.map_id']
    at sameBytes
  rw [sameBytes]

end Path

/-! ## Tables -/

namespace PathTable

/-- No two rows are about the same path. -/
def RowsDiffer {α : Type} (table : PathTable α) : Prop :=
  (table.map Prod.fst).Nodup

/-- The values of all paths together. -/
def total : PathTable Nat → Nat
  | [] => 0
  | row :: rows => row.2 + total rows

theorem foldl_add
    (table : PathTable Nat)
    (before : Nat) :
    table.foldl (fun total row => total + row.2) before =
      before + table.total := by
  induction table generalizing before with
  | nil => rfl
  | cons row rows inductionHypothesis =>
      rw [List.foldl_cons, inductionHypothesis, total, Nat.add_assoc]

theorem RowsDiffer.insert
    {α : Type}
    {table : PathTable α}
    (differ : table.RowsDiffer)
    (path : Path)
    (value : α) :
    (table.insert path value).RowsDiffer := by
  refine List.nodup_cons.mpr
    ⟨?_, differ.sublist (List.filter_sublist.map Prod.fst)⟩
  rw [List.mem_map]
  rintro ⟨row, present, same⟩
  exact bne_iff_ne.mp (List.mem_filter.mp present).2 same

/-- The row of a path is one part of the total. -/
theorem RowsDiffer.total_erase
    {table : PathTable Nat}
    (differ : table.RowsDiffer)
    (path : Path) :
    (table.erase path).total + (table.find? path).getD 0 = table.total := by
  induction table with
  | nil => rfl
  | cons row table inductionHypothesis =>
      obtain ⟨fresh, differ⟩ := List.nodup_cons.mp differ
      by_cases same : row.1 = path.components
      · have stays : erase table path = table := by
          refine List.filter_eq_self.mpr fun other present =>
            bne_iff_ne.mpr fun sameToo => ?_
          exact fresh (List.mem_map.mpr
            ⟨other, present, sameToo.trans same.symm⟩)
        have found : find? (row :: table) path = some row.2 := by
          simp [find?, same]
        have gone : erase (row :: table) path = erase table path := by
          simp [erase, same]
        rw [gone, stays, found, Option.getD_some, total, Nat.add_comm]
      · have found : find? (row :: table) path = find? table path := by
          simp [find?, same]
        have kept : erase (row :: table) path = row :: erase table path := by
          simp [erase, same]
        rw [kept, found, total, total, Nat.add_assoc,
          inductionHypothesis differ]

/-- A path that counts once more makes the total larger by one. -/
theorem RowsDiffer.total_insert
    {table : PathTable Nat}
    (differ : table.RowsDiffer)
    (path : Path) :
    (table.insert path ((table.find? path).getD 0 + 1)).total =
      table.total + 1 := by
  have split := differ.total_erase path
  have added : (table.insert path ((table.find? path).getD 0 + 1)).total =
      (table.find? path).getD 0 + 1 + (table.erase path).total := rfl
  omega

end PathTable

/-! ## Openings -/

namespace CountedStore

variable {σ : Type} {store after : CountedStore σ} {opened : List Path}

theorem totalOpens_eq
    (store : CountedStore σ) :
    store.totalOpens = store.opens.total := by
  rw [totalOpens, PathTable.foldl_add, Nat.zero_add]

/-- The store has counted that just these paths were opened. -/
structure HasOpened (store : CountedStore σ) (opened : List Path) : Prop where
  rowsDiffer : store.opens.RowsDiffer
  openCount_eq (path : Path) :
    store.openCount path = opened.countP fun other =>
      other.components = path.components
  totalOpens_eq : store.totalOpens = opened.length

theorem hasOpened_nil
    (nothing : store.opens = []) :
    store.HasOpened [] := by
  constructor
  · rw [nothing]
    exact List.nodup_nil
  · intro path
    rw [openCount, nothing]
    rfl
  · rw [totalOpens, nothing]
    rfl

/-- Nothing matters but the table. -/
theorem HasOpened.congr
    (has : store.HasOpened opened)
    (same : after.opens = store.opens) :
    after.HasOpened opened := by
  obtain ⟨rowsDiffer, openCount_eq, totalOpens_eq⟩ := has
  constructor
  · rwa [same]
  · intro path
    rw [openCount, same]
    exact openCount_eq path
  · rw [totalOpens, same]
    exact totalOpens_eq

theorem HasOpened.countOpen
    (has : store.HasOpened opened)
    (path : Path) :
    (store.countOpen path).HasOpened (opened ++ [path]) where
  rowsDiffer := has.rowsDiffer.insert path _
  openCount_eq other := by
    have before := has.openCount_eq other
    rw [List.countP_append, List.countP_singleton]
    by_cases same : other.components = path.components
    · have sameCount : ∀ counted : CountedStore σ,
          counted.openCount other = counted.openCount path := by
        intro counted
        rw [openCount, openCount, PathTable.find?, PathTable.find?, same]
      rw [sameCount, openCount_countOpen_self, ← sameCount, before]
      simp [same]
    · rw [openCount_countOpen_of_ne same, before]
      simp [Ne.symm same]
  totalOpens_eq := by
    rw [List.length_append, List.length_singleton, ← has.totalOpens_eq,
      CountedStore.totalOpens_eq, CountedStore.totalOpens_eq]
    exact has.rowsDiffer.total_insert path

/-- Among normal paths each one is counted as often as it was opened. -/
theorem HasOpened.openCount_eq_count
    (has : store.HasOpened opened)
    (allNormal : ∀ path ∈ opened, path.IsNormal)
    {path : Path}
    (isNormal : path.IsNormal) :
    store.openCount path = opened.count path := by
  rw [has.openCount_eq, List.count]
  refine List.countP_congr fun other present => ?_
  rw [decide_eq_true_iff, beq_iff_eq]
  exact ⟨(allNormal other present).eq_of_components_eq isNormal,
    congrArg Path.components⟩

/-! ## Opening a path -/

variable [FileStore σ]

/-- An open that is made to fail is answered with the error
it is to fail with. -/
theorem fst_openFile_of_fault
    {path : Path}
    {code : Int}
    (fault : store.faults.find? path = some code)
    (mode : OpenMode) :
    (openFile path mode store).1 = .error (.system code) := by
  have still : (store.countOpen path).faults.find? path = some code := fault
  simp only [openFile, still]

/-- Whatever an open gives, it is counted, and nothing else is. -/
theorem snd_openFile
    (path : Path)
    (mode : OpenMode)
    (store : CountedStore σ) :
    ∃ inner, (openFile path mode store).2 =
      { store.countOpen path with inner := inner } := by
  simp only [openFile]
  split
  · exact ⟨store.inner, rfl⟩
  · exact ⟨_, rfl⟩

end CountedStore
end HandlePool

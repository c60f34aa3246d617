import HandlePool.Path
import HandlePool.Proofs.Text.Utf8

/-!
# Paths and their normal forms

A normal form is an absolute path of names, which are segments other
than `.` and `..`.  Its segments are these names.  A path that is a text
has a normal form that is a text, and texts are told apart by the keys
of their handles; other paths are not, since every broken run of bytes
is shown as the same replacement.
-/

namespace HandlePool
namespace Path

/-! ## Keys -/

/-- The path is written by some text. -/
def IsText (path : Path) : Prop := ∃ text, ofString text = path

theorem isText_iff
    {path : Path} :
    path.IsText ↔ ∃ characters, path.bytes = Utf8.encode characters := by
  constructor
  · rintro ⟨text, rfl⟩
    exact ⟨text.toList, rfl⟩
  · rintro ⟨characters, written⟩
    refine ⟨String.ofList characters, ?_⟩
    rw [ofString, String.toList_ofList, ← written]

/-- A path that is a text is shown as it is. -/
@[simp] theorem display_ofString
    (text : String) :
    (ofString text).display = text := by
  rw [display, ofString, Utf8.lossy_encode, String.ofList_toList]

/-- A path that is shown without a replacement is what is shown. -/
theorem ofString_display_of_notMem
    {path : Path}
    (unreplaced : Utf8.replacement ∉ path.display.toList) :
    ofString path.display = path := by
  rw [display, String.toList_ofList] at unreplaced
  rw [ofString, display, String.toList_ofList,
    Utf8.encode_lossy_of_notMem unreplaced]

/-- Paths that are texts are told apart when they are shown. -/
theorem IsText.eq_of_display_eq
    {left right : Path}
    (leftText : left.IsText)
    (rightText : right.IsText)
    (same : left.display = right.display) :
    left = right := by
  obtain ⟨leftText, rfl⟩ := leftText
  obtain ⟨rightText, rfl⟩ := rightText
  rw [display_ofString, display_ofString] at same
  rw [same]

/-- So are all paths that are shown without a replacement. -/
theorem eq_of_display_eq_of_notMem
    {left right : Path}
    (unreplaced : Utf8.replacement ∉ right.display.toList)
    (same : left.display = right.display) :
    left = right := by
  rw [← ofString_display_of_notMem unreplaced, ← same]
  rw [← same] at unreplaced
  exact (ofString_display_of_notMem unreplaced).symm

/-! ## Cutting -/

@[simp] theorem cut_cons_slash
    (bytes : List UInt8) :
    cut (slash :: bytes) = [] :: cut bytes := by
  rw [cut, if_pos rfl]

theorem cut_ne_nil
    (bytes : List UInt8) :
    cut bytes ≠ [] := by
  cases bytes with
  | nil => exact List.cons_ne_nil _ _
  | cons byte bytes =>
      unfold cut
      split
      · exact List.cons_ne_nil _ _
      · split <;> exact List.cons_ne_nil _ _

/-- Bytes without a slash lengthen the first piece of what follows them. -/
theorem cut_append
    {word : List UInt8}
    (unsplit : slash ∉ word)
    (bytes : List UInt8) :
    ∃ first later, cut bytes = first :: later ∧
      cut (word ++ bytes) = (word ++ first) :: later := by
  induction word with
  | nil =>
      obtain ⟨first, later, pieces⟩ :=
        List.exists_cons_of_ne_nil (cut_ne_nil bytes)
      exact ⟨first, later, pieces, pieces⟩
  | cons byte word inductionHypothesis =>
      rw [List.mem_cons, not_or] at unsplit
      obtain ⟨first, later, pieces, whole⟩ := inductionHypothesis unsplit.2
      refine ⟨first, later, pieces, ?_⟩
      rw [List.cons_append, cut, if_neg (Ne.symm unsplit.1), whole]
      rfl

theorem notMem_of_mem_cut
    {bytes : List UInt8}
    {segment : Segment}
    (present : segment ∈ cut bytes) :
    slash ∉ segment := by
  induction bytes generalizing segment with
  | nil =>
      rw [cut, List.mem_singleton] at present
      rw [present]
      exact List.not_mem_nil
  | cons byte bytes inductionHypothesis =>
      by_cases split : byte = slash
      · rw [split, cut_cons_slash, List.mem_cons] at present
        obtain rfl | present := present
        · exact List.not_mem_nil
        · exact inductionHypothesis present
      · have unsplit : slash ∉ [byte] := by simpa using Ne.symm split
        obtain ⟨first, later, pieces, whole⟩ := cut_append unsplit bytes
        rw [← List.singleton_append, whole, List.mem_cons] at present
        obtain rfl | present := present
        · rw [List.mem_append, not_or]
          refine ⟨unsplit, inductionHypothesis ?_⟩
          rw [pieces]
          exact List.mem_cons_self
        · refine inductionHypothesis ?_
          rw [pieces]
          exact List.mem_cons_of_mem _ present

/-- No character but the slash holds its byte. -/
theorem slash_notMem_encodeChar
    {character : Char}
    (different : character ≠ '/') :
    slash ∉ Utf8.encodeChar character := by
  intro present
  by_cases short : character.toNat < 0x80
  · rw [Utf8.encodeChar, if_pos short, List.mem_singleton, ← UInt8.toNat_inj,
      Utf8.toNat_toUInt8_of_lt (Nat.lt_trans short (by decide))] at present
    exact different (Char.toNat_inj.mp present.symm)
  · obtain ⟨lead, later, encoded, writes⟩ :=
      Utf8.writes_encodeChar (Nat.not_lt.mp short)
    rw [encoded] at present
    exact absurd (writes.le_of_mem present) (by decide)

/-- The pieces of a text are texts. -/
theorem exists_encode_of_mem_cut
    {characters : List Char}
    {segment : Segment}
    (present : segment ∈ cut (Utf8.encode characters)) :
    ∃ text, segment = Utf8.encode text := by
  induction characters generalizing segment with
  | nil =>
      refine ⟨[], ?_⟩
      simpa [cut] using present
  | cons character characters inductionHypothesis =>
      rw [Utf8.encode_cons] at present
      by_cases split : character = '/'
      · rw [split, show Utf8.encodeChar '/' = [slash] from rfl,
          List.singleton_append, cut_cons_slash, List.mem_cons] at present
        obtain rfl | present := present
        · exact ⟨[], rfl⟩
        · exact inductionHypothesis present
      · obtain ⟨first, later, pieces, whole⟩ :=
          cut_append (slash_notMem_encodeChar split) (Utf8.encode characters)
        rw [whole, List.mem_cons] at present
        obtain rfl | present := present
        · have inPieces : first ∈ cut (Utf8.encode characters) := by
            rw [pieces]
            exact List.mem_cons_self
          obtain ⟨text, rfl⟩ := inductionHypothesis inPieces
          exact ⟨character :: text, (Utf8.encode_cons _ _).symm⟩
        · refine inductionHypothesis ?_
          rw [pieces]
          exact List.mem_cons_of_mem _ present

theorem IsText.segments
    {path : Path}
    (isText : path.IsText)
    {segment : Segment}
    (present : segment ∈ path.segments) :
    ∃ text, segment = Utf8.encode text := by
  obtain ⟨characters, written⟩ := isText_iff.mp isText
  rw [Path.segments, written] at present
  exact exists_encode_of_mem_cut (List.mem_of_mem_filter present)

theorem isText_ofSegments
    {segments : List Segment}
    (texts : ∀ segment ∈ segments, ∃ text, segment = Utf8.encode text) :
    (ofSegments segments).IsText := by
  have written : ∃ characters,
      segments.flatMap (fun segment => slash :: segment) =
        Utf8.encode characters := by
    induction segments with
    | nil => exact ⟨[], rfl⟩
    | cons segment segments inductionHypothesis =>
        obtain ⟨text, rfl⟩ := texts segment List.mem_cons_self
        obtain ⟨later, laterWritten⟩ := inductionHypothesis fun other present =>
          texts other (List.mem_cons_of_mem _ present)
        refine ⟨'/' :: (text ++ later), ?_⟩
        rw [List.flatMap_cons, laterWritten, Utf8.encode_cons,
          Utf8.encode_append]
        rfl
  rw [isText_iff]
  cases segments with
  | nil => exact ⟨['/'], rfl⟩
  | cons segment segments => exact written

/-! ## Names -/

/-- The segment is not empty, and neither `.` nor `..`. -/
structure IsName (segment : Segment) : Prop where
  ne_nil : segment ≠ []
  unsplit : slash ∉ segment
  ne_here : segment ≠ here
  ne_up : segment ≠ up

theorem ne_nil_of_mem_segments
    {path : Path}
    {segment : Segment}
    (present : segment ∈ path.segments) :
    segment ≠ [] ∧ slash ∉ segment := by
  obtain ⟨isPiece, nonempty⟩ := List.mem_filter.mp present
  refine ⟨?_, notMem_of_mem_cut isPiece⟩
  rintro rfl
  cases nonempty

/-! ## Normal forms -/

/-- The path is absolute and made of names. -/
def IsNormal (path : Path) : Prop :=
  ∃ names : List Segment, (∀ name ∈ names, IsName name) ∧
    ofSegments names = path

theorem cut_flatMap
    {names : List Segment}
    (areNames : ∀ name ∈ names, IsName name) :
    cut (names.flatMap fun name => slash :: name) = [] :: names := by
  induction names with
  | nil => rfl
  | cons name names inductionHypothesis =>
      have later := inductionHypothesis fun other present =>
        areNames other (List.mem_cons_of_mem _ present)
      obtain ⟨first, rest, pieces, whole⟩ :=
        cut_append (areNames name List.mem_cons_self).unsplit
          (names.flatMap fun name => slash :: name)
      rw [later, List.cons.injEq] at pieces
      obtain ⟨rfl, rfl⟩ := pieces
      rw [List.flatMap_cons, List.cons_append, cut_cons_slash, whole,
        List.append_nil]

/-- The segments of a normal form are its names. -/
theorem segments_ofSegments
    {names : List Segment}
    (areNames : ∀ name ∈ names, IsName name) :
    (ofSegments names).segments = names := by
  have kept : names.filter (fun segment => !segment.isEmpty) = names := by
    rw [List.filter_eq_self]
    intro name present
    simpa using (areNames name present).ne_nil
  cases names with
  | nil => rfl
  | cons name names =>
      have pieces : cut (ofSegments (name :: names)).bytes =
          [] :: name :: names :=
        cut_flatMap areNames
      rw [segments, pieces]
      exact kept

theorem bytes_ofSegments_concat
    (before : List Segment)
    (last : Segment) :
    (ofSegments (before ++ [last])).bytes =
      before.flatMap (fun name => slash :: name) ++ slash :: last := by
  cases before <;> simp [ofSegments]

/-- Only the root is written with a slash at its end. -/
theorem endsInSlash_ofSegments
    {names : List Segment}
    (areNames : ∀ name ∈ names, IsName name) :
    (ofSegments names).endsInSlash = names.isEmpty := by
  obtain rfl | ⟨before, last, rfl⟩ := List.eq_nil_or_concat names
  · rfl
  · rw [List.concat_eq_append] at areNames ⊢
    obtain ⟨ne_nil, unsplit, -, -⟩ := areNames last (by simp)
    have isLast : (slash :: last).getLast? = some (last.getLast ne_nil) := by
      rw [List.getLast?_cons, List.getLast?_eq_some_getLast ne_nil]
      rfl
    have different : (some (last.getLast ne_nil) == some slash) = false := by
      rw [beq_eq_false_iff_ne, Ne, Option.some.injEq]
      exact fun same => unsplit (same ▸ List.getLast_mem ne_nil)
    rw [endsInSlash, bytes_ofSegments_concat, List.getLast?_append, isLast,
      Option.some_or, different]
    cases before <;> rfl

end Path
end HandlePool

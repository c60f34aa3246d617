import HandlePool.Proofs.Text.Utf8

/-!
# Single bytes in lenient reading

A byte below `0x80` is a character of its own wherever it stands.  No character
of several bytes and no broken run reaches over it, and neither holds it, so
lenient reading keeps every such byte and makes none.  In particular it does not
matter whether bytes are read first and then split at such a character, or split
first and then read.
-/

namespace HandlePool
namespace Utf8

/-- The byte is a character of its own. -/
def IsSingle (byte : UInt8) : Prop := byte.toNat < 0x80

/-- The character that a single byte is. -/
def single (byte : UInt8) : Char := Char.ofNat byte.toNat

theorem toNat_single
    {byte : UInt8}
    (isSingle : IsSingle byte) :
    (single byte).toNat = byte.toNat :=
  toNat_ofNat_of_isValid (.inl (Nat.lt_trans isSingle (by decide)))

theorem encodeChar_single
    {byte : UInt8}
    (isSingle : IsSingle byte) :
    encodeChar (single byte) = [byte] := by
  have short : (single byte).toNat < 0x80 := by
    rwa [toNat_single isSingle]
  rw [encodeChar, if_pos short, toUInt8_eq (toNat_single isSingle).symm]

theorem single_ne_replacement
    {byte : UInt8}
    (isSingle : IsSingle byte) :
    single byte ≠ replacement := by
  intro same
  have value := toNat_single isSingle
  rw [same] at value
  exact absurd isSingle (by rw [IsSingle, ← value]; decide)

/-! ## Pieces around a single byte -/

/-- No single byte continues a character. -/
theorem le_of_mem_continuationRanges
    {lead : UInt8}
    {ranges : List (UInt8 × UInt8)}
    (leads : continuationRanges lead = some ranges)
    {range : UInt8 × UInt8}
    (present : range ∈ ranges) :
    0x80 ≤ range.1.toNat := by
  have beyond : ranges.all fun range => 0x80 ≤ range.1.toNat := by
    rw [continuationRanges_eq] at leads
    split_ifs at leads <;> cases leads <;> rfl
  exact of_decide_eq_true (List.all_eq_true.mp beyond range present)

/-- A single byte ends what is held against ranges. -/
theorem matchRanges_append_single
    {ranges : List (UInt8 × UInt8)}
    (beyond : ∀ range ∈ ranges, 0x80 ≤ range.1.toNat)
    {byte : UInt8}
    (isSingle : IsSingle byte)
    (front back : List UInt8) :
    matchRanges ranges (front ++ byte :: back) =
      { matchRanges ranges front with
        rest := (matchRanges ranges front).rest ++ byte :: back } := by
  fun_induction matchRanges ranges front with
  | case1 front => rw [matchRanges]
  | case2 ranges nonempty =>
      obtain ⟨⟨low, high⟩, later, rfl⟩ := List.exists_cons_of_ne_nil nonempty
      have outside : ¬(low ≤ byte ∧ byte ≤ high) := by
        rw [UInt8.le_iff_toNat_le]
        have lowest := beyond _ List.mem_cons_self
        exact fun inRange =>
          absurd isSingle (Nat.not_lt.mpr (Nat.le_trans lowest inRange.1))
      rw [List.nil_append, matchRanges, if_neg outside]
  | case3 low high ranges next front inRange later inductionHypothesis =>
      have following := inductionHypothesis fun range present =>
        beyond range (List.mem_cons_of_mem _ present)
      rw [List.cons_append, matchRanges, if_pos inRange, following]
  | case4 low high ranges next front outside =>
      rw [List.cons_append, matchRanges, if_neg outside]

/-- The first piece does not reach over a single byte. -/
theorem firstPiece_append_single
    {byte : UInt8}
    (isSingle : IsSingle byte)
    (lead : UInt8)
    (front back : List UInt8) :
    firstPiece lead (front ++ byte :: back) =
      ((firstPiece lead front).1,
        (firstPiece lead front).2 ++ byte :: back) := by
  unfold firstPiece
  by_cases short : lead < 0x80
  · rw [if_pos short, if_pos short]
  · rw [if_neg short, if_neg short]
    cases leads : continuationRanges lead with
    | none => rfl
    | some ranges =>
        have found := matchRanges_append_single
          (fun _ => le_of_mem_continuationRanges leads) isSingle front back
        simp only [found]
        split <;> rfl

/-- A single byte divides the pieces before it from those behind it. -/
theorem pieces_append_single
    {byte : UInt8}
    (isSingle : IsSingle byte)
    (front back : List UInt8) :
    pieces (front ++ byte :: back) =
      pieces front ++ .char (single byte) :: pieces back := by
  fun_induction pieces front with
  | case1 =>
      have isCharacter := pieces_encodeChar_append (single byte) back
      rwa [encodeChar_single isSingle] at isCharacter
  | case2 lead front inductionHypothesis =>
      rw [List.cons_append, pieces, firstPiece_append_single isSingle,
        inductionHypothesis, List.cons_append]

theorem lossy_append_single
    {byte : UInt8}
    (isSingle : IsSingle byte)
    (front back : List UInt8) :
    lossy (front ++ byte :: back) =
      lossy front ++ single byte :: lossy back := by
  rw [lossy, pieces_append_single isSingle, List.map_append, List.map_cons]
  rfl

theorem lossy_cons_single
    {byte : UInt8}
    (isSingle : IsSingle byte)
    (back : List UInt8) :
    lossy (byte :: back) = single byte :: lossy back := by
  have divided := lossy_append_single isSingle [] back
  rwa [lossy_nil] at divided

/-! ## Single bytes are neither lost nor made -/

theorem rest_matchRanges_suffix
    (ranges : List (UInt8 × UInt8))
    (bytes : List UInt8) :
    (matchRanges ranges bytes).rest <:+ bytes := by
  fun_induction matchRanges ranges bytes with
  | case1 bytes => exact List.suffix_refl bytes
  | case2 => exact List.suffix_refl []
  | case3 low high ranges byte bytes inRange later isSuffix =>
      exact isSuffix.trans (List.suffix_cons byte bytes)
  | case4 => exact List.suffix_refl _

theorem rest_firstPiece_suffix
    (lead : UInt8)
    (bytes : List UInt8) :
    (firstPiece lead bytes).2 <:+ bytes := by
  unfold firstPiece
  split
  · exact List.suffix_refl bytes
  · split
    · exact List.suffix_refl bytes
    · next ranges leads =>
      simp only
      split <;> exact rest_matchRanges_suffix ranges bytes

/-- A character that is read stands in the bytes. -/
theorem encodeChar_subset_of_mem_pieces
    {bytes : List UInt8}
    {character : Char}
    (present : Piece.char character ∈ pieces bytes) :
    encodeChar character ⊆ bytes := by
  fun_induction pieces bytes with
  | case1 => cases present
  | case2 lead bytes inductionHypothesis =>
      rw [List.mem_cons] at present
      obtain isFirst | isLater := present
      · rw [← encodeChar_append_of_firstPiece (Prod.ext isFirst.symm rfl)]
        exact List.subset_append_left _ _
      · have inRest := inductionHypothesis isLater
        have isSuffix :=
          (rest_firstPiece_suffix lead bytes).trans
            (List.suffix_cons lead bytes)
        exact List.Subset.trans inRest isSuffix.subset

theorem single_notMem_lossy
    {byte : UInt8}
    (isSingle : IsSingle byte)
    {bytes : List UInt8}
    (absent : byte ∉ bytes) :
    single byte ∉ lossy bytes := by
  intro present
  obtain ⟨piece, isPiece, shown⟩ := List.mem_map.mp present
  cases piece with
  | char character =>
      obtain rfl : character = single byte := shown
      have inBytes := encodeChar_subset_of_mem_pieces isPiece
      rw [encodeChar_single isSingle] at inBytes
      exact absent (inBytes List.mem_cons_self)
  | broken run => exact single_ne_replacement isSingle shown.symm

/-- Lenient reading shows a single byte as often as it stands in the bytes. -/
theorem count_lossy
    {byte : UInt8}
    (isSingle : IsSingle byte)
    (bytes : List UInt8) :
    (lossy bytes).count (single byte) = bytes.count byte := by
  by_cases present : byte ∈ bytes
  · obtain ⟨front, back, rfl, absent⟩ := List.eq_append_cons_of_mem present
    have behind := count_lossy isSingle back
    rw [lossy_append_single isSingle, List.count_append, List.count_append,
      List.count_eq_zero_of_not_mem (single_notMem_lossy isSingle absent),
      List.count_eq_zero_of_not_mem absent, List.count_cons_self,
      List.count_cons_self, behind]
  · rw [List.count_eq_zero_of_not_mem (single_notMem_lossy isSingle present),
      List.count_eq_zero_of_not_mem present]
termination_by bytes.length
decreasing_by simp_all; omega

end Utf8
end HandlePool

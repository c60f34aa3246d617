import HandlePool.Text.Utf8
import Mathlib.Data.List.Forall2
import Mathlib.Tactic.SplitIfs

/-!
# Texts as bytes

The bytes of a text are read back as that text, strictly or leniently.  The
other way round, bytes whose pieces are all characters are the bytes of these
characters: there is only one way to write a character.  So texts with the same
lenient reading are the same, and bytes that are read leniently without a
replacement are a text.
-/

namespace HandlePool
namespace Utf8

/-! ## Continuation bytes -/

def InRange (range : UInt8 × UInt8) (byte : UInt8) : Prop :=
  range.1 ≤ byte ∧ byte ≤ range.2

theorem inRange_iff
    {low high byte : UInt8} :
    InRange (low, high) byte ↔
      low.toNat ≤ byte.toNat ∧ byte.toNat ≤ high.toNat := by
  simp only [InRange, UInt8.le_iff_toNat_le]

theorem matchRanges_append
    {ranges : List (UInt8 × UInt8)}
    {bytes : List UInt8}
    (inRange : List.Forall₂ InRange ranges bytes)
    (rest : List UInt8) :
    matchRanges ranges (bytes ++ rest) = ⟨bytes, [], rest⟩ := by
  induction inRange with
  | nil => cases rest <;> rfl
  | cons head _ inductionHypothesis =>
      rw [List.cons_append, matchRanges, inductionHypothesis]
      exact if_pos head

theorem inRange_of_matchRanges
    {ranges : List (UInt8 × UInt8)}
    {bytes : List UInt8}
    (complete : (matchRanges ranges bytes).missing = []) :
    List.Forall₂ InRange ranges (matchRanges ranges bytes).bytes ∧
      bytes = (matchRanges ranges bytes).bytes ++
        (matchRanges ranges bytes).rest := by
  fun_induction matchRanges ranges bytes with
  | case1 bytes => exact ⟨.nil, rfl⟩
  | case2 ranges nonempty => exact absurd complete nonempty
  | case3 low high ranges byte bytes inRange later inductionHypothesis =>
      obtain ⟨matched, whole⟩ := inductionHypothesis complete
      exact ⟨.cons inRange matched, congrArg (byte :: ·) whole⟩
  | case4 => cases complete

theorem continuationRanges_eq
    (lead : UInt8) :
    continuationRanges lead =
      if 0xC2 ≤ lead.toNat ∧ lead.toNat ≤ 0xDF then some [(0x80, 0xBF)]
      else if lead.toNat = 0xE0 then some [(0xA0, 0xBF), (0x80, 0xBF)]
      else if lead.toNat = 0xED then some [(0x80, 0x9F), (0x80, 0xBF)]
      else if 0xE1 ≤ lead.toNat ∧ lead.toNat ≤ 0xEF
        then some [(0x80, 0xBF), (0x80, 0xBF)]
      else if lead.toNat = 0xF0
        then some [(0x90, 0xBF), (0x80, 0xBF), (0x80, 0xBF)]
      else if 0xF1 ≤ lead.toNat ∧ lead.toNat ≤ 0xF3 then
        some [(0x80, 0xBF), (0x80, 0xBF), (0x80, 0xBF)]
      else if lead.toNat = 0xF4
        then some [(0x80, 0x8F), (0x80, 0xBF), (0x80, 0xBF)]
      else none := by
  simp only [continuationRanges, UInt8.le_iff_toNat_le, ← UInt8.toNat_inj]
  rfl

/-! ## Characters of several bytes -/

/-- A lead byte and the bytes after it write a scalar value. -/
inductive Writes : UInt8 → List UInt8 → Nat → Prop
  | two {lead second : UInt8} {value : Nat} :
      0x80 ≤ value → value < 0x800 →
      lead.toNat = 0xC0 + value / 64 → second.toNat = 0x80 + value % 64 →
      Writes lead [second] value
  | three {lead second third : UInt8} {value : Nat} :
      0x800 ≤ value → value < 0x10000 → value < 0xD800 ∨ 0xDFFF < value →
      lead.toNat = 0xE0 + value / 4096 → second.toNat = 0x80 + value / 64 % 64 →
      third.toNat = 0x80 + value % 64 →
      Writes lead [second, third] value
  | four {lead second third fourth : UInt8} {value : Nat} :
      0x10000 ≤ value → value < 0x110000 →
      lead.toNat = 0xF0 + value / 262144 →
      second.toNat = 0x80 + value / 4096 % 64 →
      third.toNat = 0x80 + value / 64 % 64 → fourth.toNat = 0x80 + value % 64 →
      Writes lead [second, third, fourth] value

theorem toNat_toUInt8_of_lt
    {value : Nat}
    (small : value < 256) :
    value.toUInt8.toNat = value := by
  rw [Nat.toUInt8, UInt8.toNat_ofNat', Nat.mod_eq_of_lt small]

theorem toUInt8_eq
    {byte : UInt8}
    {value : Nat}
    (same : byte.toNat = value) :
    value.toUInt8 = byte := by
  rw [← same]
  exact UInt8.ofNat_toNat

theorem toNat_ofNat_of_isValid
    {value : Nat}
    (valid : value.isValidChar) :
    (Char.ofNat value).toNat = value := by
  rw [Char.ofNat, dif_pos valid]
  rfl

theorem writes_encodeChar
    {character : Char}
    (long : 0x80 ≤ character.toNat) :
    ∃ lead later, encodeChar character = lead :: later ∧
      Writes lead later character.toNat := by
  have valid : character.toNat < 0xD800 ∨
      0xDFFF < character.toNat ∧ character.toNat < 0x110000 := character.valid
  simp only [encodeChar]
  rw [if_neg (by omega)]
  split
  · next small =>
    exact ⟨_, _, rfl, .two long small (toNat_toUInt8_of_lt (by omega))
      (toNat_toUInt8_of_lt (by omega))⟩
  · split
    · next large small =>
      exact ⟨_, _, rfl,
        .three (by omega) small (by omega) (toNat_toUInt8_of_lt (by omega))
        (toNat_toUInt8_of_lt (by omega)) (toNat_toUInt8_of_lt (by omega))⟩
    · next larger large =>
      exact ⟨_, _, rfl,
        .four (by omega) (by omega) (toNat_toUInt8_of_lt (by omega))
        (toNat_toUInt8_of_lt (by omega)) (toNat_toUInt8_of_lt (by omega))
        (toNat_toUInt8_of_lt (by omega))⟩

section Writes

variable {lead : UInt8} {later : List UInt8} {value : Nat}

/-- There is one way to write a value. -/
theorem Writes.encodeChar_eq
    (writes : Writes lead later value) :
    encodeChar (Char.ofNat value) = lead :: later := by
  have valid : (Char.ofNat value).toNat = value := by
    apply toNat_ofNat_of_isValid
    cases writes with
    | two _ small _ _ => exact .inl (by omega)
    | three _ small apart _ _ _ => exact apart.imp_right fun above =>
        ⟨above, by omega⟩
    | four large small _ _ _ _ => exact .inr ⟨by omega, small⟩
  simp only [encodeChar, valid]
  cases writes with
  | two large small first second =>
      rw [if_neg (by omega), if_pos small, toUInt8_eq first, toUInt8_eq second]
  | three large small _ first second third =>
      rw [if_neg (by omega), if_neg (by omega), if_pos small, toUInt8_eq first,
        toUInt8_eq second, toUInt8_eq third]
  | four large _ first second third fourth =>
      rw [if_neg (by omega), if_neg (by omega), if_neg (by omega),
        toUInt8_eq first,
        toUInt8_eq second, toUInt8_eq third, toUInt8_eq fourth]

/-- Every byte of such a character is beyond the single ones. -/
theorem Writes.le_of_mem
    (writes : Writes lead later value)
    {byte : UInt8}
    (present : byte ∈ lead :: later) :
    0x80 ≤ byte.toNat := by
  cases writes with
  | two =>
      simp only [List.mem_cons, List.not_mem_nil, or_false] at present
      obtain rfl | rfl := present <;> omega
  | three =>
      simp only [List.mem_cons, List.not_mem_nil, or_false] at present
      obtain rfl | rfl | rfl := present <;> omega
  | four =>
      simp only [List.mem_cons, List.not_mem_nil, or_false] at present
      obtain rfl | rfl | rfl | rfl := present <;> omega

theorem scalar_two
    (lead second : UInt8) :
    scalar lead [second] = lead.toNat % 32 * 64 + second.toNat % 64 := rfl

theorem scalar_three
    (lead second third : UInt8) :
    scalar lead [second, third] =
      (lead.toNat % 16 * 64 + second.toNat % 64) * 64 + third.toNat % 64 := rfl

theorem scalar_four
    (lead second third fourth : UInt8) :
    scalar lead [second, third, fourth] =
      ((lead.toNat % 8 * 64 + second.toNat % 64) * 64 + third.toNat % 64) * 64 +
        fourth.toNat % 64 := rfl

/-- What is written is read back. -/
theorem Writes.continuation
    (writes : Writes lead later value) :
    scalar lead later = value ∧
      ∃ ranges, continuationRanges lead = some ranges ∧
        List.Forall₂ InRange ranges later := by
  rw [continuationRanges_eq]
  cases writes with
  | two large small first second =>
      refine ⟨by rw [scalar_two]; omega, [(0x80, 0xBF)], if_pos (by omega), ?_⟩
      simp only [List.forall₂_cons, List.Forall₂.nil, inRange_iff,
        UInt8.reduceToNat, and_true]
      omega
  | three large small apart first second third =>
      refine ⟨by rw [scalar_three]; omega, ?_⟩
      rw [if_neg (by omega)]
      split_ifs <;>
        simp only [Option.some.injEq, exists_eq_left', List.forall₂_cons,
          List.Forall₂.nil,
          inRange_iff, UInt8.reduceToNat, and_true, false_and, exists_false] <;>
        omega
  | four large small first second third fourth =>
      refine ⟨by rw [scalar_four]; omega, ?_⟩
      rw [if_neg (by omega), if_neg (by omega), if_neg (by omega),
        if_neg (by omega)]
      split_ifs <;>
        simp only [Option.some.injEq, exists_eq_left', List.forall₂_cons,
          List.Forall₂.nil,
          inRange_iff, UInt8.reduceToNat, and_true, false_and, exists_false] <;>
        omega

theorem writes_of_continuation
    {ranges : List (UInt8 × UInt8)}
    (leads : continuationRanges lead = some ranges)
    (matched : List.Forall₂ InRange ranges later) :
    Writes lead later (scalar lead later) := by
  rw [continuationRanges_eq] at leads
  split_ifs at leads <;> cases leads
  all_goals
    simp only [List.forall₂_cons_left_iff,
      List.forall₂_nil_left_iff, inRange_iff, UInt8.reduceToNat] at matched
  · obtain ⟨second, _, _, rfl, rfl⟩ := matched
    have := scalar_two lead second
    refine .two ?_ ?_ ?_ ?_ <;> omega
  -- Three bytes: the second one is kept from a short form or from a surrogate.
  iterate 3
    · obtain ⟨second, _, _, ⟨third, _, _, rfl, rfl⟩, rfl⟩ := matched
      have := scalar_three lead second third
      refine .three ?_ ?_ ?_ ?_ ?_ ?_ <;> omega
  -- Four bytes: the second one is kept from a short form or from too large a
  -- value.
  iterate 3
    · obtain ⟨second, _, _, ⟨third, _, _, ⟨fourth, _, _, rfl, rfl⟩, rfl⟩,
          rfl⟩ := matched
      have := scalar_four lead second third fourth
      refine .four ?_ ?_ ?_ ?_ ?_ ?_ <;> omega

theorem firstPiece_of_writes
    (writes : Writes lead later value)
    (rest : List UInt8) :
    firstPiece lead (later ++ rest) = (.char (Char.ofNat value), rest) := by
  have long : ¬lead < 0x80 := by
    rw [UInt8.not_lt, UInt8.le_iff_toNat_le]
    exact writes.le_of_mem List.mem_cons_self
  obtain ⟨rfl, ranges, leads, matched⟩ := writes.continuation
  rw [firstPiece, if_neg long]
  simp only [leads, matchRanges_append matched]
  rfl

end Writes

/-! ## Pieces -/

/-- A character is the first piece of its bytes, and what
follows them is left. -/
theorem pieces_encodeChar_append
    (character : Char)
    (rest : List UInt8) :
    pieces (encodeChar character ++ rest) = .char character :: pieces rest := by
  by_cases short : character.toNat < 0x80
  · have lead :=
      toNat_toUInt8_of_lt (Nat.lt_trans short (by decide : 0x80 < 256))
    have isShort : character.toNat.toUInt8 < 0x80 := by
      rw [UInt8.lt_iff_toNat_lt, lead]
      exact short
    rw [encodeChar, if_pos short, List.singleton_append, pieces, firstPiece,
      if_pos isShort, lead, Char.ofNat_toNat]
  · obtain ⟨lead, later, encoded, writes⟩ :=
      writes_encodeChar (Nat.not_lt.mp short)
    rw [encoded, List.cons_append, pieces, firstPiece_of_writes writes,
      Char.ofNat_toNat]

/-- A character that is the first piece takes up its own bytes. -/
theorem encodeChar_append_of_firstPiece
    {lead : UInt8}
    {bytes rest : List UInt8}
    {character : Char}
    (first : firstPiece lead bytes = (.char character, rest)) :
    encodeChar character ++ rest = lead :: bytes := by
  unfold firstPiece at first
  split at first
  · next short =>
    cases first
    have small : lead.toNat < 0x80 := UInt8.lt_iff_toNat_lt.mp short
    have same : (Char.ofNat lead.toNat).toNat = lead.toNat :=
      toNat_ofNat_of_isValid (.inl (Nat.lt_trans small (by decide)))
    rw [encodeChar, same, if_pos small, toUInt8_eq rfl]
    rfl
  · split at first
    · cases first
    · next ranges leads =>
      simp only at first
      split at first
      · next complete =>
        cases first
        obtain ⟨matched, whole⟩ :=
          inRange_of_matchRanges (List.isEmpty_iff.mp complete)
        rw [(writes_of_continuation leads matched).encodeChar_eq,
          List.cons_append, ← whole]
      · cases first

/-- The pieces of a text are its characters. -/
@[simp] theorem pieces_encode
    (characters : List Char) :
    pieces (encode characters) = characters.map .char := by
  induction characters with
  | nil => exact pieces_nil
  | cons character characters inductionHypothesis =>
      rw [encode_cons, pieces_encodeChar_append, inductionHypothesis,
        List.map_cons]

/-- Bytes whose pieces are all characters are the text of these. -/
theorem encode_of_pieces
    {bytes : List UInt8}
    {characters : List Char}
    (whole : pieces bytes = characters.map .char) :
    encode characters = bytes := by
  induction characters generalizing bytes with
  | nil =>
      cases bytes with
      | nil => rfl
      | cons lead bytes =>
          rw [pieces] at whole
          cases whole
  | cons character characters inductionHypothesis =>
      cases bytes with
      | nil =>
          rw [pieces_nil] at whole
          cases whole
      | cons lead bytes =>
          rw [pieces, List.map_cons, List.cons.injEq] at whole
          obtain ⟨first, later⟩ := whole
          rw [encode_cons, inductionHypothesis later]
          exact encodeChar_append_of_firstPiece (Prod.ext first rfl)

/-! ## Strict reading -/

/-- The character that a piece is. -/
def Piece.char? : Piece → Option Char
  | .char character => some character
  | .broken _ => none

theorem mapM_char?_eq_some_iff
    {run : List Piece}
    {characters : List Char} :
    run.mapM Piece.char? = some characters ↔ run = characters.map .char := by
  induction run generalizing characters with
  | nil => cases characters <;> simp
  | cons piece run inductionHypothesis =>
      cases piece with
      | char character =>
          cases characters <;>
            simp [Piece.char?, Option.bind_eq_some_iff,
              inductionHypothesis, and_comm]
      | broken bytes => cases characters <;> simp [Piece.char?]

/-- Bytes are read strictly as a text exactly if they are the
bytes of this text. -/
theorem decode?_eq_some_iff
    {bytes : List UInt8}
    {characters : List Char} :
    decode? bytes = some characters ↔ encode characters = bytes := by
  have strict : decode? bytes = (pieces bytes).mapM Piece.char? := by
    unfold decode?
    congr 1
  rw [strict, mapM_char?_eq_some_iff]
  constructor
  · exact encode_of_pieces
  · rintro rfl
    exact pieces_encode characters

/-! ## Lenient reading -/

/-- A text is read leniently as itself. -/
@[simp] theorem lossy_encode
    (characters : List Char) :
    lossy (encode characters) = characters := by
  simp [lossy, Function.comp_def, Piece.toChar]

theorem encode_injective : Function.Injective encode := by
  intro left right same
  rw [← lossy_encode left, same, lossy_encode]

/-- Texts have the same bytes only if they are the same. -/
theorem encode_toList_beq
    (left right : String) :
    (encode left.toList == encode right.toList) = (left == right) := by
  rw [Bool.eq_iff_iff, beq_iff_eq, beq_iff_eq, encode_injective.eq_iff,
    String.toList_inj]

/-- Bytes that are read without a replacement are a text. -/
theorem encode_lossy_of_notMem
    {bytes : List UInt8}
    (unreplaced : replacement ∉ lossy bytes) :
    encode (lossy bytes) = bytes := by
  apply encode_of_pieces
  have unbroken : ∀ piece ∈ pieces bytes, (Piece.char ∘ Piece.toChar) piece =
      id piece := by
    intro piece present
    cases piece with
    | char character => rfl
    | broken run => exact absurd (List.mem_map.mpr ⟨_, present, rfl⟩) unreplaced
  rw [lossy, List.map_map, List.map_congr_left unbroken, List.map_id]

end Utf8
end HandlePool

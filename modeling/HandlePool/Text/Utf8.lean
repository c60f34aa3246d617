/-!
# UTF-8

Bytes are cut into pieces: a character, or a run of bytes that no character can
start with.  A broken run is as long as possible, so a character cut short by
its end or by a foreign byte is one run.  Reading a text strictly refuses every
broken run; reading it leniently puts the replacement character in its place.
-/

namespace HandlePool
namespace Utf8

/-- One piece of a byte sequence. -/
inductive Piece where
  /-- A well-formed character. -/
  | char (character : Char)
  /-- A maximal run of bytes that begins no character. -/
  | broken (bytes : List UInt8)
  deriving DecidableEq, Repr

/-- The replacement character, which stands for a broken run. -/
def replacement : Char := '\uFFFD'

/-- The ranges the bytes after a lead byte must fall into, or `none` where no
character of several bytes starts with that byte. -/
def continuationRanges (lead : UInt8) : Option (List (UInt8 × UInt8)) :=
  if 0xC2 ≤ lead ∧ lead ≤ 0xDF then some [(0x80, 0xBF)]
  else if lead = 0xE0 then some [(0xA0, 0xBF), (0x80, 0xBF)]
  else if lead = 0xED then some [(0x80, 0x9F), (0x80, 0xBF)]
  else if 0xE1 ≤ lead ∧ lead ≤ 0xEF then some [(0x80, 0xBF), (0x80, 0xBF)]
  else if lead = 0xF0 then some [(0x90, 0xBF), (0x80, 0xBF), (0x80, 0xBF)]
  else if 0xF1 ≤ lead ∧ lead ≤ 0xF3 then
    some [(0x80, 0xBF), (0x80, 0xBF), (0x80, 0xBF)]
  else if lead = 0xF4 then some [(0x80, 0x8F), (0x80, 0xBF), (0x80, 0xBF)]
  else none

/-- The bits a lead byte contributes, given how many bytes follow it. -/
def leadBits (lead : UInt8) (following : Nat) : Nat :=
  lead.toNat % 1 <<< (6 - following)

/-- How far a sequence followed the ranges it was held against. -/
structure Matched where
  /-- The bytes that fell into their ranges. -/
  bytes : List UInt8
  /-- The ranges no byte was found for. -/
  missing : List (UInt8 × UInt8)
  /-- The bytes after the matched ones. -/
  rest : List UInt8

/-- Hold a sequence against `ranges`, one byte to a range, as far as it goes. -/
def matchRanges : List (UInt8 × UInt8) → List UInt8 → Matched
  | [], bytes => ⟨[], [], bytes⟩
  | ranges, [] => ⟨[], ranges, []⟩
  | (low, high) :: ranges, byte :: bytes =>
    if low ≤ byte ∧ byte ≤ high then
      let later := matchRanges ranges bytes
      ⟨byte :: later.bytes, later.missing, later.rest⟩
    else ⟨[], (low, high) :: ranges, byte :: bytes⟩

theorem length_matchRanges_rest (ranges : List (UInt8 × UInt8))
    (bytes : List UInt8) :
    (matchRanges ranges bytes).rest.length ≤ bytes.length := by
  fun_induction matchRanges ranges bytes with
  | case1 => simp
  | case2 => simp
  | case3 low high ranges byte bytes inRange later bound =>
    exact Nat.le_succ_of_le bound
  | case4 => simp

/-- The scalar value written by a lead byte and its continuation bytes. -/
def scalar (lead : UInt8) (continuation : List UInt8) : Nat :=
  continuation.foldl (fun value byte => value * 64 + byte.toNat % 64)
    (leadBits lead continuation.length)

/-- The first piece of a sequence that starts with `lead`, and what follows. -/
def firstPiece (lead : UInt8) (bytes : List UInt8) : Piece × List UInt8 :=
  if lead < 0x80 then (.char (Char.ofNat lead.toNat), bytes)
  else
    match continuationRanges lead with
    | none => (.broken [lead], bytes)
    | some ranges =>
      let found := matchRanges ranges bytes
      if found.missing.isEmpty then
        (.char (Char.ofNat (scalar lead found.bytes)), found.rest)
      else (.broken (lead :: found.bytes), found.rest)

theorem length_firstPiece_rest (lead : UInt8) (bytes : List UInt8) :
    (firstPiece lead bytes).2.length ≤ bytes.length := by
  unfold firstPiece
  split
  · simp
  · split
    · simp
    · next ranges _ =>
      have bound := length_matchRanges_rest ranges bytes
      dsimp only
      split <;> exact bound

/-- The pieces of a byte sequence, in order. -/
def pieces : List UInt8 → List Piece
  | [] => []
  | lead :: bytes =>
      (firstPiece lead bytes).1 :: pieces (firstPiece lead bytes).2
termination_by bytes => bytes.length
decreasing_by
  have := length_firstPiece_rest lead bytes
  simp only [List.length_cons]
  omega

/-- A piece as one character. -/
def Piece.toChar : Piece → Char
  | .char character => character
  | .broken _ => replacement

/-- Lenient reading: every broken run becomes one replacement character. -/
def lossy (bytes : List UInt8) : List Char :=
  (pieces bytes).map Piece.toChar

/-- Strict reading: `none` as soon as a run is broken. -/
def decode? (bytes : List UInt8) : Option (List Char) :=
  (pieces bytes).mapM fun piece =>
    match piece with
    | .char character => some character
    | .broken _ => none

/-- The bytes of one character. -/
def encodeChar (character : Char) : List UInt8 :=
  let value := character.toNat
  if value < 0x80 then [value.toUInt8]
  else if value < 0x800 then
    [(0xC0 + value / 64).toUInt8, (0x80 + value % 64).toUInt8]
  else if value < 0x10000 then
    [(0xE0 + value / 4096).toUInt8, (0x80 + value / 64 % 64).toUInt8,
      (0x80 + value % 64).toUInt8]
  else
    [(0xF0 + value / 262144).toUInt8, (0x80 + value / 4096 % 64).toUInt8,
      (0x80 + value / 64 % 64).toUInt8, (0x80 + value % 64).toUInt8]

/-- The bytes of a text. -/
def encode (characters : List Char) : List UInt8 :=
  characters.flatMap encodeChar

@[simp] theorem pieces_nil : pieces [] = [] := by
  unfold pieces
  rfl

@[simp] theorem lossy_nil : lossy [] = [] := by simp [lossy]

@[simp] theorem encode_nil : encode [] = [] := rfl

@[simp] theorem encode_cons (character : Char) (characters : List Char) :
    encode (character :: characters) =
      encodeChar character ++ encode characters := by
  simp [encode]

@[simp] theorem encode_append (left right : List Char) :
    encode (left ++ right) = encode left ++ encode right := by
  simp [encode]

end Utf8
end HandlePool

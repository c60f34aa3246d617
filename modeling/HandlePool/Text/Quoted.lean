import HandlePool.Text.Utf8
import HandlePool.Text.Invisible

/-!
# Quoted text

The form in which diagnostics show a text: between double quotes, with the
quote, the backslash and invisible characters escaped.  Bytes that are no text
are shown by their two hexadecimal digits.
-/

namespace HandlePool
namespace Quoted

/-- A number in lower-case hexadecimal, without leading zeros. -/
def hexadecimal (value : Nat) : List Char :=
  Nat.toDigits 16 value

/-- A byte as two lower-case hexadecimal digits. -/
def hexByte (byte : UInt8) : List Char :=
  [Nat.digitChar (byte.toNat / 16), Nat.digitChar (byte.toNat % 16)]

/-- One character between quotes. -/
def character (shown : Char) : List Char :=
  match shown with
  | '\x00' => ['\\', '0']
  | '\t' => ['\\', 't']
  | '\n' => ['\\', 'n']
  | '\r' => ['\\', 'r']
  | '"' => ['\\', '"']
  | '\\' => ['\\', '\\']
  | _ =>
    if Invisible.contains shown.toNat then
      ['\\', 'u', '\x7b'] ++ hexadecimal shown.toNat ++ ['\x7d']
    else [shown]

/-- One byte that belongs to no character. -/
def strayByte (byte : UInt8) : List Char :=
  ['\\', 'x'] ++ (hexByte byte).map Char.toUpper

/-- One piece of a byte sequence between quotes. -/
def piece : Utf8.Piece → List Char
  | .char shown => character shown
  | .broken bytes => bytes.flatMap strayByte

/-- A text in quotes. -/
def text (shown : String) : String :=
  String.ofList ('"' :: shown.toList.flatMap character ++ ['"'])

/-- A byte sequence in quotes. -/
def bytes (shown : List UInt8) : String :=
  String.ofList ('"' :: (Utf8.pieces shown).flatMap piece ++ ['"'])

end Quoted
end HandlePool

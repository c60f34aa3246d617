import HandlePool.Json.Scalar
import HandlePool.Json.Skim

/-!
# Reading records

A record is written as an object, whose members may come in any order and may
include members nobody asked for, or as a list of its fields in their own order.
A field read so far is kept in a draft; a field that never came is either
required, and then missed, or left to its default.
-/

namespace HandlePool
namespace Json

/-- One field of a record that is gathered in a draft. -/
structure Slot (Draft : Type) where
  name : String
  /-- A record without this field is refused. -/
  required : Bool
  /-- The field has been read. -/
  filled : Draft → Bool
  /-- Read the field into the draft. -/
  read : Draft → Reader Draft

/-- The slot of a field that the draft keeps as an option. -/
def Slot.field {Draft α : Type} (name : String) (required : Bool)
    (get : Draft → Option α) (set : Draft → α → Draft) (reader : Reader α) :
    Slot Draft where
  name := name
  required := required
  filled := fun draft => (get draft).isSome
  read := fun draft rest =>
    (reader rest).map fun (value, rest) => (set draft value, rest)

/-- A kind of record. -/
structure Record (Draft α : Type) where
  title : String
  slots : List (Slot Draft)
  /-- The draft before any field was read. -/
  blank : Draft
  /-- The record of a draft that has all required fields. -/
  build : Draft → α

namespace Record

variable {Draft α : Type}

/-- How messages name the record where it is written as a list. -/
def lengthTitle (record : Record Draft α) : String :=
  record.title ++ " with " ++ toString record.slots.length ++
    (if record.slots.length = 1 then " element" else " elements")

/-- The slot a key names. -/
def slot? (record : Record Draft α) (key : List UInt8) : Option (Slot Draft) :=
  record.slots.find? fun slot => Utf8.encode slot.name.toList == key

/-- The first required field that the draft lacks. -/
def missing? (record : Record Draft α) (draft : Draft) : Option (Slot Draft) :=
  record.slots.find? fun slot => slot.required && !slot.filled draft

/-- What is left once the end of an object has been looked for. -/
def pastBrace (rest : List UInt8) : List UInt8 :=
  match skipBlanks rest with
  | 0x7D :: rest => rest
  | rest => rest

/-- Read the members of an object into a draft; `bound` is at least the number
of members. -/
def readMembers (record : Record Draft α) :
    Nat → Bool → Draft → Reader α
  | 0, _, _, rest => stopHere .endInObject rest
  | bound + 1, isFirst, draft, rest => do
    let (key?, rest) ← nextKey isFirst rest
    match key? with
    | none =>
      match record.missing? draft with
      | some slot => stopHere (.missingField slot.name) rest
      | none => .ok (record.build draft, rest)
    | some key =>
      match record.slot? key with
      | some slot =>
        if slot.filled draft then
          stopHere (.duplicateField slot.name) (pastBrace rest)
        else do
          let rest ← readColon rest
          let (draft, rest) ← slot.read draft rest
          record.readMembers bound false draft rest
      | none => do
        let rest ← readColon rest
        let rest ← skipValue rest
        record.readMembers bound false draft rest

/-- Find where the next element starts; `none` at the end of the list, which is
not taken off yet. -/
def nextElement (isFirst : Bool) (rest : List UInt8) :
    Except Stop (Option (List UInt8)) :=
  match skipBlanks rest with
  | [] => stopHere .endInList []
  | 0x5D :: _ => .ok none
  | 0x2C :: rest =>
    if isFirst then .ok (some (0x2C :: rest))
    else
      match skipBlanks rest with
      | [] => stopHere .endInValue []
      | 0x5D :: rest => stopAhead .trailingComma (0x5D :: rest)
      | rest => .ok (some rest)
  | rest =>
    if isFirst then .ok (some rest) else stopAhead .expectedCommaOrBracket rest

/-- Take off the end of a list. -/
def endList (rest : List UInt8) : Except Stop (List UInt8) :=
  match skipBlanks rest with
  | [] => stopHere .endInList []
  | 0x5D :: rest => .ok rest
  | 0x2C :: rest =>
    match skipBlanks rest with
    | 0x5D :: rest => stopAhead .trailingComma (0x5D :: rest)
    | rest => stopAhead .trailingCharacters rest
  | rest => stopAhead .trailingCharacters rest

/-- Read fields in their own order into a draft; `index` fields came before. -/
def readElements (title : String) :
    List (Slot Draft) → Nat → Bool → Draft → Reader Draft
  | [], _, _, draft, rest => .ok (draft, rest)
  | slot :: slots, index, isFirst, draft, rest => do
    match ← nextElement isFirst rest with
    | some rest => do
      let (draft, rest) ← slot.read draft rest
      readElements title slots (index + 1) false draft rest
    | none =>
      if slot.required then do
        let rest ← endList rest
        stopHere (.invalidLength index title) rest
      else readElements title slots (index + 1) isFirst draft rest

/-- Read a record. -/
def read (record : Record Draft α) : Reader α := fun rest =>
  match skipBlanks rest with
  | [] => stopHere .endInValue []
  | 0x5B :: rest => do
    let (draft, rest) ←
      readElements record.lengthTitle record.slots 0 true record.blank rest
    let rest ← endList rest
    .ok (record.build draft, rest)
  | 0x7B :: rest => record.readMembers (rest.length + 1) true record.blank rest
  | rest => readUnexpected record.title rest

end Record

/-- Read a whole document. -/
def readDocument {α : Type} (reader : Reader α) (document : List UInt8) :
    Except Refusal α :=
  let result := do
    let (value, rest) ← reader document
    match skipBlanks rest with
    | [] => .ok value
    | rest => stopAhead .trailingCharacters rest
  result.mapError (Stop.refusal document)

/-! ## Writing -/

/-- A value in its written form, by name. -/
abbrev Member := String × String

/-- A text whose characters need no escape, in quotes. -/
def written (text : String) : String := "\"" ++ text ++ "\""

/-- The compact form of an object. -/
def object (members : List Member) : String :=
  "\x7b" ++ String.intercalate ","
    (members.map fun member => written member.1 ++ ":" ++ member.2) ++ "\x7d"

end Json
end HandlePool

/-!
# Permission sets

Nine flags say who may read, write and execute a file.  A set is kept as the
bits of a file mode; bits outside the nine flags can be carried along and are
then shown by their number.
-/

namespace HandlePool

/-- A set of permissions, as the bits of a file mode. -/
structure Permissions where
  bits : UInt32
  deriving DecidableEq, Repr

namespace Permissions

/-- The nine flags with their names, in the order in which they are listed. -/
def flags : List (String × UInt32) :=
  [("OWNER_READ", 0o400), ("OWNER_WRITE", 0o200), ("OWNER_EXECUTE", 0o100),
   ("GROUP_READ", 0o40), ("GROUP_WRITE", 0o20), ("GROUP_EXECUTE", 0o10),
   ("OTHERS_READ", 0o4), ("OTHERS_WRITE", 0o2), ("OTHERS_EXECUTE", 0o1)]

/-- Names for two common sets. -/
def presets : List (String × UInt32) :=
  [("READ_ONLY", 0o444), ("READ_WRITE", 0o644)]

/-- The bits of all nine flags. -/
def allBits : UInt32 := 0o777

/-- The permissions of a file mode; bits outside the flags are dropped. -/
def ofMode (mode : UInt32) : Permissions := ⟨mode &&& allBits⟩

/-- Every bit is kept, also those outside the flags. -/
def ofBitsRetaining (bits : UInt32) : Permissions := ⟨bits⟩

/-- The set with exactly these bits, if all of them are flags. -/
def ofBits? (bits : UInt32) : Option Permissions :=
  if bits &&& ~~~allBits = 0 then some ⟨bits⟩ else none

/-- The set of that name. -/
def ofName? (name : String) : Option Permissions :=
  ((flags ++ presets).find? fun flag => flag.1 == name).map fun flag => ⟨flag.2⟩

/-! ## Set operations -/

/-- Flags in either set. -/
def union (left right : Permissions) : Permissions := ⟨left.bits ||| right.bits⟩

/-- Flags in both sets. -/
def inter (left right : Permissions) : Permissions := ⟨left.bits &&& right.bits⟩

/-- Flags of the left set that the right one lacks. -/
def diff (left right : Permissions) : Permissions :=
  ⟨left.bits &&& ~~~right.bits⟩

/-- Flags in exactly one of the sets. -/
def symmDiff (left right : Permissions) : Permissions :=
  ⟨left.bits ^^^ right.bits⟩

/-- The flags a set lacks. -/
def complement (set : Permissions) : Permissions := ofMode (~~~set.bits)

/-- Every bit of the right set is in the left one. -/
def contains (left right : Permissions) : Bool :=
  left.bits &&& right.bits == right.bits

/-- The sets share a bit. -/
def intersects (left right : Permissions) : Bool :=
  left.bits &&& right.bits != 0

/-- No bit is set. -/
def isEmpty (set : Permissions) : Bool := set.bits == 0

/-- All nine flags are set. -/
def isAll (set : Permissions) : Bool := set.bits &&& allBits == allBits

/-! ## Written forms -/

/-- The names of the flags that are set, in listing order. -/
def names (set : Permissions) : List String :=
  (flags.filter fun flag => set.bits &&& flag.2 == flag.2).map Prod.fst

/-- The nine letters `rwxrwxrwx`, with a dash for each flag that is not set. -/
def text (set : Permissions) : String :=
  String.ofList <| (flags.zip ['r', 'w', 'x', 'r', 'w', 'x', 'r', 'w', 'x']).map
    fun (flag, letter) => if set.bits &&& flag.2 == flag.2 then letter else '-'

/-- The bits in octal. -/
def octal (set : Permissions) : String :=
  String.ofList (Nat.toDigits 8 set.bits.toNat)

/-- A number in hexadecimal with its mark. -/
def hexNumber (bits : UInt32) : String :=
  "0x" ++ String.ofList (Nat.toDigits 16 bits.toNat)

/-- The bits in hexadecimal. -/
def hex (set : Permissions) : String := hexNumber set.bits

/-- The dump of a set: its flags by name, then what is left as a number. -/
def dump (set : Permissions) : String :=
  let extra := set.bits &&& ~~~allBits
  let shown := set.names ++ if extra = 0 then [] else [hexNumber extra]
  let shown := if shown.isEmpty then ["0x0"] else shown
  "PosixPermissions(" ++ String.intercalate " | " shown ++ ")"

end Permissions
end HandlePool

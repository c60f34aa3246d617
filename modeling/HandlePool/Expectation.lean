import HandlePool.Abort
import HandlePool.IoError
import HandlePool.Text.Quoted

/-!
# Expectations

Checks on contents and on outcomes of input and output.  An expectation that is
not met stops the caller with a message that opens with the caller's context.
-/

namespace HandlePool
namespace Expectation

/-- Stop, since something expected in a context is not so. -/
def unmet {α : Type} (context finding : String) : Except Abort α :=
  .error (.unmet (context ++ ": " ++ finding))

/-- The first position at which two sequences differ, with both bytes there. -/
def firstDifference? (actual expected : List UInt8) :
    Option (Nat × UInt8 × UInt8) :=
  ((actual.zip expected).zipIdx.find? fun (pair, _) => pair.1 != pair.2).map
    fun (pair, position) => (position, pair)

/-- A byte in hexadecimal with its mark. -/
def byteText (byte : UInt8) : String :=
  "0x" ++ String.ofList (Quoted.hexByte byte)

/-- Contents are as expected: first in size, then byte by byte. -/
def sameBytes (actual expected : List UInt8) (context : String) :
    Except Abort Unit :=
  if actual.length ≠ expected.length then
    unmet context <| "size mismatch - expected " ++ toString expected.length ++
      " bytes, got " ++ toString actual.length ++ " bytes"
  else
    match firstDifference? actual expected with
    | none => .ok ()
    | some (position, found, wanted) =>
      unmet context <| "content mismatch at byte " ++ toString position ++
        " - expected " ++ byteText wanted ++ ", got " ++ byteText found

/-- The number by which checks know an error; one without a number counts as
zero. -/
def codeOf (error : IoError) : Int := error.code?.getD 0

/-- An outcome is the error of that number. -/
def failsWith (outcome : Except IoError Int) (code : Int) (context : String) :
    Except Abort Unit :=
  match outcome with
  | .ok value =>
    unmet context <| "expected errno " ++ toString code ++
      " but got success with " ++ toString value
  | .error error =>
    if codeOf error = code then .ok ()
    else
      unmet context <| "expected errno " ++ toString code ++ " (" ++
        Errno.name code ++ "), got errno " ++ toString (codeOf error) ++ " (" ++
        Errno.name (codeOf error) ++ ")"

/-- An outcome is a success, and this is its value. -/
def succeeds (outcome : Except IoError Int) (context : String) :
    Except Abort Int :=
  match outcome with
  | .ok value => .ok value
  | .error error =>
    unmet context <| "expected success but got error: " ++ error.message ++
      " (errno " ++ toString (codeOf error) ++ " = " ++
      Errno.name (codeOf error) ++ ")"

/-- An outcome is an error, no matter which. -/
def fails (outcome : Except IoError Int) (context : String) :
    Except Abort Unit :=
  match outcome with
  | .ok value =>
    unmet context <| "expected error but got success with " ++ toString value
  | .error _ => .ok ()

end Expectation
end HandlePool

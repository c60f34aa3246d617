/-!
# Ways to open a file

One mode reads; the others write, and differ in what they ask of the file.
-/

namespace HandlePool

/-- How a file is opened. -/
inductive OpenMode where
  /-- Read an existing file. -/
  | read
  /-- Write an existing file. -/
  | write
  /-- Write a file, creating it if it does not exist. -/
  | create
  /-- Write a file that must not exist yet. -/
  | createNew
  /-- Write at the end of an existing file. -/
  | append
  deriving DecidableEq, Repr

namespace OpenMode

/-- Every mode but `read` writes. -/
def writes : OpenMode → Bool
  | .read => false
  | _ => true

/-- The short name used in messages. -/
def name : OpenMode → String
  | .read => "read"
  | .write => "write"
  | .create => "create"
  | .createNew => "create_new"
  | .append => "append"

/-- The name used in structured dumps. -/
def label : OpenMode → String
  | .read => "Read"
  | .write => "Write"
  | .create => "Create"
  | .createNew => "CreateNew"
  | .append => "Append"

/-- All modes, in order. -/
def all : List OpenMode := [.read, .write, .create, .createNew, .append]

/-- The mode of that short name. -/
def ofName? (name : String) : Option OpenMode :=
  all.find? fun mode => mode.name == name

@[simp] theorem ofName?_name (mode : OpenMode) :
    ofName? mode.name = some mode := by
  cases mode <;> decide

end OpenMode
end HandlePool

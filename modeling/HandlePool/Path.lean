import HandlePool.IoError
import HandlePool.Text.Utf8
import HandlePool.Text.Quoted

/-!
# Paths

A path is a sequence of bytes cut into segments by slashes.  Normalizing makes
it absolute and takes out empty, `.` and `..` segments without looking at any
file; the key of a path is the text of its normal form, in which bytes that are
no text are replaced.
-/

namespace HandlePool

/-- A path as its bytes. -/
structure Path where
  bytes : List UInt8
  deriving DecidableEq, Repr

namespace Path

/-- One segment: bytes other than the slash. -/
abbrev Segment := List UInt8

/-- The separator of segments. -/
def slash : UInt8 := 0x2F

/-- The segment that stays where it is. -/
def here : Segment := [0x2E]

/-- The segment that goes one level up. -/
def up : Segment := [0x2E, 0x2E]

/-- The path written by a text. -/
def ofString (text : String) : Path := ⟨Utf8.encode text.toList⟩

/-- Cut at every slash; neighbouring slashes enclose an empty piece. -/
def cut : List UInt8 → List Segment
  | [] => [[]]
  | byte :: bytes =>
    if byte = slash then [] :: cut bytes
    else
      match cut bytes with
      | [] => [[byte]]
      | first :: later => (byte :: first) :: later

/-- The segments of a path, without the empty ones. -/
def segments (path : Path) : List Segment :=
  (cut path.bytes).filter fun segment => !segment.isEmpty

/-- The path starts at the root. -/
def isAbsolute (path : Path) : Bool := path.bytes.head? == some slash

/-- The path ends in a slash. -/
def endsInSlash (path : Path) : Bool := path.bytes.getLast? == some slash

/-- The path holds a zero byte. -/
def hasZeroByte (path : Path) : Bool := path.bytes.contains 0

/-- The absolute path with these segments. -/
def ofSegments (segments : List Segment) : Path :=
  match segments with
  | [] => ⟨[slash]⟩
  | _ => ⟨segments.flatMap fun segment => slash :: segment⟩

/-- Take one more segment onto a stack with the innermost segment on top. -/
def enter (stack : List Segment) (segment : Segment) : List Segment :=
  if segment = here then stack
  else if segment = up then stack.tail
  else segment :: stack

/-- A path as text, with a replacement for every run of bytes that is none. -/
def display (path : Path) : String := String.ofList (Utf8.lossy path.bytes)

/-- A path in quotes. -/
def quoted (path : Path) : String := Quoted.bytes path.bytes

/-! ## Components

Two spellings with the same components name one path as written: repeated
slashes, trailing slashes and inner `.` segments make no difference, while `..`
and a relative start do. -/

/-- One component of a path as written. -/
inductive Component where
  | root
  | here
  | up
  | name (segment : Segment)
  deriving DecidableEq, Repr

/-- A segment as a component. -/
def Component.ofSegment (segment : Segment) : Component :=
  if segment = Path.here then .here
  else if segment = Path.up then .up
  else .name segment

/-- The components of a path. -/
def components (path : Path) : List Component :=
  let named := (path.segments.map Component.ofSegment).filter fun component =>
    component != .here
  if path.isAbsolute then .root :: named
  else if path.segments.head? = some Path.here then .here :: named
  else named

/-- The bytes of a component that is not the root. -/
def Component.bytes : Component → Segment
  | .root => []
  | .here => Path.here
  | .up => Path.up
  | .name segment => segment

/-- The shortest spelling of a path with these components. -/
def ofComponents : List Component → Path
  | .root :: later => ofSegments (later.map Component.bytes)
  | shown => ⟨List.intercalate [slash] (shown.map Component.bytes)⟩

/-- The paths left when components are taken off an end, given with the last
component first. -/
def above : List Component → List Path
  | [] | [_] => []
  | _ :: component :: components =>
    ofComponents (component :: components).reverse ::
      above (component :: components)

/-- A path followed by the paths above it, down to the root or to the first
component. -/
def ancestors (path : Path) : List Path := path :: above path.components.reverse

/-! ## Building paths -/

/-- A component as a path of its own. -/
def Component.toPath : Component → Path
  | .root => ⟨[slash]⟩
  | shown => ⟨shown.bytes⟩

/-- A path that is being built, its bytes kept last first. -/
structure Buffer where
  reversed : List UInt8
  deriving DecidableEq, Repr

namespace Buffer

/-- Start with a path. -/
def ofPath (path : Path) : Buffer := ⟨path.bytes.reverse⟩

/-- The path that was built. -/
def toPath (buffer : Buffer) : Path := ⟨buffer.reversed.reverse⟩

/-- A slash is missing where more is to follow. -/
def needsSlash (buffer : Buffer) : Bool :=
  match buffer.reversed with
  | [] => false
  | last :: _ => last != slash

/-- Put a path behind what was built; an absolute path takes its place. -/
def push (buffer : Buffer) (later : Path) : Buffer :=
  if later.isAbsolute then ofPath later
  else if buffer.needsSlash then
    ⟨later.bytes.reverse ++ slash :: buffer.reversed⟩
  else ⟨later.bytes.reverse ++ buffer.reversed⟩

/-- Leave out what shows no component at the end, given with the
last byte first: slashes, and `.` behind a slash.  The first slash
is the root and stays. -/
def trim : List UInt8 → List UInt8
  | 0x2F :: byte :: bytes => trim (byte :: bytes)
  | 0x2E :: 0x2F :: bytes => trim (0x2F :: bytes)
  | shown => shown

/-- Cut off the last component, with what is written behind it and between it
and the one before; the root stays. -/
def pop (buffer : Buffer) : Buffer :=
  match trim buffer.reversed with
  | [] | [0x2F] => buffer
  | shown => ⟨trim (shown.dropWhile fun byte => byte != slash)⟩

end Buffer

/-! ## Normal forms -/

/-- The path starts with two slashes, and not with three. -/
def startsInTwoSlashes (path : Path) : Bool :=
  [slash, slash].isPrefixOf path.bytes &&
    !([slash, slash, slash].isPrefixOf path.bytes)

/-- Where a path starts when it is made absolute, and the components that
follow. A relative path starts at `base` and loses a leading `.`; two slashes at
the start are kept. -/
def start (base path : Path) : Buffer × List Component :=
  if path.isAbsolute then
    if path.startsInTwoSlashes then (⟨[slash, slash]⟩, path.components.tail)
    else (⟨[]⟩, path.components)
  else
    match path.components with
    | .here :: later => (.ofPath base, later)
    | shown => (.ofPath base, shown)

/-- The components of a path put behind where it starts. -/
def extended (base path : Path) : Buffer :=
  ((start base path).2.map Component.toPath).foldl Buffer.push
    (start base path).1

/-- A path made absolute, with `..` and a slash at the end as they are.  The
empty path cannot be made absolute. -/
def absolute (base path : Path) : Except IoError Path :=
  if path.bytes.isEmpty then .error .emptyPath
  else if path.endsInSlash then .ok ((extended base path).push ⟨[]⟩).toPath
  else .ok (extended base path).toPath

/-- Take one more component of an absolute path. -/
def Buffer.follow (buffer : Buffer) : Component → Buffer
  | .here => buffer
  | .up => buffer.pop
  | component => buffer.push component.toPath

/-- The normal form of a path, when relative paths start at `base`: made
absolute, then built again along its components. -/
def normalize (base path : Path) : Except IoError Path :=
  (absolute base path).map fun whole =>
    (whole.components.foldl Buffer.follow ⟨[]⟩).toPath

/-- The key under which handles for a path are kept. -/
def key (base path : Path) : Except IoError String :=
  (normalize base path).map display

/-! ## Small laws -/

/-- An absolute path comes to the same wherever relative ones start. -/
theorem normalize_of_isAbsolute {path : Path}
    (isAbsolute : path.isAbsolute = true)
    (base other : Path) : normalize base path = normalize other path := by
  simp only [normalize, absolute, extended, start, if_pos isAbsolute]

@[simp] theorem enter_here (stack : List Segment) :
    enter stack here = stack := by
  simp [enter]

@[simp] theorem enter_up (stack : List Segment) :
    enter stack up = stack.tail := by
  simp [enter, here, up]

theorem enter_name {stack : List Segment} {segment : Segment}
    (notHere : segment ≠ here) (notUp : segment ≠ up) :
    enter stack segment = segment :: stack := by
  simp [enter, notHere, notUp]

theorem isAbsolute_ofSegments (segments : List Segment) :
    (ofSegments segments).isAbsolute = true := by
  cases segments <;> rfl

theorem normalize_eq_error_iff {base path : Path} {error : IoError} :
    normalize base path = .error error ↔
      error = .emptyPath ∧ path.bytes = [] := by
  unfold normalize absolute
  cases path.bytes with
  | nil => simp [Except.map, eq_comm]
  | cons byte bytes => cases path.endsInSlash <;> simp [Except.map]

end Path

/-- A path that starts at the root. -/
abbrev AbsolutePath := { path : Path // path.isAbsolute = true }

/-- The absolute path with these segments. -/
def AbsolutePath.ofSegments (segments : List Path.Segment) : AbsolutePath :=
  ⟨Path.ofSegments segments, Path.isAbsolute_ofSegments segments⟩

end HandlePool

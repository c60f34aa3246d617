/-!
# Errors of input and output

An error either comes from the system, and is then its number, or from a
program, and is then a kind, alone, with a message or with another error.  Kind,
number and text are all that callers see of it.
-/

namespace HandlePool

/-- What sort of failure an error reports. -/
inductive ErrorKind where
  | notFound
  | permissionDenied
  | connectionRefused
  | connectionReset
  | hostUnreachable
  | networkUnreachable
  | connectionAborted
  | notConnected
  | addressInUse
  | addressNotAvailable
  | networkDown
  | brokenPipe
  | alreadyExists
  | wouldBlock
  | notADirectory
  | isADirectory
  | directoryNotEmpty
  | readOnlyFilesystem
  | filesystemLoop
  | staleNetworkFileHandle
  | invalidInput
  | invalidData
  | timedOut
  | writeZero
  | storageFull
  | notSeekable
  | quotaExceeded
  | fileTooLarge
  | resourceBusy
  | executableFileBusy
  | deadlock
  | crossesDevices
  | tooManyLinks
  | invalidFilename
  | argumentListTooLong
  | interrupted
  | unsupported
  | unexpectedEnd
  | outOfMemory
  | inProgress
  | inputOutput
  | tooManyOpenFiles
  | other
  | uncategorized
  deriving DecidableEq, Repr

/-- The text of an error that says no more than its kind. -/
def ErrorKind.description : ErrorKind → String
  | .notFound => "entity not found"
  | .permissionDenied => "permission denied"
  | .connectionRefused => "connection refused"
  | .connectionReset => "connection reset"
  | .hostUnreachable => "host unreachable"
  | .networkUnreachable => "network unreachable"
  | .connectionAborted => "connection aborted"
  | .notConnected => "not connected"
  | .addressInUse => "address in use"
  | .addressNotAvailable => "address not available"
  | .networkDown => "network down"
  | .brokenPipe => "broken pipe"
  | .alreadyExists => "entity already exists"
  | .wouldBlock => "operation would block"
  | .notADirectory => "not a directory"
  | .isADirectory => "is a directory"
  | .directoryNotEmpty => "directory not empty"
  | .readOnlyFilesystem => "read-only filesystem or storage medium"
  | .filesystemLoop =>
      "filesystem loop or indirection limit (e.g. symlink loop)"
  | .staleNetworkFileHandle => "stale network file handle"
  | .invalidInput => "invalid input parameter"
  | .invalidData => "invalid data"
  | .timedOut => "timed out"
  | .writeZero => "write zero"
  | .storageFull => "no storage space"
  | .notSeekable => "seek on unseekable file"
  | .quotaExceeded => "quota exceeded"
  | .fileTooLarge => "file too large"
  | .resourceBusy => "resource busy"
  | .executableFileBusy => "executable file busy"
  | .deadlock => "deadlock"
  | .crossesDevices => "cross-device link or rename"
  | .tooManyLinks => "too many links"
  | .invalidFilename => "invalid filename"
  | .argumentListTooLong => "argument list too long"
  | .interrupted => "operation interrupted"
  | .unsupported => "unsupported"
  | .unexpectedEnd => "unexpected end of file"
  | .outOfMemory => "out of memory"
  | .inProgress => "in progress"
  | .inputOutput => "input/output error"
  | .tooManyOpenFiles => "too many open files"
  | .other => "other error"
  | .uncategorized => "uncategorized error"

/-! ## Numbers of the system -/

namespace Errno

/-- No entry of that name. -/
def noEntry : Int := 2
/-- The device failed. -/
def inputOutput : Int := 5
/-- The descriptor is closed or does not allow the operation. -/
def badDescriptor : Int := 9
/-- The resource is in use. -/
def busy : Int := 16
/-- The entry exists already. -/
def entryExists : Int := 17
/-- A path leads through something that is no directory. -/
def notDirectory : Int := 20
/-- The operation does not apply to directories. -/
def isDirectory : Int := 21
/-- An argument is out of range. -/
def invalidArgument : Int := 22
/-- A name is too long. -/
def nameTooLong : Int := 36
/-- The directory still has entries. -/
def notEmpty : Int := 39
/-- Too many symbolic links on the way. -/
def tooManyLinks : Int := 40

/-- The system's own texts, by number. -/
def texts : List (Nat × String) :=
  [(0, "Success"),
   (1, "Operation not permitted"),
   (2, "No such file or directory"),
   (3, "No such process"),
   (4, "Interrupted system call"),
   (5, "Input/output error"),
   (6, "No such device or address"),
   (7, "Argument list too long"),
   (8, "Exec format error"),
   (9, "Bad file descriptor"),
   (10, "No child processes"),
   (11, "Resource temporarily unavailable"),
   (12, "Cannot allocate memory"),
   (13, "Permission denied"),
   (14, "Bad address"),
   (15, "Block device required"),
   (16, "Device or resource busy"),
   (17, "File exists"),
   (18, "Invalid cross-device link"),
   (19, "No such device"),
   (20, "Not a directory"),
   (21, "Is a directory"),
   (22, "Invalid argument"),
   (23, "Too many open files in system"),
   (24, "Too many open files"),
   (25, "Inappropriate ioctl for device"),
   (26, "Text file busy"),
   (27, "File too large"),
   (28, "No space left on device"),
   (29, "Illegal seek"),
   (30, "Read-only file system"),
   (31, "Too many links"),
   (32, "Broken pipe"),
   (33, "Numerical argument out of domain"),
   (34, "Numerical result out of range"),
   (35, "Resource deadlock avoided"),
   (36, "File name too long"),
   (37, "No locks available"),
   (38, "Function not implemented"),
   (39, "Directory not empty"),
   (40, "Too many levels of symbolic links"),
   (42, "No message of desired type"),
   (43, "Identifier removed"),
   (44, "Channel number out of range"),
   (45, "Level 2 not synchronized"),
   (46, "Level 3 halted"),
   (47, "Level 3 reset"),
   (48, "Link number out of range"),
   (49, "Protocol driver not attached"),
   (50, "No CSI structure available"),
   (51, "Level 2 halted"),
   (52, "Invalid exchange"),
   (53, "Invalid request descriptor"),
   (54, "Exchange full"),
   (55, "No anode"),
   (56, "Invalid request code"),
   (57, "Invalid slot"),
   (59, "Bad font file format"),
   (60, "Device not a stream"),
   (61, "No data available"),
   (62, "Timer expired"),
   (63, "Out of streams resources"),
   (64, "Machine is not on the network"),
   (65, "Package not installed"),
   (66, "Object is remote"),
   (67, "Link has been severed"),
   (68, "Advertise error"),
   (69, "Srmount error"),
   (70, "Communication error on send"),
   (71, "Protocol error"),
   (72, "Multihop attempted"),
   (73, "RFS specific error"),
   (74, "Bad message"),
   (75, "Value too large for defined data type"),
   (76, "Name not unique on network"),
   (77, "File descriptor in bad state"),
   (78, "Remote address changed"),
   (79, "Can not access a needed shared library"),
   (80, "Accessing a corrupted shared library"),
   (81, ".lib section in a.out corrupted"),
   (82, "Attempting to link in too many shared libraries"),
   (83, "Cannot exec a shared library directly"),
   (84, "Invalid or incomplete multibyte or wide character"),
   (85, "Interrupted system call should be restarted"),
   (86, "Streams pipe error"),
   (87, "Too many users"),
   (88, "Socket operation on non-socket"),
   (89, "Destination address required"),
   (90, "Message too long"),
   (91, "Protocol wrong type for socket"),
   (92, "Protocol not available"),
   (93, "Protocol not supported"),
   (94, "Socket type not supported"),
   (95, "Operation not supported"),
   (96, "Protocol family not supported"),
   (97, "Address family not supported by protocol"),
   (98, "Address already in use"),
   (99, "Cannot assign requested address"),
   (100, "Network is down"),
   (101, "Network is unreachable"),
   (102, "Network dropped connection on reset"),
   (103, "Software caused connection abort"),
   (104, "Connection reset by peer"),
   (105, "No buffer space available"),
   (106, "Transport endpoint is already connected"),
   (107, "Transport endpoint is not connected"),
   (108, "Cannot send after transport endpoint shutdown"),
   (109, "Too many references: cannot splice"),
   (110, "Connection timed out"),
   (111, "Connection refused"),
   (112, "Host is down"),
   (113, "No route to host"),
   (114, "Operation already in progress"),
   (115, "Operation now in progress"),
   (116, "Stale file handle"),
   (117, "Structure needs cleaning"),
   (118, "Not a XENIX named type file"),
   (119, "No XENIX semaphores available"),
   (120, "Is a named type file"),
   (121, "Remote I/O error"),
   (122, "Disk quota exceeded"),
   (123, "No medium found"),
   (124, "Wrong medium type"),
   (125, "Operation canceled"),
   (126, "Required key not available"),
   (127, "Key has expired"),
   (128, "Key has been revoked"),
   (129, "Key was rejected by service"),
   (130, "Owner died"),
   (131, "State not recoverable"),
   (132, "Operation not possible due to RF-kill"),
   (133, "Memory page has hardware error")]

/-- The system's text for a number. -/
def text (code : Int) : String :=
  match texts.find? fun row => Int.ofNat row.1 == code with
  | some row => row.2
  | none => "Unknown error " ++ toString code

/-- The kind each number falls under; numbers without one are uncategorized. -/
def kind (code : Int) : ErrorKind :=
  match code with
  | 1 | 13 => .permissionDenied
  | 2 => .notFound
  | 4 => .interrupted
  | 5 => .inputOutput
  | 7 => .argumentListTooLong
  | 11 => .wouldBlock
  | 12 => .outOfMemory
  | 16 => .resourceBusy
  | 17 => .alreadyExists
  | 18 => .crossesDevices
  | 20 => .notADirectory
  | 21 => .isADirectory
  | 22 => .invalidInput
  | 23 | 24 => .tooManyOpenFiles
  | 26 => .executableFileBusy
  | 27 => .fileTooLarge
  | 28 => .storageFull
  | 29 => .notSeekable
  | 30 => .readOnlyFilesystem
  | 31 => .tooManyLinks
  | 32 => .brokenPipe
  | 35 => .deadlock
  | 36 => .invalidFilename
  | 38 | 95 => .unsupported
  | 39 => .directoryNotEmpty
  | 40 => .filesystemLoop
  | 98 => .addressInUse
  | 99 => .addressNotAvailable
  | 100 => .networkDown
  | 101 => .networkUnreachable
  | 103 => .connectionAborted
  | 104 => .connectionReset
  | 107 => .notConnected
  | 110 => .timedOut
  | 111 => .connectionRefused
  | 113 => .hostUnreachable
  | 115 => .inProgress
  | 116 => .staleNetworkFileHandle
  | 122 => .quotaExceeded
  | _ => .uncategorized

/-- The symbolic names that checks report, by number. -/
def names : List (Int × String) :=
  [(2, "ENOENT"), (17, "EEXIST"), (20, "ENOTDIR"), (21, "EISDIR"),
   (39, "ENOTEMPTY"), (13, "EACCES"), (1, "EPERM"), (22, "EINVAL"), (5, "EIO"),
   (9, "EBADF"), (24, "EMFILE"), (23, "ENFILE"), (28, "ENOSPC"), (40, "ELOOP"),
   (30, "EROFS")]

/-- The symbolic name of a number. -/
def name (code : Int) : String :=
  ((names.find? fun row => row.1 == code).map Prod.snd).getD "UNKNOWN"

end Errno

/-! ## Errors -/

/-- An error of input or output. -/
inductive IoError where
  /-- The system refused with this number. -/
  | system (code : Int)
  /-- A failure that says no more than its kind. -/
  | plain (kind : ErrorKind)
  /-- A failure with a message. -/
  | described (kind : ErrorKind) (message : String)
  /-- A failure that carries another one, under a kind of its own. -/
  | wrapped (kind : ErrorKind) (inner : IoError)
  deriving DecidableEq, Repr

namespace IoError

/-- What sort of failure this is. -/
def kind : IoError → ErrorKind
  | .system code => Errno.kind code
  | .plain kind => kind
  | .described kind _ => kind
  | .wrapped kind _ => kind

/-- The system's number, if the error came from the system; an error that
carries one that did shows no number. -/
def code? : IoError → Option Int
  | .system code => some code
  | .plain _ => none
  | .described _ _ => none
  | .wrapped _ _ => none

/-- The text shown for the error. -/
def message : IoError → String
  | .system code => Errno.text code ++ " (os error " ++ toString code ++ ")"
  | .plain kind => kind.description
  | .described _ message => message
  | .wrapped _ inner => inner.message

/-- The copy handed to each of several callers that wait for one failed open:
the number where there is one, else kind and text. -/
def copied (error : IoError) : IoError :=
  match error.code? with
  | some code => .system code
  | none => .described error.kind error.message

@[simp] theorem kind_copied (error : IoError) :
    error.copied.kind = error.kind := by
  cases error <;> rfl

@[simp] theorem code?_copied (error : IoError) :
    error.copied.code? = error.code? := by
  cases error <;> rfl

@[simp] theorem message_copied (error : IoError) :
    error.copied.message = error.message := by
  cases error <;> rfl

/-- What one caller gets of an error that so many others hold as well: the error
itself where nobody else holds it, else a copy. -/
def handedOver (error : IoError) (others : Nat) : IoError :=
  if others = 0 then error else error.copied

/-- A path that names nothing cannot be completed. -/
def emptyPath : IoError :=
  .described .invalidInput "cannot make an empty path absolute"

/-- No file name holds a zero byte. -/
def zeroByte : IoError :=
  .described .invalidInput "file name contained an unexpected NUL byte"

/-- A write handle was asked for in read mode. -/
def writeModeRequired : IoError :=
  .described .invalidInput "open_for_write requires a write mode"

/-- The file ended before the requested bytes. -/
def endOfFile : IoError :=
  .described .unexpectedEnd "failed to fill whole buffer"

/-- A document is not text. -/
def notText : IoError :=
  .described .invalidData "stream did not contain valid UTF-8"

/-- The handle has been closed. -/
def closedHandle : IoError := .system Errno.badDescriptor

end IoError
end HandlePool

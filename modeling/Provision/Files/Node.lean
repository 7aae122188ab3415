namespace Provision.Files

/-- Why a file or a directory cannot be used. -/
inductive FileError
  | notFound
  | exists
  | notADirectory
  | isADirectory
  | notEmpty
  | nameTooLong
  | tooManyLinks
  | notPermitted
  | accessDenied
  | invalid
  | noSpace
  | badDescriptor
  | busy
  | brokenPipe
  | zeroInName
  | notText
  deriving DecidableEq, Repr

namespace FileError

/-- The words for an error. -/
def reason : FileError → String
  | .notFound => "No such file or directory"
  | .exists => "File exists"
  | .notADirectory => "Not a directory"
  | .isADirectory => "Is a directory"
  | .notEmpty => "Directory not empty"
  | .nameTooLong => "File name too long"
  | .tooManyLinks => "Too many levels of symbolic links"
  | .notPermitted => "Operation not permitted"
  | .accessDenied => "Permission denied"
  | .invalid => "Invalid argument"
  | .noSpace => "No space left on device"
  | .badDescriptor => "Bad file descriptor"
  | .busy => "Device or resource busy"
  | .brokenPipe => "Broken pipe"
  | .zeroInName => "file name contained an unexpected NUL byte"
  | .notText => "stream did not contain valid UTF-8"

/-- The number that the system has for an error. -/
def number? : FileError → Option Nat
  | .notFound => some 2
  | .exists => some 17
  | .notADirectory => some 20
  | .isADirectory => some 21
  | .notEmpty => some 39
  | .nameTooLong => some 36
  | .tooManyLinks => some 40
  | .notPermitted => some 1
  | .accessDenied => some 13
  | .invalid => some 22
  | .noSpace => some 28
  | .badDescriptor => some 9
  | .busy => some 16
  | .brokenPipe => some 32
  | .zeroInName => none
  | .notText => none

/-- The words for an error, with its number if it comes from the system. -/
def message (e : FileError) : String :=
  match e.number? with
  | some n => e.reason ++ " (os error " ++ toString n ++ ")"
  | none => e.reason

end FileError

/-- What a special file does: it takes all and gives nothing, gives zeros or other bytes, takes
nothing, or would be a terminal if there were one. -/
inductive Device
  | null
  | zero
  | full
  | random
  | terminal
  deriving DecidableEq, Repr

/-- The two numbers of a special file. -/
def Device.numbers : Device → Nat × Nat
  | .null => (1, 3)
  | .zero => (1, 5)
  | .full => (1, 7)
  | .random => (1, 8)
  | .terminal => (5, 0)

/-- What a node holds. A directory knows the one above it and the nodes of its names, a link leads
on to a path from its own directory, and a program is what the system runs by itself. -/
inductive Content
  | directory (above : Nat) (entries : List (String × Nat))
  | file (bytes : List UInt8)
  | link (path : String)
  | device (d : Device)
  | queue
  | program (name : String)
  deriving DecidableEq, Repr

/-- A node with its permissions, its owner and group, and the times in nanoseconds at which it was
read, its content was changed, and anything of it was changed. -/
structure Node where
  content : Content
  mode : Nat
  owner : Nat
  group : Nat
  accessed : Int
  modified : Int
  changed : Int
  deriving DecidableEq, Repr

namespace Node

/-- A new node. -/
def fresh (content : Content) (mode : Nat) (time : Int) : Node :=
  ⟨content, mode, 0, 0, time, time, time⟩

def isDirectory (n : Node) : Bool :=
  match n.content with
  | .directory .. => true
  | _ => false

def isLink (n : Node) : Bool :=
  match n.content with
  | .link _ => true
  | _ => false

/-- Whether a node is a plain file. -/
def isFile (n : Node) : Bool :=
  match n.content with
  | .file _ | .program _ => true
  | _ => false

/-- The bytes that are read from a node as a whole. Those of a program say no more than its name. -/
def bytes (n : Node) : List UInt8 :=
  match n.content with
  | .file bytes => bytes
  | .program name => "\x7fELF ".toUTF8.toList ++ name.toUTF8.toList
  | _ => []

/-- The size that is told of a node. -/
def size (n : Node) : Nat :=
  match n.content with
  | .directory .. => 4096
  | .link path => path.utf8ByteSize
  | _ => n.bytes.length

/-- The blocks of 512 bytes that a node takes up. -/
def blocks (n : Node) : Nat :=
  match n.content with
  | .directory .. => 8
  | .link path => if path.utf8ByteSize < 60 then 0 else 8
  | _ => (n.bytes.length + 4095) / 4096 * 8

/-- Whether somebody may run a node. -/
def isExecutable (n : Node) : Bool := n.mode % 2 = 1 || n.mode / 8 % 2 = 1 || n.mode / 64 % 2 = 1

end Node

end Provision.Files

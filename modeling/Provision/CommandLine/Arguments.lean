import Provision.CommandLine.Dispatch

namespace Provision.CommandLine

/-- What the arguments of a call ask for. -/
inductive Request
  | run (settings : Settings) (command : Command)
  | version
  | misuse
  deriving DecidableEq, Repr

/-- An option that a call can have. -/
inductive Switch
  | configuration (path : String)
  | logDirectory (path : String)
  | yes
  | verbose
  | version
  deriving DecidableEq, Repr

/-- Options of the same kind cannot stand together. -/
def Switch.kind : Switch → Nat
  | .configuration _ => 0
  | .logDirectory _ => 1
  | .yes => 2
  | .verbose => 3
  | .version => 4

def Switch.apply (s : Settings) : Switch → Settings
  | .configuration path => { s with configuration := path }
  | .logDirectory path => { s with logDirectory := path }
  | .yes => { s with yes := true }
  | _ => s

/-- Whether a text can be the value of an option that stands before it. -/
def isValue (s : String) : Bool := !s.isEmpty && (!s.startsWith "-" || s = "-")

/-- The value of an option: what follows it in the same argument, or else the next argument. -/
def value? (attached : Option String) (rest : List String) : Option (String × List String) :=
  match attached, rest with
  | some v, rest => if v.isEmpty then none else some (v, rest)
  | none, v :: rest => if isValue v then some (v, rest) else none
  | none, [] => none

/-- Reads the letters of an argument with one dash. Behind the letter that asks for the version
nothing counts any more. -/
def readLetters (rest : List String) : List Char → Option (List Switch × List String)
  | [] => some ([], rest)
  | 'y' :: cs => (readLetters rest cs).map fun (more, rest) => (.yes :: more, rest)
  | 'v' :: cs => (readLetters rest cs).map fun (more, rest) => (.verbose :: more, rest)
  | 'V' :: _ => some ([.version], rest)
  | 'c' :: cs =>
    let attached := match cs with
      | [] => none
      | '=' :: cs => some (String.ofList cs)
      | cs => some (String.ofList cs)
    (value? attached rest).map fun (v, rest) => ([.configuration v], rest)
  | _ => none

/-- Reads an option with two dashes, given by its name and what follows an equals sign. -/
def readLong (name : String) (attached : Option String) (rest : List String) :
    Option (List Switch × List String) :=
  match name, attached with
  | "config", a => (value? a rest).map fun (v, rest) => ([.configuration v], rest)
  | "log-dir", a => (value? a rest).map fun (v, rest) => ([.logDirectory v], rest)
  | "yes", none => some ([.yes], rest)
  | "verbose", none => some ([.verbose], rest)
  | "version", none => some ([.version], rest)
  | _, _ => none

/-- What an argument is. -/
inductive Item
  | switches (found : List Switch)
  | positional (text : String)
  | escape

/-- Reads the next argument. -/
def nextItem (arg : String) (rest : List String) : Option (Item × List String) :=
  match arg.toList with
  | ['-', '-'] => some (.escape, rest)
  | '-' :: '-' :: cs =>
    let name := cs.takeWhile (· != '=')
    let attached := match cs.drop name.length with
      | '=' :: v => some (String.ofList v)
      | _ => none
    (readLong (String.ofList name) attached rest).map fun (found, rest) => (.switches found, rest)
  | '-' :: c :: cs =>
    (readLetters rest (c :: cs)).map fun (found, rest) => (.switches found, rest)
  | _ => some (.positional arg, rest)

/-- Adds options to those of one level, where none can stand twice. -/
def addSwitches (level : List Switch) : List Switch → Option (List Switch)
  | [] => some level
  | s :: more =>
    if level.any (·.kind = s.kind) then none else addSwitches (level ++ [s]) more

/-- The command that a name stands for, with the number of texts that can follow it. -/
def commandOf? (name : String) (texts : List String) : Option Command :=
  match name, texts with
  | "status", [] => some .status
  | "install", [] => some .install
  | "validate", [] => some .validate
  | "inspect", [] => some .inspect
  | "init", [] => some (.init ".")
  | "init", [path] => if path.isEmpty then none else some (.init path)
  | _, _ => none

/-- So many texts can follow a command. -/
def capacity? (name : String) : Option Nat :=
  match name with
  | "init" => some 1
  | "status" | "install" | "validate" | "inspect" => some 0
  | _ => none

/-- Reads the arguments behind a command: the options of their level, and the texts. -/
def readTail (room : Nat) (name : String) (level : List Switch) (texts : List String)
    (escaped : Bool) (args : List String) : Option (List Switch × List String) :=
  match room, args with
  | 0, _ => none
  | _ + 1, [] => some (level, texts)
  | room + 1, arg :: rest =>
    let add (text : String) (rest : List String) : Option (List Switch × List String) :=
      if (capacity? name).any (texts.length + 1 ≤ ·) && !text.isEmpty then
        readTail room name level (texts ++ [text]) escaped rest
      else none
    if escaped then add arg rest
    else
      match nextItem arg rest with
      | none => none
      | some (.escape, rest) => readTail room name level texts true rest
      | some (.positional text, rest) => add text rest
      | some (.switches found, rest) =>
        if found.contains .version then none
        else
          match addSwitches level found with
          | none => none
          | some level => readTail room name level texts escaped rest

/-- Reads the arguments before a command, and the command. -/
def readHead (room : Nat) (level : List Switch) (args : List String) : Request :=
  match room, args with
  | 0, _ => .misuse
  | _ + 1, [] => .misuse
  | room + 1, arg :: rest =>
    match nextItem arg rest with
    | some (.switches found, rest) =>
      let before := found.takeWhile (· != .version)
      match addSwitches level before with
      | none => .misuse
      | some level => if found.contains .version then .version else readHead room level rest
    | some (.positional name, rest) =>
      if (capacity? name).isNone then .misuse
      else
        match readTail (rest.length + 1) name [] [] false rest with
        | none => .misuse
        | some (inner, texts) =>
          match commandOf? name texts with
          | none => .misuse
          | some command =>
            let settings := (level ++ inner).foldl Switch.apply .default
            .run settings command
    | _ => .misuse

/-- What a call asks for. -/
def Request.ofArguments (args : List String) : Request :=
  readHead (args.length + 1) [] args

/-- What a call tells and how it ends. -/
structure Ending where
  exit : Nat
  stdout : String
  stderr : String
  world : World

/-- The exit of a call that is not understood. -/
def misuseExit : Nat := 2

/-- Carries out what the arguments of a call ask for. -/
def call (args : List String) (w : World) : Ending :=
  match Request.ofArguments args with
  | .misuse => ⟨misuseExit, "", "", w⟩
  | .version => ⟨0, "booty " ++ Pass.version ++ "\n", "", w⟩
  | .run settings command =>
    let reply := dispatch settings command w
    match reply.error with
    | none => ⟨0, reply.text, "", reply.world⟩
    | some e => ⟨1, reply.text, "error: " ++ e.message ++ "\n", reply.world⟩

end Provision.CommandLine

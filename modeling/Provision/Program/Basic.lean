import Provision.Shell.Store

/-!
Programs, which have arguments and give a status, and how they read their options.
-/

namespace Provision

open Bytes (toText ofText)
open Shell (Run)

namespace Program

/-- Why another program cannot be run. -/
inductive Obstacle
  | missing
  | denied
  | failed (e : Files.FileError)
  | interpreter (path : Chars) (isDenied : Bool)
  | binary
  deriving DecidableEq, Repr

def Obstacle.reason : Obstacle → String
  | .missing => "No such file or directory"
  | .denied => "Permission denied"
  | .failed e => e.reason
  | .interpreter _ isDenied => if isDenied then "Permission denied" else "No such file or directory"
  | .binary => "Exec format error"

/-- The statuses of programs that run others, when those cannot be run. -/
def Obstacle.status : Obstacle → Nat
  | .missing | .failed .notFound => 127
  | _ => 126

/-- How a program is called: by which name, and how it takes the form of another program, which is
called by its arguments. If that is possible, the answer is its status. -/
structure Caller where
  name : String
  become : List Chars → Run (Except Obstacle Nat)

end Program

/-- A program has its arguments and gives a status. -/
abbrev Program := Program.Caller → List Chars → Run Nat

namespace Program

/-- Complains in the name of a program. -/
def complain (name message : String) : Run Nat := do
  Run.complain (name ++ ": " ++ message)
  return 1

/-- Writes output. If that is impossible, the program ends. -/
def out (name : String) (text : Chars) : Run Nat := do
  match ← Run.write 1 text with
  | .ok () => return 0
  | .error e => complain name ("write error: " ++ e.reason)

/-- Runs another program in a process of its own, in which some descriptors lead elsewhere, and waits
for it. The answer tells how it has ended, and whether it could begin at all. -/
def Caller.call (c : Caller) (turned : List (Nat × Option Nat)) (refused : Obstacle → Run Nat)
    (words : List Chars) : Run (Host.Fate × Bool) := do
  let note ← Run.share fun _ y => y.addPipe
  let child ← Run.startWith turned do
    let status ← match ← c.become words with
      | .ok status => pure status
      | .error o => do
        Run.share fun _ y => ((), { y with pipes := y.pipes.modify note (·.put ['x']) })
        refused o
    Run.setStatus status
    Run.stop
  let fate ← Run.await child
  let began ← Run.observe fun _ y => (y.pipes.getD note .empty).size == 0
  return (fate, began)

/-- A command as words that a shell runs. -/
def shellWords (command : Chars) : List Chars := ["sh".toList, "-c".toList, command]

/-- Starts another program in a process of its own, in which a descriptor leads to a stream. -/
def Caller.launch (c : Caller) (turned : Option (Nat × Nat)) (words : List Chars) : Run Nat := do
  let aside ← turned.mapM fun (_, stream) => Run.putAside stream
  let child ← Run.startWith (turned.toList.map fun (d, stream) => (d, some stream)) do
    match ← c.become words with
    | .ok status => Run.setStatus status
    | .error o => Run.setStatus o.status
    Run.stop
  match aside with
  | some d => Run.setDescriptor d none
  | none => pure ()
  return child

/-- Runs a command in a process of its own. The answer is what the command has written, and how it has
ended. -/
def Caller.outputOf (c : Caller) (words : List Chars) : Run (Chars × Host.Fate) := do
  let (reader, writer) ← Run.newPipe
  let child ← c.launch (some (1, writer)) words
  let d ← Run.putAside reader
  let text ← Run.takeAll d
  Run.setDescriptor d none
  return (text, ← Run.await child)

/-! ## Options -/

/-- Whether an option has an argument. -/
inductive Need
  | none
  | required
  | optional
  deriving DecidableEq, Repr

/-- The options of a program: letters, and long names, which stand for a letter or for
themselves. -/
structure Spec where
  short : List (Char × Need)
  long : List (String × Need × String)

/-- The options that a text describes. A letter with an argument has a colon behind it, one whose
argument can be left out has two, and a long name has the letter for which it stands behind a
bar. -/
def Spec.ofString (letters : String) (names : List String) : Spec :=
  let rec short : Chars → List (Char × Need)
    | c :: ':' :: ':' :: rest => (c, .optional) :: short rest
    | c :: ':' :: rest => (c, .required) :: short rest
    | c :: rest => (c, .none) :: short rest
    | [] => []
  let long (text : String) : String × Need × String :=
    let cs := text.toList
    let name := cs.takeWhile fun c => c != '=' && c != '|' && c != '?'
    let need : Need := if cs.contains '=' then .required else if cs.contains '?' then .optional
      else .none
    let key := (cs.dropWhile (· != '|')).drop 1
    (String.ofList name, need, if key.isEmpty then String.ofList name else String.ofList key)
  ⟨short letters.toList, names.map long⟩

/-- The options that are given, each by its letter or its long name, and the other arguments. -/
structure Arguments where
  options : List (String × Chars)
  operands : List Chars

namespace Arguments

def has (a : Arguments) (key : String) : Bool := a.options.any (·.1 = key)

/-- The argument of the last option of a kind. -/
def value? (a : Arguments) (key : String) : Option Chars :=
  (a.options.reverse.find? (·.1 = key)).map (·.2)

/-- The arguments of all options of a kind. -/
def values (a : Arguments) (key : String) : List Chars :=
  (a.options.filter (·.1 = key)).map (·.2)

/-- The last of some options. -/
def lastOf? (a : Arguments) (keys : List String) : Option String :=
  (a.options.reverse.find? fun o => keys.contains o.1).map (·.1)

end Arguments

/-- Why arguments cannot be read. -/
inductive Misuse
  | unknown (c : Char)
  | unknownName (text : Chars)
  | missing (c : Char)
  | missingName (name : String)
  | ambiguous (text : Chars) (names : List String)
  | unwanted (name : String)

def Misuse.message : Misuse → String
  | .unknown c => "invalid option -- '" ++ toText [c] ++ "'"
  | .unknownName t => "unrecognized option '" ++ toText t ++ "'"
  | .missing c => "option requires an argument -- '" ++ String.singleton c ++ "'"
  | .missingName n => "option '--" ++ n ++ "' requires an argument"
  | .ambiguous t names =>
    "option '" ++ toText t ++ "' is ambiguous; possibilities:" ++
      String.join (names.map fun n => " '--" ++ n ++ "'")
  | .unwanted n => "option '--" ++ n ++ "' doesn't allow an argument"

/-- Reads the letters of an argument. -/
def readLetters (spec : Spec) (next : List Chars) :
    Chars → Except Misuse (List (String × Chars) × List Chars)
  | [] => .ok ([], next)
  | c :: cs => do
    let key := String.singleton c
    match spec.short.lookup c with
    | none => throw (.unknown c)
    | some .none =>
      let (more, rest) ← readLetters spec next cs
      return ((key, []) :: more, rest)
    | some .optional => return ([(key, cs)], next)
    | some .required =>
      match cs, next with
      | [], [] => throw (.missing c)
      | [], a :: rest => return ([(key, a)], rest)
      | cs, rest => return ([(key, cs)], rest)

/-- Reads an option with a long name, which may be shortened. -/
def readLong (spec : Spec) (next : List Chars) (text : Chars) :
    Except Misuse ((String × Chars) × List Chars) := do
  let name := text.takeWhile (· != '=')
  let given := if text.length = name.length then none else some (text.drop (name.length + 1))
  let whole := ['-', '-'] ++ text
  let exact := spec.long.filter fun o => ofText o.1 = name
  let close := spec.long.filter fun o => name.isPrefixOf (ofText o.1)
  let found := if exact.isEmpty then close else exact
  match found with
  | [] => throw (.unknownName (['-', '-'] ++ if given.isSome then text else name))
  | (long, need, key) :: more =>
    if !more.all fun o => o.2.2 = key then throw (.ambiguous whole (found.map (·.1)))
    match need, given, next with
    | .none, some _, _ => throw (.unwanted long)
    | .none, none, next => return ((key, []), next)
    | .optional, given, next => return ((key, given.getD []), next)
    | .required, some value, next => return ((key, value), next)
    | .required, none, a :: rest => return ((key, a), rest)
    | .required, none, [] => throw (.missingName long)

/-- Reads options among other arguments. If they have to come first, the first other argument ends
them. -/
def readArguments (spec : Spec) (first : Bool) : Nat → List Chars → Except Misuse Arguments
  | 0, args => .ok ⟨[], args⟩
  | room + 1, args =>
    match args with
    | [] => .ok ⟨[], []⟩
    | ['-', '-'] :: rest => .ok ⟨[], rest⟩
    | ('-' :: '-' :: text) :: rest => do
      let (option, rest) ← readLong spec rest text
      let more ← readArguments spec first room rest
      return { more with options := option :: more.options }
    | ('-' :: c :: cs) :: rest => do
      let (options, rest) ← readLetters spec rest (c :: cs)
      let more ← readArguments spec first room rest
      return { more with options := options ++ more.options }
    | a :: rest =>
      if first then .ok ⟨[], args⟩
      else do
        let more ← readArguments spec first room rest
        return { more with operands := a :: more.operands }

/-- Points to the help of a program. -/
def pointToHelp (name : String) (status : Nat) : Run Nat := do
  Run.complain ("Try '" ++ name ++ " --help' for more information.")
  return status

/-- Complains in the name of a program and points to its help. -/
def misuse (name message : String) (status : Nat := 1) : Run Nat := do
  Run.complain (name ++ ": " ++ message)
  pointToHelp name status

/-- The last part of a name, which a path has behind its last slash. -/
def baseName (name : String) : String :=
  String.ofList (((name.toList.splitOn '/').getLast?).getD [])

/-- The version of a program. -/
def versionOf (name : String) : String :=
  match baseName name with
  | "grep" | "egrep" | "fgrep" => "grep (GNU grep) 3.8"
  | "sed" => "sed (GNU sed) 4.9"
  | "find" => "find (GNU findutils) 4.9.0"
  | "xargs" => "xargs (GNU findutils) 4.9.0"
  | "diff" => "diff (GNU diffutils) 3.8"
  | "cmp" => "cmp (GNU diffutils) 3.8"
  | n => n ++ " (GNU coreutils) 9.1"

/-- Does the work of a program with its arguments, if they can be read. Each program can tell its
version. -/
def withArguments (name : String) (spec : Spec) (status : Nat) (first : Bool) (args : List Chars)
    (f : Arguments → Run Nat) : Run Nat := do
  let told : List (String × Need × String) :=
    [("help", .none, "help"), ("version", .none, "version")]
  match readArguments { spec with long := spec.long ++ told } first args.length args with
  | .ok a =>
    if a.has "version" then out name (ofText (versionOf name ++ "\n"))
    else if a.has "help" then out name (ofText ("Usage: " ++ name ++ " [OPTION]...\n"))
    else f a
  | .error e =>
    Run.complain (name ++ ": " ++ e.message)
    pointToHelp name status

/-- A text in which a shell reads characters by their numbers. -/
def codeText : Chars → Chars
  | [] => []
  | c :: cs =>
    (match c with
    | '\n' => ['\\', 'n']
    | '\t' => ['\\', 't']
    | '\r' => ['\\', 'r']
    | '\x07' => ['\\', 'a']
    | '\x08' => ['\\', 'b']
    | '\x0b' => ['\\', 'v']
    | '\x0c' => ['\\', 'f']
    | c => '\\' :: (Nat.toDigits 8 c.toNat).leftpad 3 '0') ++ codeText cs

def isShown (c : Char) : Bool := ' ' ≤ c && c ≤ '~'

/-- The parts of a text between quotes, of which some are numbers of characters. -/
def quotedParts : Nat → Chars → Chars
  | 0, _ => []
  | room + 1, cs =>
    let plain := cs.takeWhile isShown
    let rest := cs.drop plain.length
    let codes := rest.takeWhile (!isShown ·)
    let after := rest.drop codes.length
    let shown := '\'' :: plain.flatMap (fun c => if c = '\'' then "'\\''".toList else [c]) ++ ['\'']
    if codes.isEmpty then shown
    else
      shown ++ "$'".toList ++ codeText codes ++ ['\''] ++
        if after.isEmpty then [] else quotedParts room after

/-- A text between the quotes that messages have. -/
def quoted (t : Chars) : String :=
  if t.all isShown && t.contains '\'' &&
      t.all fun c => c != '\x22' && c != '$' && c != '\\' && c != Char.ofNat 96 then
    "\"" ++ toText t ++ "\""
  else toText (quotedParts (t.length + 1) t)

/-- A text between the quotes that messages have around arguments. -/
def cited (t : Chars) : String :=
  let shown (c : Char) : Chars :=
    match c with
    | '\'' => ['\\', '\'']
    | '\\' => ['\\', '\\']
    | c => if isShown c then [c] else codeText [c]
  toText ('\'' :: t.flatMap shown ++ ['\''])

/-- What a word or the beginning of one chooses, where the words of a group mean the same. -/
def choose {α : Type} (option : String) (choices : List (List String × α)) (t : Chars) :
    Except String α :=
  let close := choices.filter fun g => g.1.any fun w => t.isPrefixOf w.toList
  match choices.find? fun g => g.1.any fun w => w.toList = t, close with
  | some g, _ | none, [g] => .ok g.2
  | none, close =>
    let shown (g : List String × α) : String :=
      "\n  - " ++ ", ".intercalate (g.1.map fun w => "'" ++ w ++ "'")
    .error ((if close.isEmpty then "invalid" else "ambiguous") ++ " argument " ++ cited t ++
      " for '" ++ option ++ "'\nValid arguments are:" ++ String.join (choices.map shown))

/-- What the arguments of an option choose, each by a word or the beginning of one. The first that
chooses nothing is complained of. -/
def Arguments.chosen {α : Type} (a : Arguments) (key option : String)
    (choices : List (List String × α)) : Except String (List α) :=
  (a.values key).mapM (choose option choices)

/-- Complains that operands are missing behind the last one. -/
def missOperand (name : String) (operands : List Chars) : Run Nat :=
  misuse name (match operands.getLast? with
    | some t => "missing operand after " ++ cited t
    | none => "missing operand")

/-- Complains of an operand that is too much. -/
def refuseOperand (name : String) (t : Chars) : Run Nat :=
  misuse name ("extra operand " ++ cited t)

/-- A path as messages show it: between quotes only if it needs them. -/
def shownPath (t : Chars) : String :=
  let isPlain (c : Char) : Bool := c.isAlphanum || "-_./+,@%^=~#:\x5d\x7b\x7d\x5b".toList.contains c
  if !t.isEmpty && t.all isPlain && t.head? ≠ some '~' && t.head? ≠ some '#' then toText t
  else quoted t

end Program

end Provision

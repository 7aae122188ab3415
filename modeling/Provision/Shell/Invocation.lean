import Provision.Shell.Session

/-!
How a shell is called: with a text, a file or its input to run, and with settings.
-/

namespace Provision.Shell

open Bytes (toText ofText)

/-- What a shell is asked for by its arguments: whether it runs a text or its input, the settings
that it has, the other arguments, and the lists of settings that it shows first. -/
structure Invocation where
  takesText : Bool
  takesInput : Bool
  settings : List Setting
  extras : List String
  rest : List Chars
  shown : List String

/-- What a shell writes instead of running something, on its output or as a complaint, its status,
and the lists that it shows before. -/
structure Notice where
  isComplaint : Bool
  lines : List String
  status : Nat
  shown : List String

namespace Invocation

def plain : Invocation :=
  ⟨false, false, Setting.usual, (extraSettings.filter (·.2)).map (·.1), [], []⟩

def put (on : Bool) (x : Setting) (i : Invocation) : Invocation :=
  { i with settings := i.settings.filter (· ≠ x) ++ if on then [x] else [] }

/-- How a shell is to be called. -/
def usage (name : String) : List String :=
  ["Usage:\t" ++ name ++ " [GNU long option] [option] ...",
   "\t" ++ name ++ " [GNU long option] [option] script-file ...",
   "GNU long options:", "\t--debug", "\t--debugger", "\t--dump-po-strings", "\t--dump-strings",
   "\t--help", "\t--init-file", "\t--login", "\t--noediting", "\t--noprofile", "\t--norc",
   "\t--posix", "\t--pretty-print", "\t--rcfile", "\t--restricted", "\t--verbose",
   "\t--version", "Shell options:",
   "\t-ilrsD or -c command or -O shopt_option\t\t(invocation only)",
   "\t-abefhkmnptuvxBCEHPT or -o option"]

/-- The version of the shell. -/
def versionLine : String := "GNU bash, version 5.2.15(1)-release"

/-- Refuses arguments. A shell that ends at each failure says no more than what is wrong. -/
def refuse (i : Invocation) (name message : String) (withUsage : Bool) : Notice :=
  if i.settings.contains .exitOnError then ⟨true, [message], 1, i.shown⟩
  else ⟨true, message :: if withUsage then usage name else [], 2, i.shown⟩

/-- Reads the options with long names that come first. -/
def readLong (name : String) : Invocation → List Chars → Except Notice (Invocation × List Chars)
  | i, arg :: rest =>
    match arg with
    | '-' :: '-' :: c :: cs =>
      match String.ofList (c :: cs) with
      | "help" =>
        .error ⟨false, (versionLine ++ "-(x86_64-pc-linux-gnu)") :: usage name, 0, []⟩
      | "version" => .error ⟨false, [versionLine ++ " (x86_64-pc-linux-gnu)"], 0, []⟩
      | "posix" => readLong name (i.put true .posix) rest
      | "verbose" => readLong name (i.put true .verbose) rest
      | "norc" | "noprofile" | "noediting" | "login" | "restricted" | "debugger" | "debug" =>
        readLong name i rest
      | "rcfile" | "init-file" =>
        match rest with
        | _ :: rest => readLong name i rest
        | [] => .error (i.refuse name (name ++ ": --" ++ String.ofList (c :: cs) ++
            ": option requires an argument") false)
      | _ => .error (i.refuse name (name ++ ": " ++ toText arg ++ ": invalid option") true)
    | _ => .ok (i, arg :: rest)
  | i, [] => .ok (i, [])

/-- Reads the letters of an argument. -/
def readLetters (name : String) (on : Bool) :
    Invocation → List Chars → Chars → Except Notice (Invocation × List Chars)
  | i, rest, [] => .ok (i, rest)
  | i, rest, c :: cs =>
    match c with
    | 'c' => readLetters name on { i with takesText := true } rest cs
    | 's' => readLetters name on { i with takesInput := true } rest cs
    | 'i' | 'l' | 'r' | 'D' => readLetters name on i rest cs
    | 'o' =>
      match rest with
      | [] =>
        let lines := Setting.list (!on) (.emacs :: i.settings)
        readLetters name on { i with shown := i.shown ++ lines } rest cs
      | t :: rest =>
        match Setting.ofName? (toText t) with
        | some x => readLetters name on (i.put on x) rest cs
        | none => .error ⟨true, [name ++ ": line 0: " ++ name ++ ": " ++ toText t ++
            ": invalid option name"], 2, i.shown⟩
    | 'O' =>
      match rest with
      | [] =>
        readLetters name on { i with shown := i.shown ++ extraList (!on) i.extras } rest cs
      | t :: rest =>
        if extraSettings.any (·.1 = toText t) then
          let extras := i.extras.filter (· ≠ toText t) ++ if on then [toText t] else []
          readLetters name on { i with extras } rest cs
        else .error ⟨true, [name ++ ": line 0: " ++ toText t ++ ": invalid shell option name"], 2,
            i.shown⟩
    | c =>
      match Setting.ofLetter? c with
      | some x => readLetters name on (i.put on x) rest cs
      | none => .error (i.refuse name (name ++ ": " ++ String.ofList [if on then '-' else '+', c] ++
          ": invalid option") true)

/-- Reads the options that begin with one sign. -/
def readShort (name : String) : Nat → Invocation → List Chars → Except Notice Invocation
  | 0, i, args => .ok { i with rest := args }
  | room + 1, i, args =>
    match args with
    | ['-'] :: rest | ['-', '-'] :: rest => .ok { i with rest }
    | ('-' :: c :: cs) :: rest => do
      let (i, rest) ← readLetters name true i rest (c :: cs)
      readShort name room i rest
    | ('+' :: cs) :: rest => do
      let (i, rest) ← readLetters name false i rest cs
      readShort name room i rest
    | args => .ok { i with rest := args }

/-- Reads the arguments of the shell. -/
def ofArguments (name : String) (args : List Chars) : Except Notice Invocation := do
  let (i, rest) ← readLong name plain args
  let i ← readShort name (args.length + 1) i rest
  if i.takesText && i.rest.isEmpty then
    throw (i.refuse name (name ++ ": -c: option requires an argument") false)
  return i

/-- The letters that the smaller shell has for its settings. -/
def plainLetters : List Char := "aCefIimnsuVvxbEp".toList

/-- Reads the arguments of the smaller shell. -/
def ofPlain (name : String) : Nat → Invocation → List Chars → Except Notice Invocation
  | 0, i, args => .ok { i with rest := args }
  | room + 1, i, args =>
    let refused (text : String) : Except Notice Invocation :=
      .error ⟨true, [name ++ ": 0: Illegal option " ++ text], 2, i.shown⟩
    match args with
    | ['-'] :: rest | ['-', '-'] :: rest => .ok { i with rest }
    | (sign :: c :: cs) :: rest =>
      if sign ≠ '-' && sign ≠ '+' then .ok { i with rest := args }
      else if c = '-' then refused "--"
      else
        let on := sign == '-'
        match (c :: cs).find? fun l => !("cso".toList.contains l || plainLetters.contains l) with
        | some bad => refused (String.ofList [sign, bad])
        | none =>
          let i := (c :: cs).foldl (fun (i : Invocation) l =>
            if l = 'c' then { i with takesText := true }
            else if l = 's' then { i with takesInput := true }
            else match Setting.ofLetter? l with
              | some x => i.put on x
              | none => i) i
          if !(c :: cs).contains 'o' then ofPlain name room i rest
          else
            match rest with
            | [] => .ok { i with rest := [], shown := Setting.plainList (!on) fun _ => true }
            | t :: rest =>
              match Setting.plainNamed? (toText t) with
              | some (some x) => ofPlain name room (i.put on x) rest
              | some none => ofPlain name room i rest
              | none => refused (String.ofList [sign] ++ "o " ++ toText t)
    | args => .ok { i with rest := args }

/-- Reads the arguments of a shell. -/
def read (d : Dialect) (name : String) (args : List Chars) : Except Notice Invocation :=
  match d with
  | .bash => ofArguments name args
  | .dash => do
    let none' : Invocation := { plain with settings := [], extras := ["expand_aliases"] }
    let i ← ofPlain name (args.length + 1) none' args
    if i.takesText && i.rest.isEmpty then
      throw ⟨true, [name ++ ": 0: -c requires an argument"], 2, i.shown⟩
    return i

end Invocation

end Provision.Shell

import Provision.Shell.Test

namespace Provision.Shell

open Bytes (toText ofText)

/-- A builtin has its arguments and gives a status. -/
abbrev Routine := List Chars → Run Nat

namespace Builtin

/-- How builtins are used. -/
def usages : List (String × String) :=
  [(".", ". filename [arguments]"),
   ("alias", "alias [-p] [name[=value] ... ]"),
   ("bg", "bg [job_spec ...]"),
   ("break", "break [n]"),
   ("builtin", "builtin [shell-builtin [arg ...]]"),
   ("caller", "caller [expr]"),
   ("cd", "cd [-L|[-P [-e]] [-@]] [dir]"),
   ("command", "command [-pVv] command [arg ...]"),
   ("continue", "continue [n]"),
   ("dirs", "dirs [-clpv] [+N] [-N]"),
   ("disown", "disown [-h] [-ar] [jobspec ... | pid ...]"),
   ("echo", "echo [-neE] [arg ...]"),
   ("enable", "enable [-a] [-dnps] [-f filename] [name ...]"),
   ("eval", "eval [arg ...]"),
   ("exec", "exec [-cl] [-a name] [command [argument ...]] [redirection ...]"),
   ("exit", "exit [n]"),
   ("fg", "fg [job_spec]"),
   ("getopts", "getopts optstring name [arg ...]"),
   ("hash", "hash [-lr] [-p pathname] [-dt] [name ...]"),
   ("help", "help [-dms] [pattern ...]"),
   ("history",
    "history [-c] [-d offset] [n] or history -anrw [filename] or history " ++
      "-ps arg [arg...]"),
   ("jobs", "jobs [-lnprs] [jobspec ...] or jobs -x command [args]"),
   ("kill", "kill [-s sigspec | -n signum | -sigspec] pid | jobspec ... or kill -l [sigspec]"),
   ("let", "let arg [arg ...]"),
   ("mapfile",
    "mapfile [-d delim] [-n count] [-O origin] [-s count] [-t] [-u fd] [-C " ++
      "callback] [-c quantum] [array]"),
   ("popd", "popd [-n] [+N | -N]"),
   ("printf", "printf [-v var] format [arguments]"),
   ("pushd", "pushd [-n] [+N | -N | dir]"),
   ("pwd", "pwd [-LP]"),
   ("read",
    "read [-ers] [-a array] [-d delim] [-i text] [-n nchars] [-N nchars] " ++
      "[-p prompt] [-t timeout] [-u fd] [name ...]"),
   ("readarray",
    "readarray [-d delim] [-n count] [-O origin] [-s count] [-t] [-u fd] " ++
      "[-C callback] [-c quantum] [array]"),
   ("return", "return [n]"),
   ("set", "set [-abefhkmnptuvxBCEHPT] [-o option-name] [--] [-] [arg ...]"),
   ("shift", "shift [n]"),
   ("shopt", "shopt [-pqsu] [-o] [optname ...]"),
   ("source", "source filename [arguments]"),
   ("test", "test [expr]"),
   ("times", "times"),
   ("trap", "trap [-lp] [[arg] signal_spec ...]"),
   ("type", "type [-afptP] name [name ...]"),
   ("ulimit", "ulimit [-SHabcdefiklmnpqrstuvxPRT] [limit]"),
   ("umask", "umask [-p] [-S] [mode]"),
   ("unalias", "unalias [-a] name [name ...]"),
   ("unset", "unset [-f] [-v] [-n] [name ...]"),
   ("wait", "wait [-fn] [-p var] [id ...]")]

/-- How builtins of the smaller shell are used, where it tells that. -/
def plainUsages : List (String × String) :=
  [("getopts", "getopts optstring var [arg...]"),
   ("kill", "kill [-s sigspec | -signum | -sigspec] [pid | job]... or\nkill -l [exitstatus]")]

/-- Tells how a builtin is used. -/
def usage (command : String) : Run Nat := do
  match (← get).dialect, plainUsages.lookup command with
  | .dash, some u => Run.report (command ++ ": Usage: " ++ u)
  | _, _ => Run.complain (command ++ ": usage: " ++ (usages.lookup command).getD command)
  return 2

/-- Complains in the name of a builtin. -/
def complain (command message : String) : Run Nat := do
  Run.report (command ++ ": " ++ message)
  return 1

/-- Says that a text is no name of a variable, in the name of a builtin. -/
def refuseName (command : String) (t : Chars) : Run Nat := do
  match (← get).dialect with
  | .bash => complain command ("`" ++ toText t ++ "': not a valid identifier")
  | .dash =>
    Run.report (command ++ ": " ++ toText (t.takeWhile (· != '=')) ++ ": bad variable name")
    return 2

/-- Says that a text is no number, as the smaller shell does. -/
def refuseNumber (command : String) (t : Chars) : Run Nat := do
  Run.report (command ++ ": Illegal number: " ++ toText t)
  return 2

/-- Writes the output of a builtin. -/
def say (command : String) (text : Chars) : Run Nat := do
  if text.isEmpty then return 0
  match ← Run.write 1 text with
  | .ok () => return 0
  | .error e =>
    if (← get).dialect = .dash then complain command "I/O error"
    else complain command ("write error: " ++ e.reason)

/-- The options of a builtin and what follows them. -/
structure Options where
  given : List (Char × Chars)
  operands : List Chars

namespace Options

def has (o : Options) (c : Char) : Bool := o.given.any (·.1 = c)

/-- The argument of the last option of a letter. -/
def value? (o : Options) (c : Char) : Option Chars :=
  (o.given.reverse.find? (·.1 = c)).map (·.2)

end Options

/-- Reads the letters of an argument. A letter behind which there is a colon has an argument of its
own. The answer may be a letter that is unknown, or one without its argument. -/
def readLetters (spec : Chars) (next : List Chars) :
    Chars → Except (Char × Bool) (List (Char × Chars) × List Chars)
  | [] => .ok ([], next)
  | c :: cs => do
    match spec.dropWhile (· != c) with
    | [] => throw (c, false)
    | _ :: ':' :: _ =>
      match cs, next with
      | [], [] => throw (c, true)
      | [], a :: rest => return ([(c, a)], rest)
      | cs, rest => return ([(c, cs)], rest)
    | _ =>
      let (more, rest) ← readLetters spec next cs
      return ((c, []) :: more, rest)

/-- Reads options up to the first argument that is none. -/
def readOptions (spec : Chars) : Nat → List Chars → Except (Char × Bool) Options
  | 0, args => .ok ⟨[], args⟩
  | room + 1, args =>
    match args with
    | ['-', '-'] :: rest => .ok ⟨[], rest⟩
    | ('-' :: c :: cs) :: rest => do
      let (given, rest) ← readLetters spec rest (c :: cs)
      let more ← readOptions spec room rest
      return { more with given := given ++ more.given }
    | args => .ok ⟨[], args⟩

/-- The special builtins of the smaller shell, which keep what assignments before them say. -/
def specials : List String :=
  [".", ":", "break", "continue", "eval", "exec", "exit", "export", "local", "readonly", "return",
   "set", "shift", "times", "trap", "unset"]

/-- Does the work of a builtin with its options, if it has them all. -/
def withOptions (command spec : String) (args : List Chars) (f : Options → Run Nat) :
    Run Nat := do
  match readOptions (spec.toList.filter (· != ' ')) args.length args with
  | .ok o => f o
  | .error (c, missing) =>
    if (← get).dialect = .dash then
      if missing then Run.report (command ++ ": No arg for -" ++ String.singleton c ++ " option")
      else Run.report (command ++ ": Illegal option -" ++ String.singleton c)
      if specials.contains command then Run.leave 2 else return 2
    Run.report (command ++ ": -" ++ String.singleton c ++
      if missing then ": option requires an argument" else ": invalid option")
    usage command

/-- A whole number in an argument. -/
def number? (t : Chars) : Option Int := Run.readInteger? t

end Builtin

end Provision.Shell

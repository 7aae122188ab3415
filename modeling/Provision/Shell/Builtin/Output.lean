import Provision.Shell.Assignment
import Provision.Shell.Builtin.Basic
import Provision.Shell.Format

namespace Provision.Shell.Builtin

open Bytes (toText ofText)

def echo (args : List Chars) : Run Nat := do
  let s ← get
  if s.dialect = .dash then
    let (quiet, args) := match args with
      | ['-', 'n'] :: rest => (true, rest)
      | _ => (false, args)
    let (text, stop) := unescape .narrowEchoed (List.intercalate [' '] args)
    return ← say "echo" (text ++ if quiet || stop then [] else ['\n'])
  let isOption (a : Chars) : Bool := match a with
    | '-' :: c :: cs => (c :: cs).all "neE".toList.contains
    | _ => false
  let options := args.takeWhile isOption
  let letters := options.flatten
  let text := List.intercalate [' '] (args.drop options.length)
  let escapes := letters.foldl (fun on c => if c = 'e' then true else if c = 'E' then false else on)
    (s.extras.contains "xpg_echo")
  let (text, stop) := if escapes then unescape .echoed text else (text, false)
  say "echo" (text ++ if letters.contains 'n' || stop then [] else ['\n'])

/-- Gives a text to a variable that can have an index. -/
def storeAt (command : String) (place text : Chars) : Run Bool := do
  let (name, index) := Run.splitName place
  if !isName name.toList then
    let _ ← refuseName command place
    return false
  let a : Assignment := .mk name (index.map fun i => [.literal true i]) [] false
    (.word (.mk [.literal true text] text))
  Run.assign ⟨fun _ => pure (), fun m => m⟩ none (some command) false a

def printf (args : List Chars) : Run Nat :=
  withOptions "printf" "v:" args fun o => do
    match o.operands with
    | [] =>
      if (← get).dialect = .dash then
        Run.report "printf: usage: printf format [arg ...]"
        return 2
      else usage "printf"
    | format :: arguments =>
      match o.value? 'v' with
      | some name =>
        if !isName (Run.splitName name).1.toList then
          Run.report ("printf: `" ++ toText name ++ "': not a valid identifier")
          return 2
      | none => pure ()
      let s ← get
      let now := (← Run.now) / 1000000000
      let (text, f) := formatted (.ofDialect s.dialect) now (s.started / 1000000000) format arguments
      for p in f.problems do Run.report ("printf: " ++ p.message s.dialect)
      let status ← match o.value? 'v' with
        | some name => do pure (if ← storeAt "printf" name text then 0 else 1)
        | none => say "printf" text
      if s.dialect = .dash && f.problems.any (·.isFatal) then return 2
      return if f.failed || (s.dialect = .dash && !f.problems.isEmpty) then 1 else status

end Provision.Shell.Builtin

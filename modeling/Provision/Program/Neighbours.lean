import Provision.Program.Order

/-!
The program that looks at lines beside each other which are the same.
-/

namespace Provision.Program

open Bytes (toText ofText)
open Files (FileError)
open Shell (Run)

namespace Neighbours

/-- Where a mark stands between groups of lines that are the same. -/
inductive Grouping
  | before
  | behind
  | between
  | around
  deriving DecidableEq

/-- Which lines are compared in which way, and what of them is written. -/
structure Style where
  fields : Nat := 0
  skipped : Nat := 0
  width : Option Nat := none
  folds : Bool := false
  counts : Bool := false
  /-- Whether lines without equals are written, one of those that are equal, and all of these. -/
  single : Bool := true
  last : Bool := true
  earlier : Bool := false
  /-- The marks between groups of lines that have equals. -/
  repeats : Option Grouping := none
  groups : Option Grouping := none
  mark : Char := '\n'

/-- The part of a line that is compared. -/
def Style.key (s : Style) (line : Chars) : Chars :=
  let t := (SortKey.skipFields none s.fields line).drop s.skipped
  let t := match s.width with
    | some w => t.take w
    | none => t
  if s.folds then t.map Char.toUpper else t

/-- Lines in groups of those in a row that are the same. -/
def Style.groupsOf (s : Style) : List Chars → List (List Chars)
  | [] => []
  | l :: rest =>
    match s.groupsOf rest with
    | (m :: g) :: more =>
      if s.key l = s.key m then (l :: m :: g) :: more else [l] :: (m :: g) :: more
    | gs => [l] :: gs

/-- All lines with marks where groups begin and end. -/
def Style.grouped (s : Style) (g : Grouping) (groups : List (List Chars)) : Chars :=
  let written := groups.map (unlines s.mark)
  match g with
  | .before => written.flatMap ([s.mark] ++ ·)
  | .behind => written.flatMap (· ++ [s.mark])
  | .between => List.intercalate [s.mark] written
  | .around => if written.isEmpty then [] else written.flatMap ([s.mark] ++ ·) ++ [s.mark]

/-- A line, if wanted behind the number of those that are equal up to it. -/
def Style.line (s : Style) (count : Nat) (l : Chars) : Chars :=
  (if s.counts then (Nat.toDigits 10 count).leftpad 7 ' ' ++ [' '] else []) ++ l ++ [s.mark]

/-- What is written of a group: its only line, the first one for all, or each. -/
def Style.group (s : Style) (g : List Chars) : Chars :=
  if g.length = 1 then if s.single then g.flatMap (s.line 1) else []
  else if s.earlier then (if s.last then g else g.dropLast).flatMap (s.line 1)
  else if s.last then s.line g.length (g.headD [])
  else []

/-- What is written of all groups. -/
def Style.text (s : Style) (groups : List (List Chars)) : Chars :=
  match s.groups, s.repeats with
  | some g, _ => s.grouped g groups
  | none, some g =>
    let step (st : Chars × Bool) (group : List Chars) : Chars × Bool :=
      let isRepeated := 1 < group.length
      let marked := isRepeated && (g = .before || st.2)
      (st.1 ++ (if marked then [s.mark] else []) ++ s.group group, st.2 || isRepeated)
    (groups.foldl step ([], false)).1
  | none, none => groups.flatMap s.group

def repeatChoices : List (List String × Option Grouping) :=
  [(["none"], none), (["prepend"], some .before), (["separate"], some .between)]

def groupChoices : List (List String × Option Grouping) :=
  [(["prepend"], some .before), (["append"], some .behind), (["separate"], some .between),
   (["both"], some .around)]

/-- Takes an option into a style. The last part of the state tells whether a number of fields is
written digit by digit. -/
def take (s : Style × Bool) (option : String × Chars) : Except (Bool × String) (Style × Bool) := do
  let (s, isOpen) := s
  let (key, value) := option
  let number (what : String) : Except (Bool × String) Nat :=
    match leadingCount? value with
    | some (n, []) => .ok n
    | _ => .error (false, toText value ++ ": invalid number of " ++ what)
  let chosen (option : String) (choices : List (List String × Option Grouping)) :
      Except (Bool × String) (Option Grouping) :=
    (choose option choices value).mapError (true, ·)
  match key with
  | "c" => return ({ s with counts := true }, isOpen)
  | "d" => return ({ s with single := false }, isOpen)
  | "D" | "all-repeated" =>
    let repeats ← if value.isEmpty then pure none
      else chosen "--all-repeated" repeatChoices
    return ({ s with single := false, earlier := true, repeats }, isOpen)
  | "group" =>
    let groups ← if value.isEmpty then pure (some Grouping.between)
      else chosen "--group" groupChoices
    return ({ s with groups }, isOpen)
  | "f" => return ({ s with fields := ← number "fields to skip" }, false)
  | "i" => return ({ s with folds := true }, isOpen)
  | "s" => return ({ s with skipped := ← number "bytes to skip" }, isOpen)
  | "u" => return ({ s with last := false }, isOpen)
  | "w" => return ({ s with width := some (← number "bytes to compare") }, isOpen)
  | "z" => return ({ s with mark := '\x00' }, isOpen)
  | digit =>
    let d := digit.toList.foldl (fun n ch => 10 * n + (ch.toNat - 48)) 0
    return ({ s with fields := (if isOpen then 10 * s.fields else 0) + d }, true)

end Neighbours

open Neighbours in
def uniq : Program := fun c args =>
  withArguments c.name (.ofString "0123456789cdDf:is:uw:z"
    ["count|c", "repeated|d", "all-repeated?", "group?", "ignore-case|i", "unique|u",
     "skip-fields=|f", "skip-chars=|s", "check-chars=|w", "zero-terminated|z"]) 1 false args
    fun a => do
    match a.options.foldlM take ({}, false) with
    | .error (helps, message) =>
      if helps then misuse c.name message else complain c.name message
    | .ok (s, _) =>
      let skipped? (t : Chars) : Option Nat :=
        if t.head? = some '+' then
          match leadingCount? t with
          | some (n, []) => some n
          | _ => none
        else none
      let s := { s with skipped := ((a.operands.filterMap skipped?).getLast?).getD s.skipped }
      match a.operands.filter fun t => (skipped? t).isNone with
      | _ :: _ :: extra :: _ => refuseOperand c.name extra
      | operands =>
        if s.groups.isSome && (s.counts || !s.single || !s.last) then
          return ← misuse c.name "--group is mutually exclusive with -c/-d/-D/-u"
        if s.counts && s.earlier then
          return ← misuse c.name
            "printing all duplicated lines and repeat counts is meaningless"
        let input := operands.headD ['-']
        let output := (operands.drop 1).headD ['-']
        let work (d : Nat) : Run Nat := do
          if output ≠ ['-'] then
            match ← Run.writeFile output .write [] with
            | .ok () => pure ()
            | .error e => return ← complainOf c.name output e
          match ← Run.readAll d with
          | .error e => complain c.name ("error reading " ++ quoted input ++ ": " ++ e.reason)
          | .ok text =>
            let shown := s.text (s.groupsOf (linesOf s.mark text))
            if output = ['-'] then out c.name shown
            else
              let _ ← Run.writeFile output .append shown
              return 0
        match ← withOperand input work with
        | .error e => complainOf c.name input e
        | .ok status => return status

end Provision.Program

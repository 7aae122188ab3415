import Provision.Text.Digits

namespace Provision.Files

/-- What is done to permissions: some are given, taken, or put in the place of others. -/
inductive ModeAction
  | give
  | take
  | set
  deriving DecidableEq, Repr

/-- From where a change has its permissions: as they are written, with the right to run if somebody
has that already, or from those that another kind of user has. -/
inductive ModeSource
  | plain
  | running
  | shared
  deriving DecidableEq, Repr

/-- A change of permissions: those that it can affect, where none stands for all that the mask leaves,
those that it names, and those that it is about. -/
structure ModeChange where
  action : ModeAction
  source : ModeSource
  affected : Nat
  value : Nat
  mentioned : Nat
  deriving DecidableEq, Repr

namespace ModeChange

/-- All permissions. -/
def everything : Nat := 0o7777

/-- The change that sets permissions by their number. -/
def ofNumber (digits n : Nat) : ModeChange :=
  ⟨.set, .plain, everything, n, if digits < 5 then (n &&& 0o6000) ||| 0o1777 else everything⟩

/-- The permissions of a kind of user. -/
def affectedBy? : Char → Option Nat
  | 'u' => some 0o4700
  | 'g' => some 0o2070
  | 'o' => some 0o1007
  | 'a' => some everything
  | _ => none

/-- The permissions that a letter stands for, for all kinds of users. -/
def valueOf? : Char → Option Nat
  | 'r' => some 0o444
  | 'w' => some 0o222
  | 'x' => some 0o111
  | 's' => some 0o6000
  | 't' => some 0o1000
  | 'X' => some 0
  | _ => none

/-- The permissions of a kind of user that can be shared. -/
def sharedBy? : Char → Option Nat
  | 'u' => some 0o700
  | 'g' => some 0o070
  | 'o' => some 0o007
  | _ => none

def actionOf? : Char → Option ModeAction
  | '+' => some .give
  | '-' => some .take
  | '=' => some .set
  | _ => none

/-- Reads what stands behind an action, and what follows. -/
def readValue (action : ModeAction) (affected : Nat) (cs : List Char) :
    Option (ModeChange × List Char) :=
  let digits := cs.takeWhile fun c => '0' ≤ c && c ≤ '7'
  match Text.readNat? 8 digits with
  | some n =>
    if affected ≠ 0 || everything < n then none
    else some (⟨action, .plain, everything, n, everything⟩, cs.drop digits.length)
  | none =>
    match cs with
    | c :: rest =>
      match sharedBy? c with
      | some value =>
        some (⟨action, .shared, affected, value, if affected = 0 then value else affected &&& value⟩,
          rest)
      | none =>
        let letters := cs.takeWhile fun c => (valueOf? c).isSome
        let value := letters.foldl (fun v c => v ||| (valueOf? c).getD 0) 0
        let source := if letters.contains 'X' then .running else .plain
        some (⟨action, source, affected, value, if affected = 0 then value else affected &&& value⟩,
          cs.drop letters.length)
    | [] => some (⟨action, .plain, affected, 0, 0⟩, [])

/-- Reads actions behind those whom they affect, and what follows. -/
def readActions (affected : Nat) : Nat → List Char → Option (List ModeChange × List Char)
  | 0, _ => none
  | room + 1, cs => do
    match cs with
    | [] => return ([], [])
    | c :: rest =>
      match actionOf? c with
      | none => return ([], cs)
      | some action =>
        let (change, rest) ← readValue action affected rest
        let (more, rest) ← readActions affected room rest
        return (change :: more, rest)

/-- Reads changes between commas. -/
def readClauses : Nat → List Char → Option (List ModeChange)
  | 0, _ => none
  | room + 1, cs => do
    let whom := cs.takeWhile fun c => (affectedBy? c).isSome
    let affected := whom.foldl (fun v c => v ||| (affectedBy? c).getD 0) 0
    let (changes, rest) ← readActions affected cs.length.succ (cs.drop whom.length)
    if changes.isEmpty then none
    else
      match rest with
      | [] => return changes
      | ',' :: rest => return changes ++ (← readClauses room rest)
      | _ => none

/-- Reads changes of permissions: a number, or letters. -/
def ofChars? (cs : List Char) : Option (List ModeChange) :=
  if !cs.isEmpty && cs.all (fun c => '0' ≤ c && c ≤ '7') then
    match Text.readNat? 8 cs with
    | some n => if n ≤ everything then some [ofNumber cs.length n] else none
    | none => none
  else readClauses (cs.length + 1) cs

/-- Permissions after a change, where a mask withholds some. -/
def apply (isDirectory : Bool) (mask : Nat) (mode : Nat) (c : ModeChange) : Nat :=
  let without (a b : Nat) : Nat := a - (a &&& b)
  let omitted := if isDirectory then without 0o6000 c.mentioned else 0
  let value := match c.source with
    | .plain => c.value
    | .running =>
      if isDirectory || mode &&& 0o111 ≠ 0 then c.value ||| 0o111 else c.value
    | .shared =>
      let some' := c.value &&& mode
      let all (bits : Nat) : Nat := if some' &&& bits ≠ 0 then bits else 0
      all 0o444 ||| all 0o222 ||| all 0o111
  let allowed := if c.affected = 0 then without everything mask else c.affected
  let value := without (value &&& allowed) omitted
  match c.action with
  | .give => mode ||| value
  | .take => without mode value
  | .set =>
    let kept := (if c.affected = 0 then 0 else without everything c.affected) ||| omitted
    (mode &&& kept) ||| value

/-- Permissions after changes. -/
def applyAll (isDirectory : Bool) (mask : Nat) (cs : List ModeChange) (mode : Nat) : Nat :=
  cs.foldl (apply isDirectory mask) mode

end ModeChange

/-- Permissions as nine letters. -/
def modeLetters (mode : Nat) : List Char :=
  let bit (n : Nat) : Bool := mode / n % 2 = 1
  let run (x special : Nat) (both only : Char) : Char :=
    if bit special then if bit x then both else only else if bit x then 'x' else '-'
  let letter (n : Nat) (c : Char) : Char := if bit n then c else '-'
  [letter 0o400 'r', letter 0o200 'w', run 0o100 0o4000 's' 'S',
   letter 0o040 'r', letter 0o020 'w', run 0o010 0o2000 's' 'S',
   letter 0o004 'r', letter 0o002 'w', run 0o001 0o1000 't' 'T']

/-- Permissions as digits of the base of eight. -/
def modeDigits (width mode : Nat) : List Char := (Nat.toDigits 8 mode).leftpad width '0'

end Provision.Files

import Provision.Shell.Word

/-!
Texts in a form that a shell reads back as they are.
-/

namespace Provision.Shell.Quoted

/-- Whether a character is written as it is. -/
def isPrintable (c : Char) : Bool := ' ' ≤ c && c ≤ '~'

/-- Whether a text has characters that cannot be shown. -/
def needsCodes (t : Chars) : Bool := t.any (!isPrintable ·)

/-- Between single quotes. A quote inside stands between two quoted texts. -/
def single (t : Chars) : Chars :=
  if t = ['\''] then ['\\', '\'']
  else '\'' :: t.flatMap (fun c => if c = '\'' then "'\\''".toList else [c]) ++ ['\'']

/-- A character by a sign or a number behind a backslash. -/
def code (c : Char) : Chars :=
  match c.toNat with
  | 7 => ['\\', 'a']
  | 8 => ['\\', 'b']
  | 9 => ['\\', 't']
  | 10 => ['\\', 'n']
  | 11 => ['\\', 'v']
  | 12 => ['\\', 'f']
  | 13 => ['\\', 'r']
  | 27 => ['\\', 'E']
  | n => '\\' :: (Nat.toDigits 8 n).leftpad 3 '0'

/-- Between quotes in which backslashes have a meaning. -/
def coded (t : Chars) : Chars :=
  "$'".toList ++ t.flatMap (fun c =>
    if c = '\'' || c = '\\' then ['\\', c] else if isPrintable c then [c] else code c) ++ ['\'']

/-- Between single quotes, or with codes if there is something that cannot be shown. -/
def shown (t : Chars) : Chars := if needsCodes t then coded t else single t

/-- As it is, or with codes if there is something that cannot be shown. -/
def named (t : Chars) : Chars := if needsCodes t then coded t else t

/-- Between single quotes, with the quotes inside between double ones. -/
def plainWithin : (room : Nat) → Chars → Chars
  | 0, _ => []
  | room + 1, t =>
    let start := t.takeWhile (· != '\'')
    let rest := t.drop start.length
    let quotes := rest.takeWhile (· == '\'')
    let rest := rest.drop quotes.length
    '\'' :: start ++ ['\''] ++
      (if quotes.isEmpty then [] else '"' :: quotes ++ ['"']) ++
      if rest.isEmpty then [] else plainWithin room rest

/-- In the way of the smaller shell. -/
def plain (t : Chars) : Chars := plainWithin (t.length + 1) t

/-- Between double quotes, or with codes. -/
def double (t : Chars) : Chars :=
  if needsCodes t then coded t
  else '"' :: t.flatMap (fun c =>
    if c = '"' || c = '$' || c = '\\' || c = backquote then ['\\', c] else [c]) ++ ['"']

/-- Whether a character has a meaning for the shell wherever it stands. -/
def isActive (c : Char) : Bool :=
  " \t\n'\"\\|&;()<>!*[]?^$\x7b\x7d".toList.contains c || c == backquote

/-- Whether a text has a meaning for the shell. -/
def isActiveIn : (before : Option Char) → Chars → Bool
  | _, [] => false
  | before, c :: rest =>
    isActive c || (c == '~' && (before.isNone || before = some '=' || before = some ':')) ||
      (c == '#' && (before.isNone || before = some ' ' || before = some '\t')) ||
      isActiveIn (some c) rest

/-- As it is, between single quotes, or with codes, as it is needed to be read in a trace. -/
def traced (t : Chars) : Chars :=
  if t.isEmpty then ['\'', '\'']
  else if isActiveIn none t then single t
  else if needsCodes t then coded t
  else t

/-- As the value of a variable is listed. -/
def listed (t : Chars) : Chars :=
  if needsCodes t then coded t else if isActiveIn none t then single t else t

/-- With backslashes, or with codes. -/
def escaped (t : Chars) : Chars :=
  if t.isEmpty then ['\'', '\'']
  else if needsCodes t then coded t
  else
    let protect (before : Option Char) (c : Char) : Bool :=
      isActive c || c == ',' ||
        (c == '~' && (before.isNone || before = some '=' || before = some ':')) ||
        (c == '#' && before.isNone)
    ((none :: t.map some).zip t).flatMap fun (before, c) =>
      if protect before c then ['\\', c] else [c]

end Provision.Shell.Quoted

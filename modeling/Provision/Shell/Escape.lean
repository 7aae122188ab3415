import Provision.Shell.Script
import Provision.Text.Digits

namespace Provision.Shell

/-- What can stand behind a backslash beside the usual letters: the number of a byte in the base of
sixteen or of eight, with or without a zero first, the number of a character, a quote, a capital
letter for the escape character, and a letter that ends all output. -/
structure EscapeStyle where
  hex : Bool
  octal : Bool
  zero : Bool
  unicode : Bool
  quotes : Bool
  capital : Bool
  stops : Bool
  deriving DecidableEq, Repr

namespace EscapeStyle

/-- In a quoted text. -/
def quoted : EscapeStyle := ⟨true, true, false, true, true, true, false⟩

/-- In a format. -/
def format : EscapeStyle := quoted

/-- In a text that is echoed. -/
def echoed : EscapeStyle := ⟨true, false, true, true, false, true, true⟩

/-- In an argument of a format. -/
def argument : EscapeStyle := ⟨true, true, true, true, false, true, true⟩

/-- In a format of a narrow shell. -/
def narrowFormat : EscapeStyle := ⟨false, true, false, false, false, false, false⟩

/-- In a text that a narrow shell echoes. -/
def narrowEchoed : EscapeStyle := ⟨false, true, true, false, false, false, true⟩

/-- In a format of a program. -/
def programFormat : EscapeStyle := ⟨true, true, false, true, true, false, true⟩

/-- In a text that a program echoes. -/
def programEchoed : EscapeStyle := ⟨true, true, true, false, false, false, true⟩

end EscapeStyle

/-- What a backslash and the text behind it stand for: a byte, the end of all output, or no more
than the backslash itself. -/
inductive Escape
  | byte (code : Nat)
  | stop
  | plain

/-- Up to `width` digits of a base. -/
def leadingDigits (base width : Nat) (cs : Chars) : Chars :=
  (cs.take width).takeWhile fun c => (Text.digitValue? c).any (· < base)

def Escape.number (base width skipped : Nat) (cs : Chars) : Escape × Nat :=
  match leadingDigits base width (cs.drop skipped) with
  | [] => (.plain, 0)
  | digits => (.byte ((Text.readNat? base digits).getD 0), skipped + digits.length)

/-- Reads the number of a character, which the plain locale has up to 127. -/
def Escape.ascii (width : Nat) (cs : Chars) : Escape × Nat :=
  match Escape.number 16 width 1 cs with
  | (.byte n, used) => if n < 128 then (.byte n, used) else (.plain, 0)
  | other => other

/-- Reads the text behind a backslash, with the number of characters that belong to it. -/
def Escape.read (style : EscapeStyle) (cs : Chars) : Escape × Nat :=
  match cs.head? with
  | none => (.plain, 0)
  | some 'a' => (.byte 7, 1)
  | some 'b' => (.byte 8, 1)
  | some 'e' => (.byte 27, 1)
  | some 'f' => (.byte 12, 1)
  | some 'n' => (.byte 10, 1)
  | some 'r' => (.byte 13, 1)
  | some 't' => (.byte 9, 1)
  | some 'v' => (.byte 11, 1)
  | some '\\' => (.byte 92, 1)
  | some c =>
    if c = 'E' && style.capital then (.byte 27, 1)
    else if c = 'x' && style.hex then Escape.number 16 2 1 cs
    else if c = 'u' && style.unicode then Escape.ascii 4 cs
    else if c = 'U' && style.unicode then Escape.ascii 8 cs
    else if c = '0' && style.zero then Escape.number 8 4 0 cs
    else if c = 'c' && style.stops then (.stop, 1)
    else if style.quotes && (c = '\'' || c = '"' || c = '?') then (.byte c.toNat, 1)
    else if style.octal then Escape.number 8 3 0 cs
    else (.plain, 0)

/-- The character for a byte, of which the lowest eight bits count. -/
def byte (n : Nat) : Char := Char.ofNat (n % 256)

/-- Replaces what backslashes stand for. The answer tells too whether output is to stop there. -/
def unescape (style : EscapeStyle) : Chars → Chars × Bool
  | [] => ([], false)
  | '\\' :: rest =>
    match Escape.read style rest with
    | (.stop, _) => ([], true)
    | (.byte n, used) =>
      let (text, stop) := unescape style (rest.drop used)
      (byte n :: text, stop)
    | (.plain, _) =>
      let (text, stop) := unescape style rest
      ('\\' :: text, stop)
  | c :: rest =>
    let (text, stop) := unescape style rest
    (c :: text, stop)
termination_by cs => cs.length
decreasing_by all_goals simp; try omega

end Provision.Shell

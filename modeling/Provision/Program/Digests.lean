import Provision.Digest
import Provision.Program.Input

/-!
Programs that write digests of files, and that check such lists.
-/

namespace Provision.Program

open Bytes (toText ofText toBytes)
open Files (FileError)
open Shell (Run)

namespace Digesting

/-- The ways to make a digest. -/
inductive Way
  | turned
  | plain
  | cyclic
  | md5
  | sha1
  | sha224
  | sha256
  | sha384
  | sha512
  deriving DecidableEq

namespace Way

/-- The name of a way in lists that tell it. -/
def label : Way → String
  | .turned => "BSD"
  | .plain => "SYSV"
  | .cyclic => "CRC"
  | .md5 => "MD5"
  | .sha1 => "SHA1"
  | .sha224 => "SHA224"
  | .sha256 => "SHA256"
  | .sha384 => "SHA384"
  | .sha512 => "SHA512"

def named? (word : String) : Option Way :=
  match word with
  | "bsd" => some .turned
  | "sysv" => some .plain
  | "crc" => some .cyclic
  | "md5" => some .md5
  | "sha1" => some .sha1
  | "sha224" => some .sha224
  | "sha256" => some .sha256
  | "sha384" => some .sha384
  | "sha512" => some .sha512
  | _ => none

/-- The ways whose digests stand in lists that can be checked. -/
def strong : List Way := [.md5, .sha1, .sha224, .sha256, .sha384, .sha512]

def bytes (w : Way) (message : List UInt8) : List UInt8 :=
  match w with
  | .md5 => Digest.md5 message
  | .sha1 => Digest.sha1 message
  | .sha224 => Digest.sha224 message
  | .sha256 => Digest.sha256 message
  | .sha384 => Digest.sha384 message
  | .sha512 => Digest.sha512 message
  | _ => []

/-- The digest in digits. -/
def text (w : Way) (content : Chars) : Chars :=
  (w.bytes (toBytes content)).flatMap fun b => Text.hex false 2 b.toNat

/-- The number of digits of a digest. -/
def width : Way → Nat
  | .md5 => 32
  | .sha1 => 40
  | .sha224 => 56
  | .sha256 => 64
  | .sha384 => 96
  | .sha512 => 128
  | _ => 0

end Way

/-- How digests are written and checked. -/
structure Style where
  way : Way
  labelled : Bool := false
  marked : Bool := false
  mark : Char := '\n'
  ignoresMissing : Bool := false
  quiet : Bool := false
  silent : Bool := false
  strict : Bool := false
  warns : Bool := false

/-- Whether a name has a character that would not be read back. -/
def isHard (name : Chars) : Bool := name.any fun c => c = '\\' || c = '\n' || c = '\r'

def escaped (name : Chars) : Chars :=
  name.flatMap fun c => match c with
    | '\\' => ['\\', '\\']
    | '\n' => ['\\', 'n']
    | '\r' => ['\\', 'r']
    | c => [c]

/-- A name whose characters are read back. -/
def unescaped? : Chars → Option Chars
  | [] => some []
  | '\\' :: 'n' :: rest => (unescaped? rest).map ('\n' :: ·)
  | '\\' :: 'r' :: rest => (unescaped? rest).map ('\r' :: ·)
  | '\\' :: '\\' :: rest => (unescaped? rest).map ('\\' :: ·)
  | '\\' :: _ => none
  | c :: rest => (unescaped? rest).map (c :: ·)

/-- A line that tells a digest. -/
def line (s : Style) (name digest : Chars) : Chars :=
  let hard := s.mark = '\n' && isHard name
  let shown := if hard then escaped name else name
  (if hard then ['\\'] else []) ++
    (if s.labelled then ofText s.way.label ++ " (".toList ++ shown ++ ") = ".toList ++ digest
    else digest ++ ' ' :: (if s.marked then '*' else ' ') :: shown) ++ [s.mark]

/-- A line of a list that is checked: the way, the digest and the name. -/
structure Entry where
  way : Way
  digest : Chars
  name : Chars

def isDigest (w : Way) (t : Chars) : Bool :=
  t.length = w.width && t.all fun c => (Text.digitValue? c).isSome

/-- Reads a line of a list that begins with the name of a way. -/
def labelled? (ways : List Way) (t : Chars) : Option Entry := do
  let w ← ways.find? fun w => (ofText w.label).isPrefixOf t
  let rest := t.drop w.label.length
  let rest := if rest.head? = some ' ' then rest.drop 1 else rest
  guard (rest.head? = some '(')
  let inner := rest.drop 1
  let behind := (inner.reverse.takeWhile (· ≠ ')')).reverse
  guard (behind.length < inner.length)
  let name := inner.take (inner.length - behind.length - 1)
  let isBlank (c : Char) : Bool := c = ' ' || c = '\t'
  let afterBlank := behind.dropWhile isBlank
  guard (afterBlank.head? = some '=')
  let digest := (afterBlank.drop 1).dropWhile isBlank
  guard (isDigest w digest)
  return ⟨w, digest, name⟩

/-- Reads a line of a list. -/
def entry? (s : Option Way) (t : Chars) : Option Entry := do
  let isBlank (c : Char) : Bool := c = ' ' || c = '\t'
  let t := t.dropWhile isBlank
  let (hard, t) : Bool × Chars := match t with
    | '\\' :: rest => (true, rest)
    | t => (false, t)
  let plain (w : Way) : Option Entry := do
    let digest := t.takeWhile fun c => !isBlank c
    let rest := t.drop digest.length
    guard (isDigest w digest)
    match rest with
    | _ :: ' ' :: c :: name | _ :: '*' :: c :: name => some ⟨w, digest, c :: name⟩
    | _ :: c :: name => some ⟨w, digest, c :: name⟩
    | _ => none
  let found ← match s with
    | some w => labelled? [w] t <|> plain w
    | none => labelled? Way.strong t
  if hard then return { found with name := ← unescaped? found.name } else return found

/-- What has been seen in a list. -/
structure Tally where
  proper : Nat := 0
  improper : Nat := 0
  unread : Nat := 0
  wrong : Nat := 0
  right : Nat := 0

/-- Checks a line of a list. -/
def checkEntry (program : String) (s : Style) (e : Entry) (t : Tally) : Run Tally := do
  let t := { t with proper := t.proper + 1 }
  let shown := if e.name.contains '\n' then '\\' :: escaped e.name else e.name
  let tell (verdict : String) : Run Unit := do
    let _ ← out program (shown ++ ofText (": " ++ verdict ++ "\n"))
  match ← readOperand e.name with
  | .error .notFound =>
    if s.ignoresMissing then return t
    let _ ← complainOf program e.name .notFound
    if !s.silent then tell "FAILED open or read"
    return { t with unread := t.unread + 1 }
  | .error error =>
    let _ ← complainOf program e.name error
    if !s.silent then tell "FAILED open or read"
    return { t with unread := t.unread + 1 }
  | .ok content =>
    if e.way.text content = e.digest.map Char.toLower then
      if !s.silent && !s.quiet then tell "OK"
      return { t with right := t.right + 1 }
    else
      if !s.silent then tell "FAILED"
      return { t with wrong := t.wrong + 1 }

def checkLines (program shownName : String) (s : Style) (way : Option Way) :
    Nat → List Chars → Tally → Run Tally
  | _, [], t => return t
  | n, l :: rest, t => do
    if l.head? = some '#' then checkLines program shownName s way (n + 1) rest t
    else
      let l := if l.getLast? = some '\r' then l.dropLast else l
      match entry? way l with
      | some e => checkLines program shownName s way (n + 1) rest (← checkEntry program s e t)
      | none =>
        if s.warns then
          let _ ← complain program (shownName ++ ": " ++ toString n ++ ": improperly formatted " ++
            s.way.label ++ " checksum line")
        checkLines program shownName s way (n + 1) rest { t with improper := t.improper + 1 }

/-- A number of things in words. -/
def counted (n : Nat) (one many : String) : String :=
  "WARNING: " ++ toString n ++ " " ++ if n = 1 then one else many

/-- Checks a list. -/
def checkList (program : String) (s : Style) (way : Option Way) (path : Chars) : Run Bool := do
  let name := if path = ['-'] then "'standard input'" else shownPath path
  match ← readOperand path with
  | .error e =>
    let _ ← complain program (name ++ ": " ++ e.reason)
    return false
  | .ok content =>
    let t ← checkLines program name s way 1 (linesOf '\n' content) {}
    if t.proper = 0 then
      let _ ← complain program (name ++ ": no properly formatted checksum lines found")
      return false
    if !s.silent then
      if t.improper ≠ 0 then
        let _ ← complain program (counted t.improper "line is improperly formatted"
          "lines are improperly formatted")
      if t.unread ≠ 0 then
        let _ ← complain program (counted t.unread "listed file could not be read"
          "listed files could not be read")
      if t.wrong ≠ 0 then
        let _ ← complain program (counted t.wrong "computed checksum did NOT match"
          "computed checksums did NOT match")
      if s.ignoresMissing && t.right = 0 then
        let _ ← complain program (name ++ ": no file was verified")
    return t.right ≠ 0 && t.wrong = 0 && t.unread = 0 && (!s.strict || t.improper = 0)

/-- What a sum that is no digest says of a file, which may have no name. -/
def sumText (w : Way) (content : Chars) (name : Option Chars) : Chars :=
  let bytes := toBytes content
  let size := bytes.length
  let behind := match name with
    | some n => ' ' :: n
    | none => []
  let start := match w with
    | .turned =>
      Text.padded 5 (Digest.turnedSum bytes) ++ ' ' ::
        (Nat.toDigits 10 ((size + 1023) / 1024)).leftpad 5 ' '
    | .plain =>
      Nat.toDigits 10 (Digest.plainSum bytes) ++ ' ' :: Nat.toDigits 10 ((size + 511) / 512)
    | _ => Nat.toDigits 10 (Digest.cyclicSum bytes) ++ ' ' :: Nat.toDigits 10 size
  start ++ behind ++ ['\n']

/-- Writes the digests of files. -/
def writeAll (program : String) (s : Style) (isNamed : Bool) (status : Nat) :
    List Chars → Run Nat
  | [] => return status
  | path :: rest => do
    match ← readOperand path with
    | .error e =>
      let _ ← complainOf program path e
      writeAll program s isNamed 1 rest
    | .ok content =>
      let _ ← out program (if Way.strong.contains s.way then line s path (s.way.text content)
        else sumText s.way content (if isNamed then some path else none))
      writeAll program s isNamed status rest

def letters : String := "bctwz"

def names : List String :=
  ["binary|b", "check|c", "ignore-missing", "quiet", "status", "strict", "tag", "text|t", "warn|w",
   "zero|z"]

/-- Does what options ask for, once the way is known. -/
def work (program : String) (way : Option Way) (s : Style) (a : Arguments) : Run Nat := do
  let checks := a.has "c"
  let needsCheck := ["ignore-missing", "status", "warn", "quiet", "strict"]
  if a.has "tag" && !checks && a.lastOf? ["t", "b", "tag"] = some "t" then
    return ← misuse program "--tag does not support --text mode"
  if a.has "z" && checks then
    return ← misuse program "the --zero option is not supported when verifying checksums"
  if a.has "tag" && checks && program ≠ "cksum" then
    return ← misuse program "the --tag option is meaningless when verifying checksums"
  if (a.has "b" || a.has "t") && checks then
    return ← misuse program
      "the --binary and --text options are meaningless when verifying checksums"
  let given (o : String) : Bool := if o = "warn" then a.has "w" else a.has o
  match if checks then none else needsCheck.find? given with
  | some o =>
    return ← misuse program
      ("the --" ++ o ++ " option is meaningful only when verifying checksums")
  | none =>
    if checks then
      let mut good := true
      for path in orInput a.operands do
        if !(← checkList program s way path) then good := false
      return if good then 0 else 1
    else writeAll program s (!a.operands.isEmpty) 0 (orInput a.operands)

/-- How files are treated by options. What says how much is told counts where it stands last. -/
def styleOf (way : Way) (a : Arguments) : Style :=
  let loudness := a.lastOf? ["quiet", "status", "w"]
  { way
    labelled := a.has "tag"
    marked := a.lastOf? ["b", "t"] = some "b"
    mark := if a.has "z" then '\x00' else '\n'
    ignoresMissing := a.has "ignore-missing"
    quiet := loudness = some "quiet"
    silent := loudness = some "status"
    strict := a.has "strict"
    warns := loudness = some "w" }

def digestProgram (way : Way) : Program := fun c args =>
  withArguments c.name (.ofString letters names) 1 false args fun a =>
    work c.name (some way) (styleOf way a) a

end Digesting

open Digesting

def md5sum : Program := digestProgram .md5
def sha1sum : Program := digestProgram .sha1
def sha224sum : Program := digestProgram .sha224
def sha256sum : Program := digestProgram .sha256
def sha384sum : Program := digestProgram .sha384
def sha512sum : Program := digestProgram .sha512

def cksum : Program := fun c args =>
  withArguments c.name
      (.ofString ("a:l:" ++ letters) (["algorithm=|a", "length=|l", "untagged", "debug"] ++ names))
      1 false args fun a => do
    let word := (a.value? "a").map toText
    match word, word.bind Way.named? with
    | some w, none =>
      Run.complain (c.name ++ ": invalid argument " ++ cited (ofText w) ++
        " for '--algorithm'\nValid arguments are:\n" ++
        String.join (["bsd", "sysv", "crc", "md5", "sha1", "sha224", "sha256", "sha384", "sha512",
          "blake2b", "sm3"].map fun n => "  - '" ++ n ++ "'\n") ++
        "Try '" ++ c.name ++ " --help' for more information.")
      return 1
    | _, way =>
      let w := way.getD .cyclic
      let untagged := a.lastOf? ["untagged", "tag"] = some "untagged"
      if a.has "c" && way.isSome && !Way.strong.contains w then
        return ← complain c.name "--check is not supported with --algorithm={bsd,sysv,crc}"
      work c.name way { styleOf w a with labelled := !untagged } a

def sum : Program := fun c args =>
  withArguments c.name (.ofString "rs" ["sysv|s"]) 1 false args fun a =>
    let way : Way := if a.lastOf? ["r", "s"] = some "s" then .plain else .turned
    writeAll c.name { way } (!a.operands.isEmpty) 0 (orInput a.operands)

end Provision.Program

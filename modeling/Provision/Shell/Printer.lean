import Provision.Shell.Grammar

/-!
Commands as the shell shows them again. Inside a function each command begins a line of its own.
-/

namespace Provision.Shell

/-- Where a command is shown: how far its lines are set in, and whether it belongs to a function. -/
structure Layout where
  indent : Nat
  inFunction : Bool

namespace Layout

def deeper (l : Layout) : Layout := { l with indent := l.indent + 4 }

/-- The end of a line and the start of the next one. -/
def newline (l : Layout) : Chars := '\n' :: List.replicate l.indent ' '

end Layout

namespace Printer

/-- The sign behind a command, unless it has one already. -/
def semicolon (text : Chars) : Chars :=
  match text.getLast? with
  | some '&' | some '\n' => []
  | _ => [';']

def direction (d : Direction) : String :=
  match d with
  | .input => "<"
  | .output => ">"
  | .clobber => ">|"
  | .append => ">>"
  | .inputOutput => "<>"
  | .both => "&>"
  | .bothAppend => "&>>"
  | .duplicateInput => "<&"
  | .duplicateOutput => ">&"
  | .hereString => "<<<"
  | .hereDocument _ _ tabs => if tabs then "<<-" else "<<"

/-- A redirection, with the number of its descriptor where that is usual. -/
def redirection : Redirection → Chars
  | .mk descriptor d w =>
    let always := match d with
      | .duplicateInput | .inputOutput => some '0'
      | .duplicateOutput => some '1'
      | _ => none
    let number : Chars := match descriptor with
      | .usual => always.toList
      | .number n => if d = .input && n = 0 || d = .output && n = 1 then [] else Nat.toDigits 10 n
      | .variable name => '\x7b' :: name.toList ++ ['\x7d']
    let sign := (direction d).toList
    match d with
    | .duplicateInput | .duplicateOutput =>
      number ++ (if w.text = ['-'] then ['>', '&'] else sign) ++ w.text
    | .hereDocument delimiter isLiteral _ =>
      number ++ sign ++ if isLiteral then '\'' :: delimiter ++ ['\''] else delimiter
    | _ => number ++ sign ++ ' ' :: w.text

/-- The texts of the here-documents among some redirections. -/
def hereTexts (rs : List Redirection) : Chars :=
  rs.flatMap fun
    | .mk _ (.hereDocument delimiter _ _) w =>
      let text := w.parts.flatMap fun
        | .literal _ t => t
        | .parameter _ (.mk _ name _ _) => '$' :: name.toList
        | _ => []
      '\n' :: text ++ delimiter ++ ['\n']
    | _ => []

def redirections (rs : List Redirection) : Chars :=
  rs.flatMap (fun r => ' ' :: redirection r) ++ hereTexts rs

def assignment : Assignment → Chars
  | .mk name _ index append value =>
    name.toList ++ index ++ (if append then ['+', '='] else ['=']) ++
      match value with
      | .word w => w.text
      | .elements _ text => text

def words (ws : List Word) : Chars := List.intercalate [' '] (ws.map (·.text))

def condition : Condition → Chars
  | .word w => "-n ".toList ++ w.text
  | .unary operator w => operator.toList ++ ' ' :: w.text
  | .binary operator a b => a.text ++ ' ' :: operator.toList ++ ' ' :: b.text
  | .not c => '!' :: ' ' :: condition c
  | .both a b => condition a ++ " && ".toList ++ condition b
  | .either a b => condition a ++ " || ".toList ++ condition b
  | .enclosed c => "( ".toList ++ condition c ++ " )".toList

/-- Whether a command stands between braces. -/
def isGroup : Command → Bool
  | .group _ | .redirected _ (.group _) _ => true
  | _ => false

/-- The body of a function, which stands between braces by itself or is put there. -/
def enclosed (l : Layout) (isGroup : Bool) (text deeper : Chars) : Chars :=
  if isGroup then text else "\x7b ".toList ++ l.deeper.newline ++ deeper ++ l.newline ++ ['\x7d']

/-- A text with a semicolon behind it. -/
def closed (text : Chars) : Chars := text ++ semicolon text

/-- The commands of a block on lines of their own. -/
def block (l : Layout) (body : Chars) : Chars := l.deeper.newline ++ closed body

/-- The rest of a loop over words. -/
def throughout (l : Layout) (name : String) (items : Option (List Word)) (body : Chars) : Chars :=
  name.toList ++ " in ".toList ++
    (match items with
      | some ws => words ws
      | none => "\"$@\"".toList) ++ ';' :: l.newline ++ "do".toList ++ block l body ++
    l.newline ++ "done".toList

mutual

def command (l : Layout) : Command → Chars
  | .simple _ as ws rs =>
    let declares := match ws with
      | .mk _ name :: _ => Reader.declarations.contains (String.ofList name)
      | [] => false
    let texts := if declares then ws.map (·.text) ++ as.map assignment
      else as.map assignment ++ ws.map (·.text)
    let start := List.intercalate [' '] texts
    let rest := redirections rs
    start ++ if start.isEmpty then rest.drop 1 else rest
  | .redirected _ c rs => command l c ++ redirections rs
  | .pipeline negated stages =>
    (if negated then ['!', ' '] else []) ++ pipes l stages
  | .timed portable c =>
    (if portable then "time -p ".toList else "time ".toList) ++ command l c
  | .both a b => command l a ++ " && ".toList ++ command l b
  | .either a b => command l a ++ " || ".toList ++ command l b
  | .background c => command l c ++ [' ', '&']
  | .subshell body => "( ".toList ++ list l body ++ " )".toList
  | .group body =>
    if l.inFunction then
      "\x7b ".toList ++ l.deeper.newline ++ list l.deeper body ++ l.newline ++ ['\x7d']
    else "\x7b ".toList ++ closed (list l body) ++ " \x7d".toList
  | .branch condition body otherwise =>
    "if ".toList ++ closed (list l condition) ++ " then".toList ++ block l (list l.deeper body) ++
      (if otherwise.isEmpty then [] else l.newline ++ "else".toList ++ block l (list l.deeper otherwise)) ++
      l.newline ++ "fi".toList
  | .loop negated condition body =>
    (if negated then "until " else "while ").toList ++ closed (list l condition) ++
      " do".toList ++ block l (list l.deeper body) ++ l.newline ++ "done".toList
  | .each _ name items body => "for ".toList ++ throughout l name items (list l.deeper body)
  | .select _ name items body => "select ".toList ++ throughout l name items (list l.deeper body)
  | .count _ a b c body =>
    "for ((".toList ++ a.text ++ "; ".toList ++ b.text.dropWhile (· == ' ') ++ "; ".toList ++
      c.text.dropWhile (· == ' ') ++ "))".toList ++ l.newline ++ "do".toList ++ block l (list l.deeper body) ++
      l.newline ++ "done".toList
  | .choice _ subject arms =>
    "case ".toList ++ subject.text ++ " in ".toList ++ choices l arms ++ l.newline ++ "esac".toList
  | .test _ c => "[[ ".toList ++ condition c ++ " ]]".toList
  | .arithmetic _ w => "((".toList ++ w.text ++ "))".toList
  | .function _ name body =>
    "function ".toList ++ name.toList ++ " () ".toList ++ l.newline ++
      enclosed l (isGroup body) (command l body) (command l.deeper body)
  | .companion name c => "coproc ".toList ++ name.toList ++ ' ' :: command l c

def pipes (l : Layout) : List Command → Chars
  | [] => []
  | [c] => command l c
  | c :: cs => command l c ++ " | ".toList ++ pipes l cs

def choices (l : Layout) : List (List Word × List Command × String) → Chars
  | [] => []
  | (patterns, body, sign) :: rest =>
    l.deeper.newline ++ List.intercalate " | ".toList (patterns.map (·.text)) ++ ')' ::
      (if body.isEmpty then ['\n'] else l.deeper.deeper.newline ++ list l.deeper.deeper body) ++
      l.deeper.newline ++ sign.toList ++ choices l rest

/-- Commands one after the other. -/
def list (l : Layout) : List Command → Chars
  | [] => []
  | [c] => command l c
  | c :: cs =>
    let text := command l c
    let border : Chars := match c with
      | .background _ => [' ']
      | _ =>
        let start : Chars := if text.getLast? = some '\n' then [] else [';']
        start ++ if l.inFunction then l.newline else [' ']
    text ++ border ++ list l cs

end

end Printer

/-- A command as it is shown in one piece. -/
def Command.shown (c : Command) : Chars := Printer.command ⟨0, false⟩ c

/-- A function as it is shown. -/
def Command.definition (name : String) (body : Command) : Chars :=
  let l : Layout := ⟨0, true⟩
  name.toList ++ " () \n".toList ++
    Printer.enclosed l (Printer.isGroup body) (Printer.command l body)
      (Printer.command l.deeper body) ++ ['\n']

end Provision.Shell

import Provision.Records.Basic
import Provision.Records.Token

/-!
Reading programs that go through records.
-/

namespace Provision.Records

/-- How far a program is read: the present token with its line and the text from it on, what follows,
the parentheses and braces that are open, whether a list of what is printed is read, the parameters
of the present function, which names stand for tables and which for single values, and what is wrong
so far. -/
structure Reading where
  line : Nat := 1
  token : Token := .newline
  start : Chars := []
  rest : Chars
  parens : Nat := 0
  braces : Nat := 0
  printing : Bool := false
  own : List String := []
  function? : Option String := none
  loops : Nat := 0
  inRule : Bool := false
  kinds : List (String × Bool) := []
  calls : List (Nat × String × Nat) := []
  faults : List Fault := []
  hasPassed : Bool := false

abbrev Read := StateT Reading (Except (List Fault))

namespace Read

/-- Gives up, with what is wrong now behind all that was wrong before. -/
def refuse {α : Type} (f : Fault) : Read α := do throw ((← get).faults ++ [f])

/-- Goes on to the next token. One that closes what is not open is passed over. -/
def advanceWithin : Nat → Read Unit
  | 0 => return
  | room + 1 => do
    let s ← get
    let (rest, lines) := Token.skipBlanks (s.rest.length + 1) s.rest
    let line := s.line + lines + match s.token with
      | .newline => if s.start.isEmpty then 0 else 1
      | _ => 0
    match Token.read line rest with
    | .error e => refuse e
    | .ok (token, after) =>
      let s := { s with line, token, start := rest, rest := after }
      let isExtra := (token.isSign ")" && s.parens = 0) || (token.isSign "\x7d" && s.braces = 0)
      match isExtra, token with
      | true, .sign sign =>
        set { s with faults := s.faults ++ [Fault.extra line sign], hasPassed := true }
        advanceWithin room
      | _, _ => set s

def advance : Read Unit := do
  modify fun s => { s with hasPassed := false }
  advanceWithin ((← get).rest.length + 1)

/-- Fails at the present token. -/
def fail {α : Type} : Read α := do
  let s ← get
  match s.token with
  | .finish => refuse (if s.braces = 0 then .near s.line "end of file".toList else .missingBrace s.line)
  | t =>
    let isStop := match t with
      | .newline => true
      | .sign u => u = "\x7d" || u = ";"
      | _ => false
    if isStop && s.parens ≠ 0 then refuse (.missing s.line ')' t.shown)
    else refuse (.near s.line t.shown)

def sees (sign : String) : Read Bool := return (← get).token.isSign sign

def seesWord (word : String) : Read Bool := return (← get).token.isWord word

/-- Takes a sign if it comes next. Parentheses and braces are counted. -/
def accept (sign : String) : Read Bool := do
  if !(← sees sign) then return false
  modify fun s => match sign with
    | "(" => { s with parens := s.parens + 1 }
    | ")" => { s with parens := s.parens - 1 }
    | "\x7b" => { s with braces := s.braces + 1 }
    | "\x7d" => { s with braces := s.braces - 1 }
    | _ => s
  advance
  return true

def acceptWord (word : String) : Read Bool := do
  if !(← seesWord word) then return false
  advance
  return true

def expect (sign : String) : Read Unit := do
  if !(← accept sign) then fail

/-- Drops ends of lines. -/
def newlines : Nat → Read Unit
  | 0 => return
  | room + 1 => do
    match (← get).token with
    | .newline =>
      advance
      newlines room
    | _ => return

def manyLines : Nat := 1000000

def lineEnds : Read Unit := newlines manyLines

/-- Notes that a shared name or a parameter stands for a table or for a single value. -/
def note (name : String) (isTable : Bool) : Read Name := do
  let s ← get
  let known := s.kinds.lookup name
  match known with
  | some k =>
    if k = isTable then pure ()
    else if k then refuse (.isTable s.line name)
    else refuse (.isNoTable s.line name)
  | none => set { s with kinds := (name, isTable) :: s.kinds }
  return match s.own.idxOf? name with
    | some i => .own i
    | none => .shared name

/-- A name that can stand for either. -/
def nameOf (name : String) : Read Name := do
  return match (← get).own.idxOf? name with
    | some i => .own i
    | none => .shared name

/-- The name that comes next. -/
def name : Read String := do
  match (← get).token with
  | .name n =>
    advance
    return n
  | _ => fail

def assignments : List (String × Option Arithmetic) :=
  [("=", none), ("+=", some .add), ("-=", some .subtract), ("*=", some .multiply),
   ("/=", some .divide), ("%=", some .remainder), ("^=", some .power)]

def relations : List (String × Relation) :=
  [("<", .less), ("<=", .lessOrEqual), ("==", .equal), ("!=", .unequal), (">", .more),
   (">=", .moreOrEqual)]

/-- The sign that comes next if it is one of some. -/
def oneOf {α : Type} (table : List (String × α)) : Read (Option α) := do
  match (← get).token with
  | .sign u => return table.lookup u
  | _ => return none

/-- Whether an operand can begin with the present token, where another one stands before it. -/
def beginsOperand : Read Bool := do
  let s ← get
  return match s.token with
    | .number .. | .text _ | .builtin _ | .called _ | .name _ => true
    | .sign u => ["$", "(", "!", "++", "--"].contains u
    | _ => false

/-- Reads a regular expression behind its slash. -/
def regular : Read Regular := do
  let s ← get
  match Token.readSlashed (s.start.length + 1) false (s.start.drop 1) with
  | none => refuse (.runawayRegular s.line ((s.start.takeWhile (· ≠ '\n')).take 11))
  | some (t, rest) =>
    match readRegular t with
    | .error reason => refuse (.regular s.line reason t)
    | .ok r =>
      set { s with rest, token := .sign "/" }
      advance
      return r

/-- Checks the arguments of a function that there is always. -/
def builtinCall (line : Nat) (f : String) (args : List Expr) : Read Expr := do
  let (least, most) := (Token.builtins.lookup f).getD (0, 0)
  if args.length < least || most < args.length then refuse (.argumentCount line f)
  match f, args with
  | "split", [_, .place (.variable _)] | "split", [_, .place (.variable _), _] =>
    return .builtin f args
  | "split", _ => fail
  | "sub", [_, _, .place _] | "gsub", [_, _, .place _] | "sub", [_, _] | "gsub", [_, _] =>
    return .builtin f args
  | "sub", _ | "gsub", _ => fail
  | _, _ => return .builtin f args

mutual

/-- Reads expressions between commas, up to a closing parenthesis or bracket. A name that stands
alone can be that of a table. -/
def list : (room : Nat) → (names : Bool) → Read (List Expr)
  | 0, _ => fail
  | room + 1, names => do
    let s ← get
    let alone : Option String ← match names, s.token with
      | true, .name n => do
        advance
        if ← sees "," then pure (some n)
        else if ← sees ")" then pure (some n)
        else
          set s
          pure none
      | _, _ => pure none
    let e ← match alone with
      | some n => do pure (Expr.place (.variable (← nameOf n)))
      | none => expr room
    if ← accept "," then
      lineEnds
      return e :: (← list room names)
    else return [e]

/-- Reads an expression. -/
def expr : (room : Nat) → Read Expr
  | 0 => fail
  | room + 1 => do
    let c ← either room
    if ← accept "?" then
      lineEnds
      let a ← expr room
      lineEnds
      expect ":"
      lineEnds
      return .choose c a (← expr room)
    else return c

def either : (room : Nat) → Read Expr
  | 0 => fail
  | room + 1 => do
    let a ← both room
    eitherRest room a

def eitherRest : (room : Nat) → Expr → Read Expr
  | 0, _ => fail
  | room + 1, a => do
    if ← accept "||" then
      lineEnds
      let b ← both room
      eitherRest room (.either a b)
    else return a

def both : (room : Nat) → Read Expr
  | 0 => fail
  | room + 1 => do
    let a ← membership room
    bothRest room a

def bothRest : (room : Nat) → Expr → Read Expr
  | 0, _ => fail
  | room + 1, a => do
    if ← accept "&&" then
      lineEnds
      let b ← membership room
      bothRest room (.both a b)
    else return a

def membership : (room : Nat) → Read Expr
  | 0 => fail
  | room + 1 => do
    let a ← matching room
    membershipRest room a

def membershipRest : (room : Nat) → Expr → Read Expr
  | 0, _ => fail
  | room + 1, a => do
    if ← acceptWord "in" then
      let n ← name
      membershipRest room (.member [a] (← note n true))
    else return a

def matching : (room : Nat) → Read Expr
  | 0 => fail
  | room + 1 => do
    let a ← comparison room
    matchingRest room a

def matchingRest : (room : Nat) → Expr → Read Expr
  | 0, _ => fail
  | room + 1, a => do
    match ← oneOf [("~", false), ("!~", true)] with
    | some isNegated =>
      advance
      let b ← comparison room
      matchingRest room (.fits isNegated a b)
    | none => return a

def comparison : (room : Nat) → Read Expr
  | 0 => fail
  | room + 1 => do
    let a ← assignment room
    comparisonRest room a

def comparisonRest : (room : Nat) → Expr → Read Expr
  | 0, _ => fail
  | room + 1, a => do
    let s ← get
    let isRedirection := s.printing && s.parens = 0 && s.token.isSign ">"
    match ← oneOf relations with
    | some r =>
      if isRedirection then return a
      advance
      let b ← assignment room
      comparisonRest room (.compare r a b)
    | none => return a

/-- Reads operands that are joined. If it is a place alone, a value can be put there. -/
def assignment : (room : Nat) → Read Expr
  | 0 => fail
  | room + 1 => do
    let a ← sum room
    match a, ← oneOf assignments with
    | .place p, some op =>
      advance
      lineEnds
      return .assign p op (← expr room)
    | _, _ => joinRest room a

def joinRest : (room : Nat) → Expr → Read Expr
  | 0, _ => fail
  | room + 1, a => do
    if ← beginsOperand then
      let b ← sum room
      joinRest room (.join a b)
    else return a

def sum : (room : Nat) → Read Expr
  | 0 => fail
  | room + 1 => do
    let a ← product room
    sumRest room a

def sumRest : (room : Nat) → Expr → Read Expr
  | 0, _ => fail
  | room + 1, a => do
    match ← oneOf [("+", Arithmetic.add), ("-", .subtract)] with
    | some op =>
      advance
      let b ← product room
      sumRest room (.arithmetic op a b)
    | none => return a

def product : (room : Nat) → Read Expr
  | 0 => fail
  | room + 1 => do
    let a ← unary room
    productRest room a

def productRest : (room : Nat) → Expr → Read Expr
  | 0, _ => fail
  | room + 1, a => do
    match ← oneOf [("*", Arithmetic.multiply), ("/", .divide), ("%", .remainder)] with
    | some op =>
      advance
      let b ← unary room
      productRest room (.arithmetic op a b)
    | none => return a

def unary : (room : Nat) → Read Expr
  | 0 => fail
  | room + 1 => do
    if ← accept "!" then return .negated (← unary room)
    else if ← accept "-" then return .minus (← unary room)
    else if ← accept "+" then return .plus (← unary room)
    else
      let a ← power room
      pipeRest room a

def pipeRest : (room : Nat) → Expr → Read Expr
  | 0, _ => fail
  | room + 1, a => do
    let s ← get
    if s.token.isSign "|" && !(s.printing && s.parens = 0) then
      advance
      if !(← acceptWord "getline") then fail
      let into ← target? room
      pipeRest room (.fetch .command (some a) into)
    else return a

def power : (room : Nat) → Read Expr
  | 0 => fail
  | room + 1 => do
    let a ← counted room
    if ← accept "^" then return .arithmetic .power a (← exponent room)
    else return a

def exponent : (room : Nat) → Read Expr
  | 0 => fail
  | room + 1 => do
    if ← accept "-" then return .minus (← exponent room)
    else if ← accept "+" then return .plus (← exponent room)
    else if ← accept "!" then return .negated (← exponent room)
    else power room

/-- Reads an operand with a sign behind it that counts it up or down. -/
def counted : (room : Nat) → Read Expr
  | 0 => fail
  | room + 1 => do
    let a ← primary room
    match a, ← oneOf [("++", true), ("--", false)] with
    | .place p, some up =>
      advance
      return .step p up false
    | _, _ => return a

/-- The place to which a sign before or behind it belongs. -/
def placeFrom : (room : Nat) → Read Place
  | 0 => fail
  | room + 1 => do
    match ← primary room with
    | .place p => return p
    | _ => fail

/-- Where a fetched record goes, if that is told. -/
def target? : (room : Nat) → Read (Option Place)
  | 0 => fail
  | room + 1 => do
    match (← get).token with
    | .name _ | .sign "$" => return some (← placeFrom room)
    | _ => return none

def primary : (room : Nat) → Read Expr
  | 0 => fail
  | room + 1 => do
    let s ← get
    match s.token with
    | .number x _ =>
      advance
      return .number x
    | .text t =>
      advance
      return .text t
    | .name n =>
      advance
      if ← accept "[" then
        let a ← note n true
        let before := (← get).printing
        modify fun s => { s with printing := false }
        let subscripts ← list room false
        modify fun s => { s with printing := before }
        expect "]"
        return .place (.element a subscripts)
      else return .place (.variable (← note n false))
    | .called f =>
      advance
      expect "("
      lineEnds
      let args ← if ← sees ")" then pure [] else list room true
      lineEnds
      expect ")"
      modify fun t => { t with calls := (s.line, f, args.length) :: t.calls }
      return .call f args
    | .builtin f =>
      advance
      let args ←
        if ← accept "(" then
          lineEnds
          let args ← if ← sees ")" then pure [] else list room true
          lineEnds
          expect ")"
          pure args
        else if f = "length" then pure []
        else fail
      builtinCall s.line f args
    | .word "getline" =>
      advance
      let into ← target? room
      if ← accept "<" then return .fetch .file (some (← power room)) into
      else return .fetch .main none into
    | .sign "/" | .sign "/=" => return .regular (← regular)
    | .sign "$" =>
      advance
      if ← accept "++" then
        return .place (.field (.step (← placeFrom room) true true))
      else if ← accept "--" then
        return .place (.field (.step (← placeFrom room) false true))
      else if ← accept "-" then return .place (.field (.minus (← primary room)))
      else return .place (.field (← primary room))
    | .sign "++" =>
      advance
      return .step (← placeFrom room) true true
    | .sign "--" =>
      advance
      return .step (← placeFrom room) false true
    | .sign "-" =>
      advance
      return .minus (← primary room)
    | .sign "+" =>
      advance
      return .plus (← primary room)
    | .sign "!" =>
      advance
      return .negated (← unary room)
    | .sign "(" =>
      let _ ← accept "("
      lineEnds
      let es ← list room false
      lineEnds
      expect ")"
      match es with
      | [e] => return .group e
      | es =>
        if ← acceptWord "in" then
          let n ← name
          return .member es (← note n true)
        else fail
    | _ => fail

end

/-! ## Statements -/

/-- Ends a statement: by a semicolon, at the end of a line, or before a closing brace. -/
def ender : Read Unit := do
  match (← get).token with
  | .sign ";" =>
    advance
    lineEnds
  | .newline => lineEnds
  | .sign "\x7d" => return
  | _ => fail

/-- Where output goes, if that is told. -/
def goal? (room : Nat) : Read (Option (Sink × Expr)) := do
  match ← oneOf [(">", Sink.file), (">>", .ending), ("|", .command)] with
  | some s =>
    modify fun s => { s with printing := false }
    advance
    return some (s, ← expr room)
  | none => return none

/-- Whether the present token ends what is printed. -/
def endsPrint : Read Bool := do
  return match (← get).token with
    | .newline | .finish => true
    | .sign u => [";", "\x7d", ">", ">>", "|"].contains u
    | _ => false

/-- What is printed: expressions that may stand in parentheses. -/
def printed (room : Nat) : Read (List Expr × Option (Sink × Expr)) := do
  modify fun s => { s with printing := true }
  let whole ← get
  let args ←
    if ← endsPrint then pure []
    else if whole.token.isSign "(" then
      let inner : Read (List Expr) := do
        let _ ← accept "("
        lineEnds
        let es ← if ← sees ")" then pure [] else list room false
        lineEnds
        expect ")"
        if ← endsPrint then return es else fail
      match inner.run whole with
      | .ok (es, s) => do
        set s
        pure es
      | .error _ => list room false
    else list room false
  let goal ← goal? room
  modify fun s => { s with printing := false }
  return (args, goal)

/-- An expression before the end of a statement, if there is one. -/
def optional (room : Nat) : Read (Option Expr) := do
  match (← get).token with
  | .newline | .sign ";" | .sign "\x7d" | .finish => return none
  | _ => return some (← expr room)

/-- Reads a statement that has no others in it, without its end. -/
def simple (room : Nat) : Read Statement := do
  let s ← get
  match s.token with
  | .word "print" =>
    advance
    let (args, goal) ← printed room
    return .print args goal
  | .word "printf" =>
    advance
    let (args, goal) ← printed room
    if args.isEmpty then refuse (.noArguments s.line "printf")
    return .printFormatted args goal
  | .word "delete" =>
    advance
    let n ← name
    let a ← note n true
    if ← accept "[" then
      let subscripts ← list room false
      expect "]"
      return .delete a subscripts
    else return .delete a []
  | .word "next" =>
    if !s.inRule && s.function?.isNone then refuse (.outside s.line "improper use of next")
    advance
    return .next
  | .word "nextfile" =>
    if !s.inRule && s.function?.isNone then refuse (.outside s.line "improper use of nextfile")
    advance
    return .nextFile
  | .word "exit" =>
    advance
    return .exit (← optional room)
  | .word "return" =>
    if s.function?.isNone then refuse (.outside s.line "return outside function body")
    advance
    return .give (← optional room)
  | .word "break" =>
    if s.loops = 0 then refuse (.outside s.line "break statement outside of loop")
    advance
    return .stop
  | .word "continue" =>
    if s.loops = 0 then refuse (.outside s.line "continue statement outside of loop")
    advance
    return .again
  | _ => return .expr (← expr room)

/-- The head of a loop over the keys of a table, if there is one. -/
def eachHead? : Read (Option (Name × Name)) := do
  let s ← get
  match s.token with
  | .name v =>
    advance
    if ← acceptWord "in" then
      match (← get).token with
      | .name a =>
        advance
        if ← sees ")" then
          return some (← note v false, ← note a true)
        else
          set s
          return none
      | _ =>
        set s
        return none
    else
      set s
      return none
  | _ => return none

mutual

/-- Reads statements up to a closing brace. -/
def statements : (room : Nat) → Read (List Statement)
  | 0 => fail
  | room + 1 => do
    lineEnds
    match (← get).token with
    | .sign "\x7d" =>
      let _ ← accept "\x7d"
      return []
    | .finish => fail
    | .sign ";" =>
      advance
      statements room
    | _ =>
      let s ← statement room
      return s :: (← statements room)

/-- Reads the statement that belongs to a loop. -/
def looped : (room : Nat) → Read Statement
  | 0 => fail
  | room + 1 => do
    lineEnds
    modify fun s => { s with loops := s.loops + 1 }
    let body ← statement room
    modify fun s => { s with loops := s.loops - 1 }
    return body

/-- Reads a statement with its end. -/
def statement : (room : Nat) → Read Statement
  | 0 => fail
  | room + 1 => do
    let s ← get
    match s.token with
    | .sign "\x7b" =>
      let _ ← accept "\x7b"
      let body ← statements room
      lineEnds
      return .block body
    | .sign ";" =>
      advance
      lineEnds
      return .block []
    | .newline =>
      lineEnds
      return .block []
    | .sign "\x7d" => return .block []
    | .word "if" =>
      advance
      expect "("
      let c ← expr room
      expect ")"
      lineEnds
      let yes ← statement room
      lineEnds
      if ← acceptWord "else" then
        lineEnds
        return .choice c yes (some (← statement room))
      else return .choice c yes none
    | .word "while" =>
      advance
      expect "("
      let c ← expr room
      expect ")"
      if ← sees ";" then
        advance
        lineEnds
        return .whileTrue c (.block [])
      else return .whileTrue c (← looped room)
    | .word "do" =>
      advance
      let body ← looped room
      lineEnds
      if !(← acceptWord "while") then fail
      expect "("
      let c ← expr room
      expect ")"
      ender
      return .doWhile body c
    | .word "for" =>
      advance
      expect "("
      match ← eachHead? with
      | some (v, a) =>
        expect ")"
        return .each v a (← looped room)
      | none =>
        let start ← if ← sees ";" then pure none else do pure (some (← simple room))
        expect ";"
        lineEnds
        let c ← if ← sees ";" then pure none else do pure (some (← expr room))
        expect ";"
        lineEnds
        let step ← if ← sees ")" then pure none else do pure (some (← simple room))
        expect ")"
        if ← sees ";" then
          advance
          lineEnds
          return .loop start c step (.block [])
        else return .loop start c step (← looped room)
    | _ =>
      let s ← simple room
      ender
      return s

end

/-! ## Programs -/

/-- Reads the names of parameters. -/
def parameters : (room : Nat) → Read (List String)
  | 0 => fail
  | room + 1 => do
    let n ← name
    if ← accept "," then
      lineEnds
      return n :: (← parameters room)
    else return [n]

/-- Reads a block with its braces. -/
def body (room : Nat) : Read (List Statement) := do
  if !(← accept "\x7b") then fail
  statements room

/-- Reads a function behind its word. -/
def function (room : Nat) : Read Function := do
  let s ← get
  let f ← match s.token with
    | .name n | .called n => do
      advance
      pure n
    | _ => fail
  expect "("
  let own ← if ← sees ")" then pure [] else parameters room
  expect ")"
  match own.find? fun n => 1 < own.count n with
  | some n => refuse (.parameterTwice s.line n)
  | none => pure ()
  lineEnds
  let kinds := (← get).kinds
  modify fun s => { s with
    own, function? := some f, kinds := s.kinds.filter fun k => !own.contains k.1 }
  let b ← body room
  modify fun s => { s with
    own := [], function? := none
    kinds := s.kinds.filter (fun k => !own.contains k.1) ++
      kinds.filter fun k => own.contains k.1 }
  return ⟨f, own.length, b⟩

/-- Passes over all up to an opening brace, and says whether one was found. -/
def passToBlock : (room : Nat) → Read Bool
  | 0 => return false
  | room + 1 => do
    let s ← get
    match s.token with
    | .finish => return false
    | t =>
      if t.isSign "\x7b" then return true
      advance
      passToBlock room

/-- Passes over the sign that may follow a part, and the empty lines behind it. -/
def partEnds (room : Nat) : Read Unit := do
  if !(← get).hasPassed then discard <| accept ";"
  emptyLines room
where
  emptyLines : Nat → Read Unit
    | 0 => return
    | room + 1 => do
      let s ← get
      match s.hasPassed, s.token with
      | false, .newline =>
        advance
        emptyLines room
      | _, _ => return

/-- Reads the parts of a program. Where none can begin this is noted, and the reading goes on at
the next block. -/
def parts : (room : Nat) → Program → Read Program
  | 0, _ => fail
  | room + 1, p => do
    let s ← get
    match s.token with
    | .finish => return p
    | .newline | .sign ";" =>
      set { s with faults := s.faults ++ [Fault.near s.line s.token.shown] }
      if !(← passToBlock room) then throw (← get).faults
      discard <| body room
      partEnds room
      parts room p
    | .word "BEGIN" =>
      advance
      let b ← body room
      partEnds room
      parts room { p with beginning := p.beginning ++ b }
    | .word "END" =>
      advance
      let b ← body room
      partEnds room
      parts room { p with ending := p.ending ++ b, hasEnding := true }
    | .word "function" =>
      advance
      let f ← function room
      partEnds room
      if p.functions.any (·.name = f.name) then refuse (.twice s.line f.name)
      parts room { p with functions := p.functions ++ [f] }
    | _ =>
      let c ← if ← sees "\x7b" then pure Condition.always
        else do
          let a ← expr room
          if ← accept "," then
            lineEnds
            pure (.between a (← expr room))
          else pure (.when a)
      let b ←
        if ← sees "\x7b" then do
          modify fun s => { s with inRule := true }
          let b ← body room
          modify fun s => { s with inRule := false }
          partEnds room
          pure (some b)
        else do
          match (← get).token with
          | .newline | .sign ";" =>
            advance
            partEnds.emptyLines room
            pure none
          | .finish => pure none
          | _ => fail
      parts room { p with rules := p.rules ++ [(c, b)] }

end Read

/-- Reads a program. Each function that is called has to be there, and takes no more than its
parameters. -/
def Program.ofChars (text : Chars) : Except (List Fault) Program := do
  let room := 40 * text.length + 100
  let start : Reading := { rest := text ++ ['\n'] }
  let (p, s) ← (do Read.advance; Read.partEnds.emptyLines room; Read.parts room ⟨[], [], [], false, []⟩).run start
  if !s.faults.isEmpty then throw s.faults
  for (line, f, n) in s.calls.reverse do
    match p.functions.find? (·.name = f) with
    | none => throw [.unknownFunction s.line f]
    | some g => if g.arity < n then throw [.tooMany line f]
  return p

end Provision.Records

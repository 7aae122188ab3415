import Provision.Document.Header
import Provision.Document.Line

namespace Provision.Document

/-- A target or a recipe whose methods are being read. -/
structure Declaration where
  heading : Heading
  line : Nat
  methods : List MethodBody
  deriving DecidableEq, Repr

/-- A declaration with methods becomes an item. -/
def Declaration.close (d : Declaration) : Except ParseError Item :=
  match d.heading with
  | .target name =>
    if d.methods.isEmpty then .error ⟨d.line, 1, .targetWithoutMethods name⟩
    else .ok (.target name d.methods d.line)
  | .recipe name parameters column =>
    if d.methods.isEmpty then .error ⟨d.line, column, .recipeWithoutMethods name⟩
    else .ok (.recipe name parameters d.methods d.line)

def Declaration.add (d : Declaration) (b : MethodBody) : Declaration :=
  { d with methods := d.methods ++ [b] }

/-- A method whose actions stand on the lines below its header, which is indented by `indent`. -/
structure Block where
  declaration : Declaration
  body : MethodBody
  indent : Nat
  deriving DecidableEq, Repr

def Block.add (b : Block) (action : Action) : Block :=
  { b with body := { b.body with actions := b.body.actions ++ [action] } }

/-- The declaration with the method of the block at its end. -/
def Block.close (b : Block) : Declaration :=
  b.declaration.add b.body

/-- Where an invocation stands: right after the name of a target, on the line of a method header,
or among the actions of a block. -/
inductive Place
  | shortcut (name : String) (line : Nat)
  | inline (declaration : Declaration) (method : Method) (line : Nat)
  | block (block : Block)
  deriving DecidableEq, Repr

/-- An invocation whose closing parenthesis has not been read. It began at `line` and `column`. -/
structure OpenInvocation where
  name : List Char
  inner : List Char
  depth : Nat
  line : Nat
  column : Nat
  deriving DecidableEq, Repr

/-- What the next line can continue. -/
inductive Mode
  | top
  | methods (declaration : Declaration)
  | block (block : Block)
  | invocation (place : Place) (call : OpenInvocation)
  deriving DecidableEq, Repr

/-- The finished items, and what is being read. -/
structure Reader where
  items : List Item
  mode : Mode
  deriving DecidableEq, Repr

namespace Reader

def start : Reader := ⟨[], .top⟩

/-- Puts a finished action in its place. After a target's name a script is out of place. -/
def put (items : List Item) (column : Nat) (action : Action) :
    Place → Except ParseError Reader
  | .shortcut name line =>
    match action with
    | .call invocation => .ok ⟨items ++ [.shortcut name invocation line], .top⟩
    | .shell script => .error ⟨line, column, .invocationExpected name script⟩
  | .inline declaration method line =>
    .ok ⟨items, .methods (declaration.add ⟨method, [action], line⟩)⟩
  | .block block => .ok ⟨items, .block (block.add action)⟩

/-- Reads a statement that begins at a column of a line. -/
def readStatement (items : List Item) (line column : Nat) (text : List Char) (place : Place) :
    Except ParseError Reader :=
  match statement text with
  | .action action => put items column action place
  | .unclosed name inner depth => .ok ⟨items, .invocation place ⟨name, inner, depth, line, column⟩⟩

/-- Reads a line on which an item begins. -/
def readItem (items : List Item) (line : Line) : Except ParseError Reader :=
  let text := dropAnyComment line.text
  if line.indent ≠ 0 then .error ⟨line.number, line.indent + 1, .indentedItem⟩
  else
    match recipeHeading? text with
    | some rest => do
      let heading ← readRecipeHeading line.number text rest
      return ⟨items, .methods ⟨heading, line.number, []⟩⟩
    | none =>
      match splitHeading? line.text with
      | some (name, rest) =>
        let name := String.ofList name
        let shortcut := Text.trim (dropComment rest)
        if shortcut.isEmpty then .ok ⟨items, .methods ⟨.target name, line.number, []⟩⟩
        else
          let column := Text.width line.text - Text.width rest + 1
          readStatement items line.number column shortcut (.shortcut name line.number)
      | none => do
        match ← readDependency line.number text with
        | some item => return ⟨items ++ [item], .top⟩
        | none => throw ⟨line.number, 1, .unknownItem (String.ofList line.text)⟩

/-- Reads a line with the header of a method, which may hold the only action of the method. -/
def readMethod (items : List Item) (declaration : Declaration) (line : Line) :
    Except ParseError Reader :=
  match splitHeading? line.text with
  | none => .error ⟨line.number, line.indent + 1, .methodExpected (String.ofList line.text)⟩
  | some (name, rest) =>
    match Method.ofName? (String.ofList name) with
    | none => .error ⟨line.number, line.indent + 1, .unknownMethod (String.ofList name)⟩
    | some method =>
      let text := Text.trim rest
      if text.isEmpty || text.head? == some '#' then
        .ok ⟨items, .block ⟨declaration, ⟨method, [], line.number⟩, line.indent⟩⟩
      else
        let column :=
          line.indent + (Text.width line.text - Text.width (Text.trimStart rest)) + 1
        readStatement items line.number column text (.inline declaration method line.number)

/-- Reads a line after the last method of a declaration. What is not indented begins an item. -/
def afterMethod (items : List Item) (declaration : Declaration) (line : Line) :
    Except ParseError Reader :=
  if line.indent = 0 then do readItem (items ++ [← declaration.close]) line
  else readMethod items declaration line

/-- Reads a line inside an invocation, comments apart. -/
def continueInvocation (items : List Item) (place : Place) (call : OpenInvocation) (line : Line) :
    Except ParseError Reader :=
  let text := dropComment line.text
  match closing call.depth text with
  | .unclosed depth =>
    .ok ⟨items, .invocation place { call with inner := call.inner ++ '\n' :: text, depth }⟩
  | .closed inner tail =>
    if Text.isAllBlank tail then
      put items call.column
        (.call (invocation call.name (call.inner ++ '\n' :: inner))) place
    else
      .error ⟨line.number, line.indent + Text.width inner + 2,
        .textAfterInvocation (String.ofList call.name)⟩

/-- Reads one line. A comment changes nothing, and an empty line only ends a block. -/
def feed (r : Reader) (line : Line) : Except ParseError Reader :=
  if line.isComment then .ok r
  else
    match r.mode with
    | .top => if line.isEmpty then .ok r else readItem r.items line
    | .methods declaration =>
      if line.isEmpty then .ok r else afterMethod r.items declaration line
    | .block block =>
      if line.isEmpty then .ok ⟨r.items, .methods block.close⟩
      else if line.indent ≤ block.indent then afterMethod r.items block.close line
      else readStatement r.items line.number (line.indent + 1) line.text (.block block)
    | .invocation place call => continueInvocation r.items place call line

/-- The items, once all lines have been read. -/
def finish (r : Reader) : Except ParseError Document :=
  match r.mode with
  | .top => .ok r.items
  | .methods declaration => do return r.items ++ [← declaration.close]
  | .block block => do return r.items ++ [← block.close.close]
  | .invocation _ call =>
    .error ⟨call.line, call.column, .unclosedInvocation (String.ofList call.name)⟩

end Reader

/-- Reads the lines of a document. -/
def ofLines (ls : List Line) : Except ParseError Document := do
  (← ls.foldlM Reader.feed Reader.start).finish

def parse (text : String) : Except ParseError Document :=
  ofLines (Line.ofTexts 1 (Text.lines text.toList))

end Provision.Document

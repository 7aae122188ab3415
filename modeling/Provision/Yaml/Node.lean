import Provision.Text.Lines
import Provision.Yaml.Scalar

namespace Provision.Yaml

/-- A document: a string, a sequence, a mapping in its order, or one of these under a tag. -/
inductive Node
  | scalar (text : String)
  | sequence (items : List Node)
  | mapping (entries : List (String × Node))
  | tagged (tag : String) (node : Node)

/-- Longer keys are set apart by a question mark. -/
def maxKeyWidth : Nat := 128

def isSimpleKey (key : String) : Bool :=
  Text.width key.toList ≤ maxKeyWidth && !key.toList.any isBreak

def newline (n : Nat) : List Char := '\n' :: indentation n

namespace Node

mutual

/-- A node that begins at column `n` on the line of what is before it. -/
def inline (n : Nat) : Node → List Char
  | .scalar text => Yaml.scalar n text
  | .sequence xs => if xs.isEmpty then ['[', ']'] else (items n xs).drop (n + 1)
  | .mapping es => if es.isEmpty then ['\x7b', '\x7d'] else (entries n es).drop (n + 1)
  | .tagged tag node => '!' :: tag.toList ++ after n n node

/-- A node after a key or a tag: a sequence begins on the next line at column `m`, and a mapping at
column `n`. -/
def after (m n : Nat) : Node → List Char
  | .scalar text => ' ' :: Yaml.scalar n text
  | .sequence xs => if xs.isEmpty then [' ', '[', ']'] else items m xs
  | .mapping es => if es.isEmpty then [' ', '\x7b', '\x7d'] else entries n es
  | .tagged tag node => ' ' :: '!' :: tag.toList ++ after n n node

/-- The items of a sequence at column `n`, each on a new line. -/
def items (n : Nat) : List Node → List Char
  | [] => []
  | x :: xs => newline n ++ '-' :: ' ' :: inline (n + 2) x ++ items n xs

/-- The entries of a mapping at column `n`, each on a new line. A sequence under a key is not
indented. -/
def entries (n : Nat) : List (String × Node) → List Char
  | [] => []
  | (key, value) :: es =>
    newline n ++
      (if isSimpleKey key then Yaml.scalar (n + 2) key ++ ':' :: after n (n + 2) value
      else '?' :: ' ' :: Yaml.scalar (n + 2) key ++ newline n ++
        ':' :: ' ' :: inline (n + 2) value) ++
      entries n es

end

/-- The text of a document. -/
def render (node : Node) : String :=
  String.ofList (inline 0 node ++ ['\n'])

end Node

end Provision.Yaml

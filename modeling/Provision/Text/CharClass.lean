namespace Provision.Text

/-- Characters from one to another one, both included. -/
abbrev Ranges := List (Char × Char)

def inRanges (ranges : Ranges) (c : Char) : Bool :=
  ranges.any fun (low, high) => low ≤ c && c ≤ high

def letterRanges : Ranges := [('A', 'Z'), ('a', 'z')]

def digitRanges : Ranges := [('0', '9')]

def wordRanges : Ranges := letterRanges ++ digitRanges ++ [('_', '_')]

def spaceRanges : Ranges := [(' ', ' '), ('\t', '\r')]

/-- The classes of characters that have a name. -/
def charClass? : String → Option Ranges
  | "alpha" => some letterRanges
  | "digit" => some digitRanges
  | "alnum" => some (letterRanges ++ digitRanges)
  | "upper" => some [('A', 'Z')]
  | "lower" => some [('a', 'z')]
  | "space" => some spaceRanges
  | "blank" => some [(' ', ' '), ('\t', '\t')]
  | "punct" => some [('!', '/'), (':', '@'), ('[', Char.ofNat 96), ('\x7b', '~')]
  | "print" => some [(' ', '~')]
  | "graph" => some [('!', '~')]
  | "cntrl" => some [('\x00', '\x1f'), ('\x7f', '\x7f')]
  | "xdigit" => some (digitRanges ++ [('A', 'F'), ('a', 'f')])
  | "word" => some wordRanges
  | _ => none

/-- A letter with the other case. -/
def otherCase (c : Char) : Char := if c.isUpper then c.toLower else c.toUpper

end Provision.Text

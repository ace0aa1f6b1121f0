import ModemRelay.Pattern.Brackets
import ModemRelay.Text.Letter

/-! Whether a text can be used as a pattern for other texts.

A pattern is read from left to right into a draft, which knows the groups that are open and, of what
has been read, only how deep it nests. -/

namespace ModemRelay.Pattern

open Text

/-- Why a text cannot be used as a pattern. -/
inductive Fault where
  /-- It is no pattern, or one that needs a table of the scripts. -/
  | unreadable
  /-- It asks where the words of any script begin or end. -/
  | wordEdges
  deriving DecidableEq

def Fault.message : Fault → String
  | unreadable => "error building NFA"
  | wordEdges =>
    "unsupported regex feature for DFAs: cannot build DFAs for regexes with Unicode word " ++
      "boundaries; switch to ASCII word boundaries, or heuristically enable Unicode word " ++
      "boundaries or use a different regex engine"

/-- The inside of a group, as far as it has been read: branches that follow one after the other,
each a row of parts. -/
structure Group where
  /-- The modes of what follows. -/
  modes : Modes := {}
  /-- How many branches are complete, and the depth of the deepest. -/
  branches : Nat := 0
  deepestBranch : Nat := 0
  /-- How many parts the present branch has, and the depth of the deepest but for the last. -/
  parts : Nat := 0
  deepestPart : Nat := 0
  /-- The depth of the last part. -/
  last : Nat := 0
  /-- Whether there is a last part and it may be repeated. -/
  repeatable : Bool := false

namespace Group

/-- The depth of the present branch. -/
def branchDepth (g : Group) : Nat :=
  max g.deepestPart g.last + if 2 ≤ g.parts then 1 else 0

/-- The depth of all branches. -/
def depth (g : Group) : Nat :=
  if g.branches = 0 then g.branchDepth else max g.deepestBranch g.branchDepth + 1

/-- The group with one more part. -/
def add (g : Group) (depth : Nat) (repeatable : Bool := true) : Group :=
  { g with
    parts := g.parts + 1
    deepestPart := max g.deepestPart g.last
    last := depth
    repeatable }

/-- The group with the last part repeated. -/
def addRepetition? (g : Group) : Option Group :=
  if g.repeatable then some { g with last := g.last + 1 } else none

def branch (g : Group) : Group :=
  { modes := g.modes
    branches := g.branches + 1
    deepestBranch := max g.deepestBranch g.branchDepth }

end Group

/-- A pattern in the making. -/
structure Draft where
  /-- The innermost group that is open, or else the whole pattern. -/
  group : Group := {}
  around : List Group := []
  /-- The names of groups. -/
  names : List (List Char) := []
  wordEdges : Bool := false

namespace Draft

def isName : List Char → Bool
  | [] => false
  | c :: rest =>
    (c = '_' || isLetter c) && rest.all fun c => c ∈ ['_', '.', '[', ']'] || isWordlike c

def opened (d : Draft) (modes : Modes) : Draft :=
  { d with group := { modes }, around := d.group :: d.around }

/-- The rest of the beginning of a group that has a name. -/
def readName (d : Draft) : Reader Draft := fun s =>
  let name := s.takeWhile (· != '>')
  match s.drop name.length with
  | _ :: rest =>
    if isName name && name ∉ d.names then
      some ({ d.opened d.group.modes with names := name :: d.names }, rest)
    else
      none
  | [] => none

/-- The rest of the beginning of a group that switches modes, for itself or for what follows in the
group around it. -/
def readSwitches (d : Draft) : Reader Draft := fun s => do
  let switches := s.takeWhile fun c => c != ':' && c != ')'
  let modes ← d.group.modes.switch? switches
  match s.drop switches.length with
  | ':' :: rest => some (d.opened modes, rest)
  | _ :: rest =>
    if switches.isEmpty then none
    else some ({ d with group := { d.group.add 0 false with modes } }, rest)
  | [] => none

/-- The beginning of a group after its first bracket. -/
def readOpening (d : Draft) : Reader Draft := fun s =>
  match d.group.modes.skip s with
  | '?' :: 'P' :: '<' :: rest | '?' :: '<' :: rest => d.readName rest
  | '?' :: rest => d.readSwitches rest
  | rest => some (d.opened d.group.modes, rest)

def closed? (d : Draft) : Option Draft :=
  match d.around with
  | [] => none
  | outer :: around => some { d with group := outer.add (d.group.depth + 1), around }

/-- Adds an atom, if it may stand by itself. -/
def addAtom? (d : Draft) (a : Atom) : Option Draft :=
  if a.stands d.group.modes then
    some { d with
      group := d.group.add 0
      wordEdges := d.wordEdges || (a == .wordEdge && d.group.modes.unicode) }
  else
    none

/-- The next part of a pattern. A number of times in braces is no part. -/
def readPart (d : Draft) : Reader Draft
  | [] => none
  | '(' :: rest => d.readOpening rest
  | ')' :: rest => d.closed?.map (·, rest)
  | '|' :: rest => some ({ d with group := d.group.branch }, rest)
  | '[' :: rest =>
    (Brackets.read d.group.modes rest).map fun (depth, rest) =>
      ({ d with group := d.group.add depth }, rest)
  | '.' :: rest =>
    if d.group.modes.unicode then some ({ d with group := d.group.add 0 }, rest) else none
  | c :: rest =>
    if c ∈ ['?', '*', '+'] then
      d.group.addRepetition?.map fun group =>
        ({ d with group }, if rest.head? = some '?' then rest.drop 1 else rest)
    else if c ∈ ['^', '$'] then
      (d.addAtom? .edge).map (·, rest)
    else if c = '\x7b' then
      none
    else do
      let (a, rest) ← Atom.read d.group.modes (c :: rest)
      return (← d.addAtom? a, rest)

/-- The draft of a whole pattern. The number bounds how many parts there are. -/
def readUpTo : Nat → Draft → List Char → Option Draft
  | 0, _, _ => none
  | n + 1, d, s =>
    match d.group.modes.skip s with
    | [] => if d.around.isEmpty then some d else none
    | s => do
      let (d, rest) ← d.readPart s
      readUpTo n d rest

end Draft

/-- How deep a pattern may nest. -/
def maxDepth : Nat := 250

/-- What keeps a text from being a pattern. -/
def fault? (s : List Char) : Option Fault :=
  match Draft.readUpTo (s.length + 1) {} s with
  | none => some .unreadable
  | some d =>
    if maxDepth < d.group.depth then some .unreadable
    else if d.wordEdges then some .wordEdges
    else none

example : fault? "a(b|[^c-e]+?)*".toList = none ∧ fault? "(?-u)\\d".toList = none ∧
    fault? "\\d".toList = some .unreadable ∧ fault? "*".toList = some .unreadable ∧
    fault? "\\bx".toList = some .wordEdges := by decide +kernel

end ModemRelay.Pattern

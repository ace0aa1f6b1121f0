import ModemRelay.Pattern.Atom

/-! Sets of characters between brackets.

A set lists characters, ranges of them, classes by name and further sets, and operators may join
such lists. Of a set that has been read only its depth is kept: how deep sets, lists of two members
or more, and operators nest in it. -/

namespace ModemRelay.Pattern

open Text

/-- The names of the classes of ASCII characters. -/
def classNames : List String :=
  [ "alnum", "alpha", "ascii", "blank", "cntrl", "digit", "graph", "lower", "print", "punct",
    "space", "upper", "word", "xdigit" ]

/-- The rest of a named class after its first bracket, and whether it stands for all characters but
its own. -/
def classRest? : Reader Bool
  | ':' :: rest =>
    let negated := rest.head? == some '^'
    let rest := if negated then rest.drop 1 else rest
    let name := rest.takeWhile (· != ':')
    match rest.drop name.length with
    | ':' :: ']' :: rest =>
      if String.ofList name ∈ classNames then some (negated, rest) else none
    | _ => none
  | _ => none

/-- A set that has not been closed yet. -/
structure Brackets where
  /-- The depth of the lists before the last operator, where there is one. -/
  joined : Option Nat := none
  /-- How many members the present list has. -/
  members : Nat := 0
  /-- The depth of the deepest of them. -/
  deepest : Nat := 0

namespace Brackets

def add (b : Brackets) (depth : Nat) : Brackets :=
  { b with members := b.members + 1, deepest := max b.deepest depth }

/-- The depth of what stands between the brackets. -/
def innerDepth (b : Brackets) : Nat :=
  let list := if 2 ≤ b.members then b.deepest + 1 else b.deepest
  match b.joined with
  | some before => max before list + 1
  | none => list

/-- The set after an operator. -/
def join (b : Brackets) : Brackets := { joined := some b.innerDepth }

/-- The depth of the set itself. -/
def depth (b : Brackets) : Nat := b.innerDepth + 1

/-- Minus signs in front of a set, which stand for themselves. -/
def addMinusSigns (m : Modes) : Nat → Brackets → List Char → Brackets × List Char
  | 0, b, s => (b, s)
  | n + 1, b, s =>
    match s with
    | '-' :: rest => addMinusSigns m n (b.add 0) (m.skip rest)
    | _ => (b, s)

/-- The beginning of a set after its first bracket: the sign that it stands for all other
characters, which for bytes would let in more than text, then minus signs or a closing bracket that
stand for themselves. -/
def readStart (m : Modes) : Reader Brackets := fun s => do
  let s := m.skip s
  let negated := s.head? == some '^'
  let s := if negated then m.skip (s.drop 1) else s
  if negated && !m.unicode then none
  let (b, s) := addMinusSigns m s.length {} s
  let (b, s) :=
    match b.members, s with
    | 0, ']' :: rest => (b.add 0, m.skip rest)
    | _, s => (b, s)
  if m.unicode && m.foldsCase && 0 < b.members then none
  some (b, s)

/-- Whether the atom may stand in a set. -/
def holds (m : Modes) : Atom → Bool
  | .literal c _ => if m.unicode then !m.foldsCase else c.toNat < 0x80
  | .named negated => !m.unicode && !negated
  | _ => false

/-- What is left after a member of a set, a character, a class or a range, if it may stand there. -/
def readMember (m : Modes) (s : List Char) : Option (List Char) := do
  let (first, s) ← Atom.read m s
  if !holds m first then none
  match m.skip s with
  | '-' :: rest =>
    if m.glance rest == some ']' || m.glance rest == some '-' then
      some ('-' :: rest)
    else
      let (last, s) ← Atom.read m (m.skip rest)
      match first, last with
      | .literal low _, .literal high _ => if low ≤ high && holds m last then some s else none
      | _, _ => none
  | s => some s

/-- The rest of a set and of those around it, to its depth. The number bounds how many members,
brackets and operators there are. -/
def readUpTo (m : Modes) : Nat → Brackets → List Brackets → Reader Nat
  | 0, _, _, _ => none
  | n + 1, b, around, s =>
    match m.skip s with
    | '[' :: rest =>
      match classRest? rest with
      | some (negated, rest) =>
        if if m.unicode then m.foldsCase else negated then none
        else readUpTo m n (b.add 0) around rest
      | none => do
        let (inner, rest) ← readStart m rest
        readUpTo m n inner (b :: around) rest
    | ']' :: rest =>
      match around with
      | [] => some (b.depth, rest)
      | outer :: around => readUpTo m n (outer.add b.depth) around rest
    | '&' :: '&' :: rest | '-' :: '-' :: rest | '~' :: '~' :: rest =>
      readUpTo m n b.join around rest
    | [] => none
    | s => do readUpTo m n (b.add 0) around (← readMember m s)

/-- The rest of a set after its first bracket, to its depth. -/
def read (m : Modes) : Reader Nat := fun s => do
  let (b, rest) ← readStart m s
  readUpTo m (rest.length + 1) b [] rest

end Brackets

end ModemRelay.Pattern

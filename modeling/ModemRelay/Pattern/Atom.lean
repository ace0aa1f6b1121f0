import ModemRelay.Pattern.Modes
import ModemRelay.Text.Reader

/-! The atoms of a pattern: characters, and what a backslash begins. -/

namespace ModemRelay.Pattern

open Text

/-- The smallest part of a pattern. -/
inductive Atom where
  /-- A character, perhaps by its number in two digits, which then is that of a byte. -/
  | literal (c : Char) (asByte : Bool)
  /-- A class of digits, blanks or word characters, or all but these. -/
  | named (negated : Bool)
  /-- The place before or after the text. -/
  | edge
  /-- The place where a word begins or ends, or any other place. -/
  | wordEdge
  deriving DecidableEq

namespace Atom

/-- Whether a backslash before the character leaves it as it is. -/
def isPlainEscaped (c : Char) : Bool :=
  c.toNat < 0x80 && !c.isAlphanum && c != '<' && c != '>'

/-- What stands after a backslash. -/
def readEscaped (m : Modes) : Reader Atom
  | [] => none
  | c :: rest =>
    let number (digits : Nat) : Option (Atom × List Char) :=
      (hexCharacter m.skip digits (m.skip rest)).map fun (c, rest) =>
        (literal c (digits == 2), rest)
    if isPlainEscaped c then
      some (literal c false, rest)
    else if c ∈ ['a', 'f', 't', 'n', 'r', 'v'] then
      some (literal (control c) false, rest)
    else if c = 'x' then number 2
    else if c = 'u' then number 4
    else if c = 'U' then number 8
    else if c ∈ ['d', 's', 'w'] then some (named false, rest)
    else if c ∈ ['D', 'S', 'W'] then some (named true, rest)
    else if c ∈ ['A', 'z'] then some (edge, rest)
    else if c = 'b' then
      if rest.head? = some '\x7b' then none else some (wordEdge, rest)
    else if c ∈ ['B', '<', '>'] then some (wordEdge, rest)
    else none
where
  /-- The control character that a letter stands for. -/
  control : Char → Char
    | 'a' => '\x07'
    | 'f' => '\x0c'
    | 't' => '\t'
    | 'n' => '\n'
    | 'r' => '\r'
    | _ => '\x0b'

/-- A character or what a backslash begins. -/
def read (m : Modes) : Reader Atom
  | [] => none
  | '\\' :: rest => readEscaped m rest
  | c :: rest => some (literal c false, rest)

/-- Whether the atom may stand by itself. Case is folded only for bytes, and the classes are known
only for them. -/
def stands (m : Modes) : Atom → Bool
  | literal c asByte => if m.unicode then !m.foldsCase else !asByte || c.toNat < 0x80
  | named negated => !m.unicode && !negated
  | edge | wordEdge => true

end Atom

end ModemRelay.Pattern

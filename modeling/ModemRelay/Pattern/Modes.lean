import ModemRelay.Text.White

/-! Modes in which a pattern is read.

Letters in a group switch them on and off for what follows in it. A pattern is known by its
characters alone: no table of the scripts is at hand, so a part that would need one is refused. -/

namespace ModemRelay.Pattern

open Text

/-- The modes that decide what may stand in a pattern. -/
structure Modes where
  /-- Whether upper and lower case are the same. -/
  foldsCase : Bool := false
  /-- Whether characters count, and not bytes. -/
  unicode : Bool := true
  /-- Whether white space and comments have no meaning. -/
  spaced : Bool := false
  deriving DecidableEq

namespace Modes

/-- What is left after white space and comments, from inside a comment or from outside. -/
def skipFrom (inComment : Bool) : List Char → List Char
  | [] => []
  | c :: rest =>
    if inComment then skipFrom (c != '\n') rest
    else if isWhite c then skipFrom false rest
    else if c = '#' then skipFrom true rest
    else c :: rest

/-- What is left after that which has no meaning. -/
def skip (m : Modes) (s : List Char) : List Char := if m.spaced then skipFrom false s else s

/-- The next character that has a meaning, of a text in which the mark of a comment hides only
white space. -/
def glance (m : Modes) (s : List Char) : Option Char :=
  if m.spaced then
    let shown :=
      match s.dropWhile isWhite with
      | '#' :: rest => rest.dropWhile isWhite
      | rest => rest
    shown.head?.or s.head?
  else
    s.head?

/-- The letters of all modes. -/
def letters : List Char := ['i', 'm', 's', 'U', 'u', 'R', 'x']

/-- The mode that a letter stands for, after switches have been read: those before a minus sign
switch modes on, those after it off. -/
def switched (switches : List Char) (letter : Char) (before : Bool) : Bool :=
  if letter ∈ switches.takeWhile (· != '-') then true
  else if letter ∈ switches then false
  else before

/-- The modes after switches, none of which may be repeated, and after a minus sign has to come at
least one. -/
def switch? (m : Modes) (switches : List Char) : Option Modes :=
  if switches.all (fun c => c = '-' || c ∈ letters) && switches.Nodup &&
      switches.getLast? != some '-' then
    some {
      foldsCase := switched switches 'i' m.foldsCase
      unicode := switched switches 'u' m.unicode
      spaced := switched switches 'x' m.spaced }
  else
    none

end Modes

end ModemRelay.Pattern

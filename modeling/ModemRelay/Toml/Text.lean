import ModemRelay.Text.Reader

/-! Reading the parts of a TOML document that hold text: blanks, comments and strings. -/

namespace ModemRelay.Toml

open Text

/-- Whether a character may stand in a comment or a string: any but the controls, the tab apart. -/
def isPlain (c : Char) : Bool := c = '\t' || (0x20 ≤ c.toNat && c.toNat ≠ 0x7f)

def isBlank (c : Char) : Bool := c = ' ' || c = '\t'

def skipBlanks (s : List Char) : List Char := s.dropWhile isBlank

/-- The end of a line, with or without a carriage return. -/
def lineEnd : Reader (List Char)
  | '\n' :: rest => some (['\n'], rest)
  | '\r' :: '\n' :: rest => some (['\r', '\n'], rest)
  | _ => none

def skipComment (s : List Char) : List Char :=
  if s.head? = some '#' then s.dropWhile isPlain else s

/-- What is left after ends of lines and what `skip` passes over before each of them and after the
last. The length of the first list bounds how many there are. The text itself is long enough, and so
stands for its length, which would take a walk through all of it. -/
def skipLinesUpTo (skip : List Char → List Char) : List Char → List Char → List Char
  | [], s => s
  | _ :: bound, s =>
    match lineEnd (skip s) with
    | some (_, rest) => skipLinesUpTo skip bound rest
    | none => skip s

def skipLines (s : List Char) : List Char :=
  skipLinesUpTo (fun s => skipComment (skipBlanks s)) s s

/-- The end of a statement: blanks, a comment, and the end of the line or of the document. -/
def statementEnd (s : List Char) : Option (List Char) :=
  match skipComment (skipBlanks s) with
  | [] => some []
  | rest => (lineEnd rest).map (·.2)

/-- What stands after a backslash for a character. -/
def escaped : Reader Char
  | 'b' :: rest => some ('\x08', rest)
  | 't' :: rest => some ('\t', rest)
  | 'n' :: rest => some ('\n', rest)
  | 'f' :: rest => some ('\x0c', rest)
  | 'r' :: rest => some ('\r', rest)
  | 'e' :: rest => some ('\x1b', rest)
  | '"' :: rest => some ('"', rest)
  | '\\' :: rest => some ('\\', rest)
  | 'x' :: rest => hexCharacter id 2 rest
  | 'u' :: rest => hexCharacter id 4 rest
  | 'U' :: rest => hexCharacter id 8 rest
  | _ => none

/-- What is left after a break of the line that the text does not hold, a backslash before it
having been read: the end of the line and all blanks and ends of lines that follow. -/
def skipBreak (s : List Char) : Option (List Char) :=
  (lineEnd (skipBlanks s)).map fun (_, rest) => skipLinesUpTo skipBlanks rest rest

/-- How a string is written. -/
structure Quoting where
  /-- The character that ends the string. -/
  mark : Char
  /-- Whether a backslash has a meaning. -/
  escapes : Bool
  /-- Whether the string may hold ends of lines, its marks being threefold. -/
  multiline : Bool

/-- The next part of a string, or `none` in place of a text at its end. A run of three marks or more
ends a string of several lines, and up to two marks before the last three belong to it. -/
def Quoting.part (q : Quoting) : List Char → Option (List Char × Bool × List Char)
  | [] => none
  | c :: rest =>
    if c = q.mark then
      if q.multiline then
        let run := 1 + (rest.takeWhile (· == q.mark)).length
        if run < 3 then
          some (.replicate run q.mark, false, rest.drop (run - 1))
        else
          let extra := min (run - 3) 2
          some (.replicate extra q.mark, true, rest.drop (2 + extra))
      else
        some ([], true, rest)
    else if q.escapes && c = '\\' then
      match escaped rest with
      | some (e, rest) => some ([e], false, rest)
      | none => if q.multiline then (skipBreak rest).map fun rest => ([], false, rest) else none
    else if isPlain c then
      some ([c], false, rest)
    else if q.multiline then
      (lineEnd (c :: rest)).map fun (text, rest) => (text, false, rest)
    else
      none

/-- The rest of a string, up to its end. The length of the first list bounds the number of its
parts, and the second holds the text before, last character first. -/
def Quoting.body (q : Quoting) : List Char → List Char → Reader String
  | [], _, _ => none
  | _ :: bound, before, s =>
    match q.part s with
    | some (text, true, rest) => some (String.ofList (text.reverse ++ before).reverse, rest)
    | some (text, false, rest) => q.body bound (text.reverse ++ before) rest
    | none => none

def lineString : Reader String
  | '"' :: rest => Quoting.body ⟨'"', true, false⟩ rest [] rest
  | '\'' :: rest => Quoting.body ⟨'\'', false, false⟩ rest [] rest
  | _ => none

/-- What is left after the end of a line, where one stands. -/
def skipLineEnd (s : List Char) : List Char :=
  match lineEnd s with
  | some (_, rest) => rest
  | none => s

/-- A string, of one line or of several. The end of a line right after the opening marks is not
part of it. -/
def stringValue : Reader String
  | '"' :: '"' :: '"' :: rest =>
    Quoting.body ⟨'"', true, true⟩ rest [] (skipLineEnd rest)
  | '\'' :: '\'' :: '\'' :: rest =>
    Quoting.body ⟨'\'', false, true⟩ rest [] (skipLineEnd rest)
  | s => lineString s

end ModemRelay.Toml

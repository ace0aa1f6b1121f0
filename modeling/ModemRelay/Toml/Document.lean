import ModemRelay.Toml.Value

/-! Reading a TOML document: its values, keys and statements, and the entries they make up. -/

namespace ModemRelay.Toml

open Text

/-- Items between an opening bracket that has been read and a closing one, with commas between them
and perhaps after the last. They may stand on lines of their own. The length of the list bounds how
many items there are. -/
def itemsUpTo (close : Char) (item : Reader α) : List Char → Reader (List α)
  | [], _ => none
  | _ :: bound, s =>
    match skipLines s with
    | [] => none
    | c :: rest =>
      if c = close then
        some ([], rest)
      else do
        let (first, rest) ← item (c :: rest)
        match skipLines rest with
        | ',' :: rest =>
          let (others, rest) ← itemsUpTo close item bound rest
          some (first :: others, rest)
        | d :: rest => if d = close then some ([first], rest) else none
        | [] => none

/-- Items between brackets of which the opening one has been read. -/
def items (close : Char) (item : Reader α) : Reader (List α) := fun s =>
  itemsUpTo close item s s

/-- Whether a character may stand in a name without quotes. -/
def isBare (c : Char) : Bool := c.isAlphanum || c = '_' || c = '-'

/-- One name of a key. -/
def name : Reader String := fun s =>
  match s.takeWhile isBare with
  | [] => lineString s
  | bare => some (String.ofList bare, s.dropWhile isBare)

/-- Names with points between them. The number bounds how many there are. -/
def keyUpTo : Nat → Reader Key
  | 0, _ => none
  | n + 1, s => do
    let (first, rest) ← name s
    match skipBlanks rest with
    | '.' :: rest =>
      let (key, rest) ← keyUpTo n (skipBlanks rest)
      some ({ key with parents := first :: key.parents }, rest)
    | rest => some (⟨[], first⟩, rest)

/-- How many names a key may have. -/
def maxNames : Nat := 80

/-- A key and the blanks after it. -/
def key : Reader Key := keyUpTo maxNames

/-- A key, an equals sign and a value. What may stand around the sign, `skip` passes over. -/
def pair (skip : List Char → List Char) (value : Reader Value) : Reader (Key × Value) := fun s => do
  let (k, rest) ← key s
  let ((), rest) ← oneOf ['='] (skip rest)
  let (v, rest) ← value (skip rest)
  return ((k, v), rest)

/-- The value that is all of a text without quotes or brackets. -/
def atom? (s : List Char) : Option Value :=
  if s = ['t', 'r', 'u', 'e'] then some (.boolean true)
  else if s = ['f', 'a', 'l', 's', 'e'] then some (.boolean false)
  else
    match Time.ofChars? s with
    | some t => some (.time t)
    | none =>
      if isFloat s then some (.float (String.ofList s))
      else ((integer? s).filter inRange).map .integer

/-- Whether a character may stand in a value without quotes or brackets. -/
def isAtomic (c : Char) : Bool := c.isAlphanum || c ∈ ['+', '-', '_', '.', ':']

/-- A value without quotes or brackets. One blank may stand between a date and a time. -/
def atom : Reader Value := fun s =>
  let first := s.takeWhile isAtomic
  match s.dropWhile isAtomic with
  | ' ' :: rest =>
    let second := rest.takeWhile isAtomic
    if Time.isDate first && ((second.head?.map Char.isDigit).getD false) then
      (atom? (first ++ ' ' :: second)).map (·, rest.dropWhile isAtomic)
    else
      (atom? first).map (·, ' ' :: rest)
  | rest => (atom? first).map (·, rest)

/-- The entries that pairs between braces make up together. -/
def Entries.ofPairs? (pairs : List (Key × Value)) : Option Entries :=
  pairs.foldlM (fun entries (k, v) => entries.assign k.last v k.parents) []

/-- A value whose arrays and inline tables nest no deeper than the number. -/
def value : (depth : Nat) → Reader Value
  | 0, s => scalar s
  | depth + 1, s =>
    match s with
    | '[' :: rest => (items ']' (value depth) rest).map fun (vs, rest) => (.array vs, rest)
    | '\x7b' :: rest => do
      let (pairs, rest) ← items '\x7d' (pair skipLines (value depth)) rest
      return (.table .inline (← Entries.ofPairs? pairs), rest)
    | _ => scalar s
where
  scalar (s : List Char) : Option (Value × List Char) :=
    match s with
    | '"' :: _ | '\'' :: _ => (stringValue s).map fun (text, rest) => (.string text, rest)
    | _ => atom s

/-- How deep arrays and inline tables may nest. -/
def maxDepth : Nat := 80

/-- A statement, without the end of its line. -/
def statement : Reader Statement
  | '[' :: '[' :: rest => do
    let (k, rest) ← key (skipBlanks rest)
    let ((), rest) ← oneOf [']'] rest
    let ((), rest) ← oneOf [']'] rest
    return (.element k, rest)
  | '[' :: rest => do
    let (k, rest) ← key (skipBlanks rest)
    let ((), rest) ← oneOf [']'] rest
    return (.table k, rest)
  | s => (pair skipBlanks (value maxDepth) s).map fun ((k, v), rest) => (.assign k v, rest)

/-- The statements of a text, in order. The number bounds how many there are. -/
def statementsUpTo : Nat → List Char → Option (List Statement)
  | 0, _ => none
  | n + 1, s =>
    match skipLines s with
    | [] => some []
    | s => do
      let (first, rest) ← statement s
      return first :: (← statementsUpTo n (← statementEnd rest))

/-- The entries of a document. A mark of the byte order in front of it is skipped. -/
def parse? (text : String) : Option Entries := do
  let s :=
    match text.toList with
    | '\ufeff' :: rest => rest
    | s => s
  Entries.ofStatements? (← statementsUpTo (s.length + 1) s)

end ModemRelay.Toml

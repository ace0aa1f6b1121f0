import ModemRelay.Text.Hidden

/-! Quoted text: how a report shows the exact text of a line.

A quotation stands between double quotes. The quote, the backslash and the usual controls are
written with a backslash, every other hidden character by its number in braces, all else as it
is. -/

namespace ModemRelay.Text

/-- The number in braces that stands for a hidden character, in lower-case hexadecimal. -/
private def byNumber (c : Char) : List Char :=
  ['\\', 'u', '\x7b'] ++ Nat.toDigits 16 c.toNat ++ ['\x7d']

/-- The written form of one character inside a quotation. -/
def quoteChar (c : Char) : List Char :=
  if c = '"' then ['\\', '"']
  else if c = '\\' then ['\\', '\\']
  else if c = '\t' then ['\\', 't']
  else if c = '\n' then ['\\', 'n']
  else if c = '\r' then ['\\', 'r']
  else if c.toNat = 0 then ['\\', '0']
  else if isHidden c then byNumber c
  else [c]

def quote (s : String) : String :=
  String.ofList ('"' :: s.toList.flatMap quoteChar ++ ['"'])

/-- The quotations of a list of texts, between brackets. -/
def quoteList (texts : List String) : String :=
  "[" ++ ", ".intercalate (texts.map quote) ++ "]"

/-- The quotation of a text that may be absent. -/
def quoteOption : Option String → String
  | none => "None"
  | some s => "Some(" ++ quote s ++ ")"

example : quote "a\tb" = "\"a\\tb\"" ∧ quoteList [] = "[]" := by decide +kernel

end ModemRelay.Text

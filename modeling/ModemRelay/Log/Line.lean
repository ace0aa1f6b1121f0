import ModemRelay.Log.Record
import ModemRelay.Text.Quoted

/-! Log records as lines of text. -/

namespace ModemRelay.Log

/-- The characters of a message as they are shown. Those that could steer a terminal are shown by
their number. -/
def shown (c : Char) : String :=
  if c.toNat ∈ [0x07, 0x08, 0x0c, 0x1b, 0x7f] then
    "\\x" ++ String.ofList ((Nat.toDigits 16 c.toNat).leftpad 2 '0')
  else if 0x80 ≤ c.toNat && c.toNat ≤ 0x9f then
    "\\u\x7b" ++ String.ofList (Nat.toDigits 16 c.toNat) ++ "\x7d"
  else
    c.toString

def fieldText : String × Value → String
  | (name, .quoted s) => name ++ "=" ++ Text.quote s
  | (name, .plain s) => name ++ "=" ++ s

def Record.text (r : Record) : String :=
  let message := String.join (r.message.toList.map shown)
  r.level.name ++ " " ++ r.source.path ++ ": " ++
    " ".intercalate (message :: r.fields.map fieldText)

/-- The lines of a record. There is more than one where a text in it has ends of lines. -/
def Record.lines (r : Record) : List String := r.text.splitOn "\n"

end ModemRelay.Log

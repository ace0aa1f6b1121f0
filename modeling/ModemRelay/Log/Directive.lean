import ModemRelay.Log.Record
import ModemRelay.Pattern.Draft
import ModemRelay.Text.Bytes
import ModemRelay.Text.Decimal

/-! What a filter says of some records.

A directive names a level, or the beginning of the path of a source, or both with an equals sign
between them. Between the two it may say in brackets which records it is about: those of a span, or
in braces those with a field. A value given for the field is a pattern for the values of a span. -/

namespace ModemRelay.Log

open Text

/-- A least level, or `off` for none at all. -/
inductive Threshold where
  | off
  | atLeast (level : Level)
  deriving DecidableEq

namespace Threshold

def allows : Threshold → Level → Bool
  | off, _ => false
  | atLeast least, level => least.rank ≤ level.rank

/-- The thresholds that have a number, from zero on. -/
def numbered : List Threshold :=
  [off, atLeast .error, atLeast .warn, atLeast .info, atLeast .debug, atLeast .trace]

/-- The threshold of a number, or of a word in any case of its letters. -/
def ofWord? (word : String) : Option Threshold :=
  match decimal? word with
  | some n => numbered[n.toNat]?
  | none =>
    match word.map Char.toLower with
    | "off" => some off
    | "error" => some (atLeast .error)
    | "warn" => some (atLeast .warn)
    | "info" => some (atLeast .info)
    | "debug" => some (atLeast .debug)
    | "trace" => some (atLeast .trace)
    | _ => none

end Threshold

/-- A threshold for some records. -/
structure Directive where
  /-- The beginning of the path of their source. -/
  source : String := ""
  /-- A field that they have. -/
  field : Option String := none
  /-- Whether they belong to a span that the directive describes. No record does: this log has no
  spans. -/
  inSpan : Bool := false
  threshold : Threshold := .atLeast .trace
  deriving DecidableEq

namespace Directive

/-- Why a text is no directive. -/
inductive Fault where
  | malformed
  | unknownLevel
  /-- The value of a field is no pattern. -/
  | value (fault : Pattern.Fault)
  deriving DecidableEq

def Fault.message : Fault → String
  | malformed => "invalid filter directive"
  | unknownLevel =>
    "error parsing level filter: expected one of \"off\", \"error\", \"warn\", \"info\", " ++
      "\"debug\", \"trace\", or a number 0-5"
  | value fault => "invalid field filter: " ++ fault.message

/-- Whether a directive may begin with the character. -/
def begins (c : Char) : Bool := isWordlike c || c ∈ ['[', '-', ':', '_']

/-- What is wrong with the value of a field. Numbers may be given in place of a pattern; those that
are no patterns themselves have a plus sign in front. -/
def valueFault? : List Char → Option Pattern.Fault
  | '+' :: rest => if isNumber rest then none else Pattern.fault? ('+' :: rest)
  | value => Pattern.fault? value

/-- The directive with a field, which may have a value after an equals sign. -/
def withField (d : Directive) (field : List Char) : Except Fault Directive :=
  let name := field.takeWhile (· != '=')
  match field.drop name.length with
  | [] => .ok { d with field := some (String.ofList name) }
  | _ :: rest =>
    match valueFault? (rest.takeWhile (· != '=')) with
    | some fault => .error (.value fault)
    | none => .ok { d with field := some (String.ofList name), inSpan := true }

/-- A text without the white space around it, next to the text with it. A part is found in the first
and taken from the same bytes of the second. -/
private structure Padded where
  inner : List Char
  whole : List Char

/-- The characters that are in the place of `part`, after which `rest` is left of the inner text. -/
private def Padded.at (s : Padded) (part rest : List Char) : Except Fault (List Char) :=
  let stop := byteSize s.inner - byteSize rest
  match slice? (stop - byteSize part) stop s.whole with
  | some part => .ok part
  | none => .error .malformed

/-- The end of a directive: nothing, or an equals sign and a level, without which all levels are
meant. -/
private def Padded.level (s : Padded) (d : Directive) : List Char → Except Fault Directive
  | [] => .ok d
  | '=' :: rest =>
    match splitBytes? (byteSize s.inner - byteSize rest) s.whole with
    | none => .error .malformed
    | some (_, []) => .ok d
    | some (_, word) =>
      match Threshold.ofWord? (String.ofList word) with
      | some threshold => .ok { d with threshold }
      | none => .error .unknownLevel
  | _ => .error .malformed

/-- The part of a directive after an opening bracket: the name of a span, in braces a field, or
both, then the closing bracket and the level. -/
private def Padded.brackets (s : Padded) (d : Directive) (rest : List Char) :
    Except Fault Directive := do
  let name := rest.takeWhile fun c => c != ']' && c != '\x7b'
  let d := { d with inSpan := !name.isEmpty }
  match rest.drop name.length with
  | ']' :: rest => s.level { d with inSpan := true } rest
  | _ :: rest =>
    let field := rest.takeWhile (· != '\x7d')
    match rest.drop field.length with
    | '\x7d' :: rest =>
      if field.isEmpty then throw .malformed
      let d ← d.withField (← s.at field ('\x7d' :: rest))
      match rest with
      | ']' :: rest => s.level d rest
      | _ => throw .malformed
    | _ => throw .malformed
  | [] => throw .malformed

/-- The directive that a text is. White space around it is looked past only to find its parts: it
belongs to the words. -/
def ofText (text : String) : Except Fault Directive := do
  let s : Padded := ⟨trimWhite text.toList, text.toList⟩
  if !((s.inner.head?.map begins).getD false) then throw .malformed
  let word := s.inner.takeWhile fun c => c != '=' && c != '['
  match s.inner.drop word.length with
  | [] =>
    match Threshold.ofWord? text with
    | some threshold => return { threshold }
    | none => return { source := text }
  | '[' :: rest =>
    let source ← s.at word ('[' :: rest)
    s.brackets { source := String.ofList source } rest
  | rest =>
    let source ← s.at word rest
    s.level { source := String.ofList source } rest

example : (ofText " info").toOption = some { source := " info" } ∧
    (ofText "[\x7bexchange\x7d]=2").toOption =
      some { field := some "exchange", threshold := .atLeast .warn } ∧
    (ofText "relay=7").toOption = none := by decide +kernel

/-- Whether a record is one that the directive is about. Each record has a message. -/
def covers (d : Directive) (r : Record) : Bool :=
  !d.inSpan && r.source.path.startsWith d.source &&
    match d.field with
    | some name => name = "message" || r.fields.any (·.1 = name)
    | none => true

/-- Whether of two directives about the same record the second counts. -/
def yieldsTo (a b : Directive) : Bool :=
  if a.source.length = b.source.length then
    match a.field, b.field with
    | none, _ => true
    | some _, none => false
    | some x, some y => x ≤ y
  else
    a.source.length < b.source.length

end Directive

end ModemRelay.Log

import ModemRelay.Text.Decimal
import ModemRelay.Toml.Number

/-! Dates and times of a TOML document: the dates of the calendar, and the times of a day with or
without seconds and with or without the offset of their zone.

The same time may be written in several ways, of which `Time.text` is one. -/

namespace ModemRelay.Toml

open Text

structure Date where
  year : Nat
  month : Nat
  day : Nat

structure Clock where
  hour : Nat
  minute : Nat
  second : Nat
  nanosecond : Nat

/-- The zone of a time of the day. -/
inductive Zone where
  | universal
  /-- So many hours and minutes before the universal time, or behind it. -/
  | offset (behind : Bool) (hours minutes : Nat)

/-- A date or a time, or both. -/
inductive Time where
  | date (d : Date)
  | clock (c : Clock)
  | moment (d : Date) (c : Clock) (zone : Option Zone)

/-- A number of exactly so many digits, within bounds. -/
def fixedNumber (digits low high : Nat) : Reader Nat := fun s => do
  let ds ← (s.take digits).mapM fun c => if c.isDigit then hexDigit? c else none
  let n := ofDigits 10 ds
  if ds.length = digits ∧ low ≤ n ∧ n ≤ high then some (n, s.drop digits) else none

/-- One character out of a choice. -/
def oneOf (choice : List Char) : Reader Unit
  | c :: rest => if c ∈ choice then some ((), rest) else none
  | [] => none

/-- How many days a month has. -/
def daysIn (year month : Nat) : Nat :=
  if month = 2 then
    if year % 4 = 0 ∧ (year % 100 ≠ 0 ∨ year % 400 = 0) then 29 else 28
  else if month ∈ [4, 6, 9, 11] then 30
  else 31

namespace Time

def readDate : Reader Date := fun s => do
  let (year, s) ← fixedNumber 4 0 9999 s
  let ((), s) ← oneOf ['-'] s
  let (month, s) ← fixedNumber 2 1 12 s
  let ((), s) ← oneOf ['-'] s
  let (day, s) ← fixedNumber 2 1 (daysIn year month) s
  return (⟨year, month, day⟩, s)

/-- The billionths of a second, where a point announces them. Digits beyond the ninth do not
count. -/
def readFraction : Reader Nat
  | '.' :: rest =>
    match rest.takeWhile Char.isDigit with
    | [] => none
    | digits =>
      some (ofDecimalDigits ((digits ++ List.replicate 9 '0').take 9), rest.dropWhile Char.isDigit)
  | s => some (0, s)

def readClock : Reader Clock := fun s => do
  let (hour, s) ← fixedNumber 2 0 23 s
  let ((), s) ← oneOf [':'] s
  let (minute, s) ← fixedNumber 2 0 59 s
  match s with
  | ':' :: s =>
    let (second, s) ← fixedNumber 2 0 60 s
    let (nanosecond, s) ← readFraction s
    return (⟨hour, minute, second, nanosecond⟩, s)
  | s => return (⟨hour, minute, 0, 0⟩, s)

/-- A zone, where one stands. -/
def readZone : Reader (Option Zone)
  | [] => some (none, [])
  | 'Z' :: rest | 'z' :: rest => some (some .universal, rest)
  | sign :: s => do
    let ((), s) ← oneOf ['+', '-'] (sign :: s)
    let (hours, s) ← fixedNumber 2 0 23 s
    let ((), s) ← oneOf [':'] s
    let (minutes, s) ← fixedNumber 2 0 59 s
    return (some (.offset (sign == '-') hours minutes), s)

/-- The result of a reader that has read all of a text. -/
def whole? : Option (α × List Char) → Option α
  | some (a, []) => some a
  | _ => none

/-- The date or time that is all of a text. -/
def ofChars? (s : List Char) : Option Time :=
  match readDate s with
  | some (d, []) => some (.date d)
  | some (d, rest) => do
    let ((), rest) ← oneOf ['T', 't', ' '] rest
    let (c, rest) ← readClock rest
    return .moment d c (← whole? (readZone rest))
  | none => (whole? (readClock s)).map .clock

/-- Whether the text is a date without a time. -/
def isDate (s : List Char) : Bool := (whole? (readDate s)).isSome

private def dateText (d : Date) : String :=
  String.ofList (padded 4 d.year ++ '-' :: padded 2 d.month ++ '-' :: padded 2 d.day)

/-- A time of the day with its seconds, and the fraction of a second that is not zero. -/
private def clockText (c : Clock) : String :=
  String.ofList (padded 2 c.hour ++ ':' :: padded 2 c.minute ++ ':' :: padded 2 c.second) ++
    fraction 9 c.nanosecond

/-- A zone as its offset. No offset at all counts as one before the universal time. -/
private def zoneText : Zone → String
  | .universal => "Z"
  | .offset behind hours minutes =>
    let sign := if behind && (hours, minutes) != (0, 0) then '-' else '+'
    String.ofList (sign :: padded 2 hours ++ ':' :: padded 2 minutes)

def text : Time → String
  | date d => dateText d
  | clock c => clockText c
  | moment d c zone => dateText d ++ "T" ++ clockText c ++ (zone.map zoneText).getD ""

example : (ofChars? "1979-05-27 07:32-00:00".toList).map text =
    some "1979-05-27T07:32:00+00:00" := by decide +kernel

example : (ofChars? "24:00".toList).isNone ∧ (ofChars? "1979-02-29".toList).isNone := by
  decide +kernel

end Time

end ModemRelay.Toml

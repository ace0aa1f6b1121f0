/-! Numbers in decimal digits. -/

namespace ModemRelay.Text

/-- The number that decimal digits stand for. -/
def ofDecimalDigits (digits : List Char) : Nat :=
  digits.foldl (fun n c => 10 * n + (c.toNat - '0'.toNat)) 0

/-- A number of 64 bits in decimal digits, perhaps with a plus sign in front. -/
def decimal? (s : String) : Option UInt64 :=
  let digits :=
    match s.toList with
    | '+' :: rest => rest
    | cs => cs
  let n := ofDecimalDigits digits
  if !digits.isEmpty && digits.all Char.isDigit && n < UInt64.size then some (.ofNat n) else none

example : decimal? "+07" = some 7 ∧ decimal? "" = none ∧ decimal? "1.5" = none ∧
    decimal? "18446744073709551616" = none := by decide +kernel

/-- Whether characters are a number without a sign: digits with a point before, among or after them
and an exponent, or a word for infinity or for what is no number. -/
def isNumber (s : List Char) : Bool :=
  let isMark (c : Char) : Bool := c = 'e' || c = 'E'
  let digits := (s.takeWhile (!isMark ·)).erase '.'
  let power :=
    match s.dropWhile (!isMark ·) with
    | [] => ['0']
    | _ :: '+' :: rest => rest
    | _ :: '-' :: rest => rest
    | _ :: rest => rest
  let isDigits (ds : List Char) : Bool := !ds.isEmpty && ds.all Char.isDigit
  (isDigits digits && isDigits power) ||
    String.ofList (s.map Char.toLower) ∈ ["inf", "infinity", "nan"]

example : isNumber ['.', '5', 'e', '-', '1'] ∧ isNumber ['N', 'a', 'N'] ∧ ¬isNumber ['.'] ∧
    ¬isNumber ['1', 'e'] ∧ ¬isNumber ['1', '.', '.', '2'] := by decide +kernel

/-- A number in at least so many digits. -/
def padded (width n : Nat) : List Char := (Nat.toDigits 10 n).leftpad width '0'

/-- A remainder below `10 ^ width` as the digits after a point, trailing zeros left out. -/
def fraction (width remainder : Nat) : String :=
  let kept := ((padded width remainder).reverse.dropWhile (· == '0')).reverse
  if kept.isEmpty then "" else "." ++ String.ofList kept

example : fraction 3 40 = ".04" ∧ fraction 9 0 = "" := by decide +kernel

end ModemRelay.Text

/-! Readers of parts of a text.

A reader takes characters and gives what it has read with the characters that are left, or `none`
where there is nothing of its kind. -/

namespace ModemRelay.Text

/-- A reader of an `α`. -/
abbrev Reader (α : Type) := List Char → Option (α × List Char)

/-- The value of a hexadecimal digit. -/
def hexDigit? (c : Char) : Option Nat :=
  if '0' ≤ c && c ≤ '9' then some (c.toNat - '0'.toNat)
  else if 'a' ≤ c && c ≤ 'f' then some (c.toNat - 'a'.toNat + 10)
  else if 'A' ≤ c && c ≤ 'F' then some (c.toNat - 'A'.toNat + 10)
  else none

/-- The number whose next `digits` hexadecimal digits follow those that stand for `before`. After
each of them, `skip` passes over what is not part of the number. -/
def hexNumber (skip : List Char → List Char) (digits before : Nat) : Reader Nat := fun s =>
  match digits, s with
  | 0, s => some (before, s)
  | _ + 1, [] => none
  | digits + 1, c :: rest => do hexNumber skip digits (16 * before + (← hexDigit? c)) (skip rest)

/-- The character whose number is the next `digits` hexadecimal digits. -/
def hexCharacter (skip : List Char → List Char) (digits : Nat) : Reader Char := fun s => do
  let (number, rest) ← hexNumber skip digits 0 s
  if number.isValidChar then some (Char.ofNat number, rest) else none

end ModemRelay.Text

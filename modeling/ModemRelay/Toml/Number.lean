import ModemRelay.Toml.Text

/-! Numbers of a TOML document.

Digits may be parted by single underscores. An integer is decimal, with a sign if need be and no
needless zero in front, or has a base of two, eight or sixteen named before its digits. -/

namespace ModemRelay.Toml

open Text

/-- Digits without the underscores between them, at least one, and nothing else. -/
def digits? (base : Nat) : List Char → Option (List Nat)
  | [] => none
  | [c] => (digit? c).map ([·])
  | c :: '_' :: rest => do return (← digit? c) :: (← digits? base rest)
  | c :: rest => do return (← digit? c) :: (← digits? base rest)
where
  digit? (c : Char) : Option Nat := (hexDigit? c).filter (· < base)

def ofDigits (base : Nat) (digits : List Nat) : Nat := digits.foldl (fun n d => base * n + d) 0

/-- Decimal digits without a needless zero in front. -/
def plainDigits? (s : List Char) : Option (List Nat) :=
  match digits? 10 s with
  | some (0 :: _ :: _) => none
  | digits => digits

/-- A sign, where one stands, and what is left. -/
def sign (s : List Char) : Bool × List Char :=
  match s with
  | '+' :: rest => (false, rest)
  | '-' :: rest => (true, rest)
  | _ => (false, s)

/-- The integer that is all of the text. -/
def integer? : List Char → Option Int
  | '0' :: 'x' :: rest => (digits? 16 rest).map fun ds => (ofDigits 16 ds : Int)
  | '0' :: 'o' :: rest => (digits? 8 rest).map fun ds => (ofDigits 8 ds : Int)
  | '0' :: 'b' :: rest => (digits? 2 rest).map fun ds => (ofDigits 2 ds : Int)
  | s =>
    let (negative, rest) := sign s
    (plainDigits? rest).map fun ds =>
      if negative then -(ofDigits 10 ds : Int) else (ofDigits 10 ds : Int)

/-- Whether an integer is one that a document may hold: it fits into 64 bits, signed or not. -/
def inRange (n : Int) : Bool := -9_223_372_036_854_775_808 ≤ n && n < 18_446_744_073_709_551_616

/-- Whether the fraction `digits`, taken times ten to the power `exponent`, rounds to a finite
double. -/
def isFinite (digits : List Nat) (exponent : Int) : Bool :=
  let significant := digits.dropWhile (· == 0)
  let magnitude : Int := significant.length + exponent
  if significant.isEmpty || magnitude < 300 then true
  else if 320 < magnitude then false
  else
    let limit := 1 <<< 1024 - 1 <<< 970
    let value := ofDigits 10 significant
    if 0 ≤ exponent then value * Nat.pow 10 exponent.toNat < limit
    else value < limit * Nat.pow 10 (-exponent).toNat

/-- Whether the text without its sign is a fraction: digits before the point, then digits after it,
an exponent, or both. -/
def isFraction (s : List Char) : Bool :=
  let isMark (c : Char) : Bool := c = 'e' || c = 'E'
  let mantissa := s.takeWhile (!isMark ·)
  let power := (s.dropWhile (!isMark ·)).drop 1
  let whole := mantissa.takeWhile (· != '.')
  let part := (mantissa.dropWhile (· != '.')).drop 1
  let (negative, magnitude) := sign power
  let pointed := mantissa.contains '.'
  let marked := s.any isMark
  match plainDigits? whole, if pointed then digits? 10 part else some [],
      if marked then digits? 10 magnitude else some [] with
  | some ds, some es, some ps =>
    let exponent : Int := if negative then -(ofDigits 10 ps : Int) else (ofDigits 10 ps : Int)
    (pointed || marked) && isFinite (ds ++ es) (exponent - es.length)
  | _, _, _ => false

/-- Whether the text is a number that is no integer. -/
def isFloat (s : List Char) : Bool :=
  let (_, rest) := sign s
  rest = ['i', 'n', 'f'] || rest = ['n', 'a', 'n'] || isFraction rest

end ModemRelay.Toml

import ModemRelay.Text.Ranges

/-! White space of all scripts, and texts without it around them. -/

namespace ModemRelay.Text

def whiteRanges : List (Nat × Nat) :=
  [(0x9, 0xd), (0x20, 0x20), (0x85, 0x85), (0xa0, 0xa0), (0x1680, 0x1680), (0x2000, 0x200a),
   (0x2028, 0x2029), (0x202f, 0x202f), (0x205f, 0x205f), (0x3000, 0x3000)]

def isWhite (c : Char) : Bool := inRanges whiteRanges c

/-- A text without the white space in front of it and after it. -/
def trimWhite (s : List Char) : List Char :=
  ((s.dropWhile isWhite).reverse.dropWhile isWhite).reverse

example : trimWhite ['\x0b', 'a', ' ', 'b', '\u3000', '\n'] = ['a', ' ', 'b'] := by decide +kernel

end ModemRelay.Text

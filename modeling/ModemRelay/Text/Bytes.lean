/-! Places in a text, counted in bytes of its encoding. -/

namespace ModemRelay.Text

/-- How many bytes characters take. -/
def byteSize : List Char → Nat
  | [] => 0
  | c :: rest => c.utf8Size + byteSize rest

/-- A text cut after so many bytes, if a character ends there. -/
def splitBytes? : Nat → List Char → Option (List Char × List Char)
  | 0, s => some ([], s)
  | _ + 1, [] => none
  | n + 1, c :: rest =>
    if c.utf8Size ≤ n + 1 then
      (splitBytes? (n + 1 - c.utf8Size) rest).map fun (front, back) => (c :: front, back)
    else
      none

theorem splitBytes?_eq_some {n : Nat} {s front back : List Char}
    (h : splitBytes? n s = some (front, back)) : s = front ++ back ∧ byteSize front = n := by
  induction s generalizing n front with
  | nil => cases n <;> simp_all [splitBytes?, byteSize]
  | cons c rest ih =>
    cases n with
    | zero => simp_all [splitBytes?, byteSize]
    | succ n =>
      simp only [splitBytes?] at h
      split at h
      · obtain ⟨⟨front', back'⟩, hrest, heq⟩ := Option.map_eq_some_iff.1 h
        obtain ⟨rfl, rfl⟩ := Prod.mk.inj heq
        obtain ⟨rfl, hsize⟩ := ih hrest
        exact ⟨rfl, by simp only [byteSize, hsize]; omega⟩
      · cases h

/-- The characters from one place of a text up to another, if both are between characters. -/
def slice? (start stop : Nat) (s : List Char) : Option (List Char) := do
  let (_, rest) ← splitBytes? start s
  return (← splitBytes? (stop - start) rest).1

end ModemRelay.Text

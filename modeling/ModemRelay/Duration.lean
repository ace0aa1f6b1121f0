import ModemRelay.Text.Decimal

/-! Spans of virtual time, exact to the nanosecond and bounded above.

A duration holds at most `2 ^ 64 - 1` whole seconds and `999 999 999` nanoseconds. Addition is
partial: `add?` is `none` exactly when the sum would leave that range. A count of milliseconds
that fits in 64 bits always fits (`ofMillis`). -/

namespace ModemRelay

/-- A span of time in nanoseconds, of at most `2 ^ 64 - 1` seconds and `999 999 999` nanoseconds. -/
structure Duration where
  nanos : Nat
  bounded : nanos < 18_446_744_073_709_551_616_000_000_000
  deriving DecidableEq

namespace Duration

theorem ext {a b : Duration} (h : a.nanos = b.nanos) : a = b := by
  cases a; cases b; cases h; rfl

def zero : Duration := ⟨0, by decide⟩

instance : Inhabited Duration := ⟨zero⟩

/-- The span of `ms` milliseconds. The product recurses on its second factor, and the kernel would
take a literal there apart. -/
def ofMillis (ms : UInt64) : Duration :=
  ⟨1_000_000 * ms.toNat, by have := ms.toNat_lt; omega⟩

/-- The nanoseconds of the longest span that is given in milliseconds. -/
def millisSpan : Nat := 1_000_000 * 18_446_744_073_709_551_615

/-- The span of whole seconds and nanoseconds, where the nanoseconds stay below a second. -/
def ofSeconds? (seconds nanos : Nat) : Option Duration :=
  if h : nanos < 1_000_000_000 ∧ seconds < 18_446_744_073_709_551_616 then
    some ⟨seconds * 1_000_000_000 + nanos, by omega⟩
  else
    none

def seconds (d : Duration) : Nat := d.nanos / 1_000_000_000

/-- Nanoseconds of the span past its whole seconds. -/
def subsecNanos (d : Duration) : Nat := d.nanos % 1_000_000_000

def millis (d : Duration) : Nat := d.nanos / 1_000_000

/-- The sum, where it is in range. -/
def add? (a b : Duration) : Option Duration :=
  if h : a.nanos + b.nanos < 18_446_744_073_709_551_616_000_000_000 then
    some ⟨a.nanos + b.nanos, h⟩
  else
    none

/-- The difference, zero where `b` is the longer span. -/
def sub (a b : Duration) : Duration :=
  ⟨a.nanos - b.nanos, by have := a.bounded; omega⟩

instance : Sub Duration := ⟨sub⟩

instance : LE Duration := ⟨fun a b => a.nanos ≤ b.nanos⟩

instance : LT Duration := ⟨fun a b => a.nanos < b.nanos⟩

instance (a b : Duration) : Decidable (a ≤ b) := inferInstanceAs (Decidable (a.nanos ≤ b.nanos))

instance (a b : Duration) : Decidable (a < b) := inferInstanceAs (Decidable (a.nanos < b.nanos))

def max (a b : Duration) : Duration := if a ≤ b then b else a

instance : Max Duration := ⟨max⟩

theorem le_def {a b : Duration} : a ≤ b ↔ a.nanos ≤ b.nanos := .rfl

theorem lt_def {a b : Duration} : a < b ↔ a.nanos < b.nanos := .rfl

@[simp] theorem nanos_zero : zero.nanos = 0 := rfl

@[simp] theorem nanos_ofMillis (ms : UInt64) : (ofMillis ms).nanos = 1_000_000 * ms.toNat := rfl

theorem nanos_ofMillis_le (ms : UInt64) : (ofMillis ms).nanos ≤ millisSpan := by
  have := ms.toNat_lt
  rw [nanos_ofMillis, millisSpan]
  omega

@[simp] theorem nanos_sub (a b : Duration) : (a - b).nanos = a.nanos - b.nanos := rfl

theorem nanos_max (a b : Duration) : (Max.max a b).nanos = Max.max a.nanos b.nanos := by
  change (if a.nanos ≤ b.nanos then b else a).nanos = _
  split <;> omega

theorem le_max_left (a b : Duration) : a ≤ Max.max a b := by
  rw [le_def, nanos_max]
  exact Nat.le_max_left ..

theorem le_max_right (a b : Duration) : b ≤ Max.max a b := by
  rw [le_def, nanos_max]
  exact Nat.le_max_right ..

theorem add?_eq_some_iff {a b c : Duration} :
    a.add? b = some c ↔ c.nanos = a.nanos + b.nanos := by
  unfold add?
  split
  · next h =>
    constructor
    · intro hc; cases hc; rfl
    · intro hc; exact congrArg some (ext hc.symm)
  · next h =>
    have := c.bounded
    constructor
    · intro hc; cases hc
    · intro hc; omega

theorem add?_eq_none_iff {a b : Duration} :
    a.add? b = none ↔ 18_446_744_073_709_551_616_000_000_000 ≤ a.nanos + b.nanos := by
  unfold add?
  split <;> simp <;> omega

theorem le_of_add? {a b c : Duration} (h : a.add? b = some c) : a ≤ c := by
  rw [le_def, add?_eq_some_iff.mp h]
  exact Nat.le_add_right ..

/-- The span in the largest unit that is not zero, of `s`, `ms`, `µs` and `ns`, with its exact
decimal fraction. -/
def text (d : Duration) : String :=
  if 1_000_000_000 ≤ d.nanos then
    toString d.seconds ++ Text.fraction 9 d.subsecNanos ++ "s"
  else if 1_000_000 ≤ d.nanos then
    toString d.millis ++ Text.fraction 6 (d.nanos % 1_000_000) ++ "ms"
  else if 1_000 ≤ d.nanos then
    toString (d.nanos / 1_000) ++ Text.fraction 3 (d.nanos % 1_000) ++ "µs"
  else
    toString d.nanos ++ "ns"

example : zero.text = "0ns" ∧ (ofMillis 1500).text = "1.5s" ∧ (ofMillis 20).text = "20ms" := by
  decide +kernel

end Duration

end ModemRelay

import ModemRelay.Toml.Document

/-! Taking typed fields out of the entries of a table. -/

namespace ModemRelay.Toml

namespace Value

def text? : Value → Option String
  | string s => some s
  | _ => none

/-- The number, of an integer from zero to the largest of 64 bits. -/
def word? : Value → Option UInt64
  | integer n => if 0 ≤ n ∧ n < 18_446_744_073_709_551_616 then some (.ofNat n.toNat) else none
  | _ => none

/-- The number, of an integer from zero to the largest of 64 bits. -/
def count? (v : Value) : Option Nat := v.word?.map (·.toNat)

/-- The entries, of a table. A date or time is a table too, of its text under a name that is kept
for it. -/
def entries? : Value → Option Entries
  | table _ entries => some entries
  | time t => some [("$__toml_private_datetime", .string t.text)]
  | _ => none

def items? : Value → Option (List Value)
  | array items => some items
  | tables elements => some (elements.reverse.map (.table .header))
  | _ => none

def texts? (v : Value) : Option (List String) := v.items? >>= (·.mapM text?)

end Value

namespace Entries

/-- Whether no entry has a name other than these. -/
def onlyHas (entries : Entries) (names : List String) : Bool := entries.all (·.1 ∈ names)

/-- The field of this name, which has to be there and be read. -/
def required? (entries : Entries) (name : String) (read : Value → Option α) : Option α :=
  entries.lookup name >>= read

/-- The field of this name, which has to be read if it is there. -/
def optional? (entries : Entries) (name : String) (read : Value → Option α) :
    Option (Option α) :=
  match entries.lookup name with
  | some v => (read v).map some
  | none => some none

/-- The field of this name, which has to be read if it is there and else has a default. -/
def orDefault? (entries : Entries) (name : String) (default : α) (read : Value → Option α) :
    Option α :=
  (entries.optional? name read).map (·.getD default)

end Entries

end ModemRelay.Toml

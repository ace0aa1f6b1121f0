import ModemRelay.Log.Directive

/-! Which log records are shown.

A filter is a list of directives, written with commas between them. For a record counts the
directive with the longest fitting beginning of a path, of these one with a field before one
without, and of equal ones the last. -/

namespace ModemRelay.Log

/-- The directives of a filter, in order. Without any, nothing is shown. -/
structure Filter where
  directives : List Directive
  deriving DecidableEq

namespace Filter

/-- The parts of a filter's text. -/
private def parts (s : String) : List String := (s.splitOn ",").filter (!·.isEmpty)

/-- The filter of a text, each part of which has to be a directive. -/
def ofText? (s : String) : Option Filter :=
  ((parts s).mapM fun part => (Directive.ofText part).toOption).map (⟨·⟩)

/-- The filter of those parts of a text that are directives. If none is, errors are shown. -/
def ofTextPartly (s : String) : Filter :=
  match (parts s).filterMap fun part => (Directive.ofText part).toOption with
  | [] => ⟨[{ threshold := .atLeast .error }]⟩
  | directives => ⟨directives⟩

/-- The parts of a text that are no directives, with what is wrong with them. -/
def unread (s : String) : List (String × Directive.Fault) :=
  (parts s).filterMap fun part =>
    match Directive.ofText part with
    | .ok _ => none
    | .error fault => some (part, fault)

/-- The directive that counts for a record. -/
def directive? (f : Filter) (r : Record) : Option Directive :=
  (f.directives.filter (·.covers r)).foldl (fun best d =>
    match best with
    | some b => if b.yieldsTo d then some d else some b
    | none => some d) none

def allows (f : Filter) (r : Record) : Bool :=
  match f.directive? r with
  | some d => d.threshold.allows r.level
  | none => false

end Filter

end ModemRelay.Log

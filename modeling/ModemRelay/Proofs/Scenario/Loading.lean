import ModemRelay.Proofs.Scenario.Horizon
import ModemRelay.Scenario.Decode
import ModemRelay.Scenario.Report

/-!
# Scenarios that are loaded

A scenario that is read from a file gives its response timeout in milliseconds, like all its times
(`exists_ofMillis_of_load`), so that its session can be played to its end. Its report passes just
where the session is all that the scenario expects of it (`passed_report_iff`).
-/

namespace ModemRelay

open Toml

/-- A field that has been read has its default or is what has been read. -/
theorem Toml.Entries.orDefault?_eq_some {α : Type} {entries : Entries} {name : String}
    {default a : α} {read : Value → Option α}
    (h : entries.orDefault? name default read = some a) : a = default ∨ ∃ v, read v = some a := by
  obtain ⟨found, hfound, rfl⟩ := Option.map_eq_some_iff.mp h
  unfold optional? at hfound
  split at hfound
  · next v _ =>
    obtain ⟨b, hread, rfl⟩ := Option.map_eq_some_iff.mp hfound
    exact .inr ⟨v, hread⟩
  · cases hfound
    exact .inl rfl

/-- The settings of a relay that are read give a timeout in milliseconds. -/
theorem Relay.Config.exists_ofMillis_of_entries {entries : Entries} {config : Relay.Config}
    (h : ofEntries? entries = some config) : ∃ ms, config.responseTimeout = .ofMillis ms := by
  simp only [ofEntries?, Option.bind_eq_bind, Option.bind_eq_some_iff] at h
  obtain ⟨-, -, timeout, htimeout, hconfig⟩ := h
  cases hconfig
  rcases Entries.orDefault?_eq_some htimeout with hdefault | ⟨v, hread⟩
  · exact ⟨30000, hdefault⟩
  · obtain ⟨ms, -, hms⟩ := Option.map_eq_some_iff.mp hread
    exact ⟨ms, hms.symm⟩

namespace Scenario
open Simulation

variable {s : Scenario} {entries : Entries} {path text : String}
  {contents : Except ReadFault ByteArray} {e : Error}

/-- The settings of the relay are those that have been read. -/
theorem relay_of_entries (h : ofEntries? entries = some s) :
    entries.orDefault? "transceiver" {} (fun v => v.entries? >>= Relay.Config.ofEntries?) =
      some s.relay := by
  simp only [ofEntries?, Option.bind_eq_bind, Option.bind_eq_some_iff] at h
  grind

theorem exists_ofMillis_of_entries (h : ofEntries? entries = some s) :
    ∃ ms, s.relay.responseTimeout = .ofMillis ms := by
  rcases Entries.orDefault?_eq_some (relay_of_entries h) with hdefault | ⟨v, hread⟩
  · exact ⟨30000, congrArg (·.responseTimeout) hdefault⟩
  · obtain ⟨table, -, htable⟩ := Option.bind_eq_some_iff.mp hread
    exact Relay.Config.exists_ofMillis_of_entries htable

/-- **A scenario that is loaded gives its response timeout in milliseconds.** -/
theorem exists_ofMillis_of_load (h : load path contents = .ok s) :
    ∃ ms, s.relay.responseTimeout = .ofMillis ms := by
  unfold load at h
  split at h
  · cases h
  · unfold ofToml at h
    split at h
    · cases h
    · next s' hs' =>
      split at h
      · cases h
      · cases h
        obtain ⟨entries, -, hentries⟩ := Option.bind_eq_some_iff.mp hs'
        exact exists_ofMillis_of_entries hentries

/-- A file that cannot be loaded cannot be read, holds no scenario, or holds one that no session
could be as. -/
theorem load_eq_error (h : load path contents = .error e) :
    (∃ fault, e = .unreadable path fault) ∨ e = .malformed ∨ ∃ cause, e = .impossible cause := by
  unfold load at h
  split at h
  · next fault _ =>
    cases h
    exact .inl ⟨fault, rfl⟩
  · unfold ofToml at h
    split at h
    · cases h
      exact .inr (.inl rfl)
    · split at h
      · next cause _ =>
        cases h
        exact .inr (.inr ⟨cause, rfl⟩)
      · cases h

/-! ## What is expected of a session -/

/-- A session is all that is expected of it. -/
structure Expectations.Met (expect : Expectations) (session : Session) : Prop where
  responses : ∀ lines ∈ expect.responses, session.delivered = lines
  mismatches : ∀ n ∈ expect.mismatches, session.failures.mismatches = n
  timeouts : ∀ n ∈ expect.timeouts, session.failures.timeouts = n
  mode : ∀ mode ∈ expect.mode, session.relay.mode = mode

theorem differing_eq_nil_iff {α : Type} [DecidableEq α] {violation : α → α → Violation}
    {expected : Option α} {actual : α} :
    differing violation expected actual = [] ↔ ∀ a ∈ expected, actual = a := by
  unfold differing
  cases expected with
  | none => simp
  | some a => simpa using eq_comm

/-- **A report passes just where the session is all that the scenario expects of it.** -/
theorem passed_report_iff {session : Session} :
    (s.report session).passed = true ↔ s.expect.Met session := by
  rw [Report.passed, List.isEmpty_iff, report, Expectations.violations]
  simp only [List.append_eq_nil_iff, differing_eq_nil_iff]
  exact ⟨fun ⟨⟨⟨hr, hm⟩, ht⟩, hmode⟩ => ⟨hr, hm, ht, hmode⟩,
    fun h => ⟨⟨⟨h.responses, h.mismatches⟩, h.timeouts⟩, h.mode⟩⟩

instance (expect : Expectations) (session : Session) : Decidable (expect.Met session) :=
  decidable_of_iff (({ expect : Scenario }.report session).passed = true) passed_report_iff

end Scenario

end ModemRelay

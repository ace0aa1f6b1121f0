import ModemRelay.Proofs.Scenario.Loading
import ModemRelay.Replay.Run

/-!
# How a replay ends

A replay goes through its files in order. The first that cannot be loaded ends it, after all before
it have been replayed and whatever has come of them (`runAll_of_error`). Where all can be loaded, it
passes if each session is what its scenario expects of it, and else says how many are not
(`ofRuns_of_loaded`). What is expected does not depend on the overrides, which replace the seed, the
mode at the start and the response timeout and nothing else (`apply_eq_override`).
-/

namespace ModemRelay.Replay

variable {load : String → Except Scenario.Error Scenario} {o : Overrides} {path : String}
  {paths before after : List String} {scenarios : List Scenario} {e : Scenario.Error}

/-! ## Overrides -/

/-- The scenario with the settings that are overridden. -/
def Overrides.override (o : Overrides) (s : Scenario) : Scenario :=
  { s with
    seed := o.seed.getD s.seed
    mode := o.mode.getD s.mode
    relay.responseTimeout := (o.timeout.map .ofMillis).getD s.relay.responseTimeout }

theorem Overrides.apply_eq_override (o : Overrides) (s : Scenario) :
    o.apply s = o.override s := by
  obtain ⟨seed, mode, timeout⟩ := o
  cases seed <;> cases mode <;> cases timeout <;> rfl

/-- The session of a scenario with overrides is all that the scenario expects. -/
def Overrides.Meets (o : Overrides) (s : Scenario) : Prop :=
  s.expect.Met (o.override s).play.state

instance (o : Overrides) (s : Scenario) : Decidable (o.Meets s) :=
  inferInstanceAs (Decidable (s.expect.Met (o.override s).play.state))

/-- A scenario that is loaded can be played to its end, also with overrides. -/
theorem Overrides.exists_play_override {s : Scenario} {contents : Except ReadFault ByteArray}
    (o : Overrides) (h : Scenario.load path contents = .ok s) :
    ∃ n session, (o.override s).play = .done n session := by
  have htimeout : ∃ ms, (o.override s).relay.responseTimeout = .ofMillis ms := by
    cases ht : o.timeout with
    | none => simpa [override, ht] using Scenario.exists_ofMillis_of_load h
    | some ms => exact ⟨ms, by simp [override, ht]⟩
  obtain ⟨ms, hms⟩ := htimeout
  obtain ⟨-, ⟨n, session, hplay, -⟩, -⟩ := Scenario.horizon_play (o.override s) ms hms
  exact ⟨n, session, hplay⟩

/-! ## Runs -/

/-- The scenarios that the files of some paths hold. -/
abbrev Loaded (load : String → Except Scenario.Error Scenario) :
    List String → List Scenario → Prop :=
  List.Forall₂ fun path s => load path = .ok s

theorem exists_load_of_mem {s : Scenario} (h : Loaded load paths scenarios) (hs : s ∈ scenarios) :
    ∃ path, load path = .ok s := by
  induction h with
  | nil => cases hs
  | @cons path _ _ _ hload _ ih =>
    rcases List.mem_cons.mp hs with rfl | hs
    · exact ⟨path, hload⟩
    · exact ih hs

/-- The runs of scenarios that have been loaded, each under its path. -/
def runsOf (o : Overrides) (paths : List String) (scenarios : List Scenario) : List Run :=
  List.zipWith (fun path s => runOne path (o.override s)) paths scenarios

/-- The files that can be loaded are replayed, whatever comes after them. -/
theorem runAll_append (h : Loaded load before scenarios) (after : List String) :
    runAll load o (before ++ after) =
      (runsOf o before scenarios ++ (runAll load o after).1, (runAll load o after).2) := by
  induction h with
  | nil => rfl
  | cons hload _ ih =>
    rw [List.cons_append, runAll, hload, runsOf, List.zipWith_cons_cons, ← runsOf, ih]
    dsimp only
    rw [o.apply_eq_override, List.cons_append]

/-- **The first file that cannot be loaded ends the replay**, after those before it. -/
theorem runAll_of_error (h : Loaded load before scenarios) (he : load path = .error e) :
    runAll load o (before ++ path :: after) = (runsOf o before scenarios, some e) := by
  rw [runAll_append h, runAll, he, List.append_nil]

theorem runAll_of_loaded (h : Loaded load paths scenarios) :
    runAll load o paths = (runsOf o paths scenarios, none) := by
  simpa [runAll] using runAll_append (o := o) h []

/-- What the runs come to depends on the scenarios alone. -/
theorem countP_runsOf (h : Loaded load paths scenarios) :
    (runsOf o paths scenarios).countP (!·.report.passed) =
      scenarios.countP fun s => ¬o.Meets s := by
  induction h with
  | nil => rfl
  | @cons path s _ _ _ _ ih =>
    have hpassed : (runOne path (o.override s)).report.passed = decide (o.Meets s) :=
      Bool.eq_iff_iff.mpr (Scenario.passed_report_iff.trans decide_eq_true_iff.symm)
    rw [runsOf, List.zipWith_cons_cons, ← runsOf, List.countP_cons, List.countP_cons, ih, hpassed,
      decide_not]

theorem length_runsOf (h : Loaded load paths scenarios) :
    (runsOf o paths scenarios).length = paths.length := by
  rw [runsOf, List.length_zipWith, h.length_eq, Nat.min_self]

/-- **Where all files can be loaded, a replay passes if all expectations are met**, and else counts
the scenarios that miss one. -/
theorem ofRuns_of_loaded (h : Loaded load paths scenarios) :
    Ending.ofRuns (runsOf o paths scenarios) none =
      if ∀ s ∈ scenarios, o.Meets s then .passed paths.length
      else .failed (scenarios.countP fun s => ¬o.Meets s) paths.length := by
  have hall : (scenarios.countP fun s => ¬o.Meets s) = 0 ↔ ∀ s ∈ scenarios, o.Meets s := by
    rw [List.countP_eq_zero]
    simp
  dsimp only [Ending.ofRuns]
  simp only [countP_runsOf h, length_runsOf h, hall]

/-! ## The program -/

/-- The program ends with an exit code and problems where it is asked to replay these files, given
what reading each file comes to. Complaints about the log filter come first. -/
def Exits (read : String → Except ReadFault ByteArray) (o : Overrides) (paths : List String)
    (code : Nat) (problems : List String) : Prop :=
  ∀ args environment level, Request.ofArguments args = .replay ⟨paths, o, level⟩ →
    (run args environment read).exitCode = code ∧
      (run args environment read).errorLines =
        complaints environment level ++ problems.map ("Error: " ++ ·)

theorem exits_of_ending {read : String → Except ReadFault ByteArray} {ending : Ending}
    (h : (replay (fun path => Scenario.load path (read path)) o paths).1 = ending) :
    Exits read o paths (if ending.problem?.isNone then 0 else 1) ending.problem?.toList := by
  subst h
  intro args environment level hargs
  unfold run
  rw [hargs]
  refine ⟨?_, rfl⟩
  dsimp only
  cases (replay (fun path => Scenario.load path (read path)) o paths).1.problem? <;> rfl

/-- **How a replay ends.** The first file that cannot be loaded ends it with its error. All files
before it have been replayed, whatever came of them, and none after it has. What is then printed of
a text that is not a scenario is left open. Where all files can be loaded, all sessions come to
their end, and the replay passes just where each is what its scenario expects of it. Else it fails,
and says how many scenarios are not met. -/
theorem replay_ends (read : String → Except ReadFault ByteArray) (o : Overrides)
    (paths : List String) :
    let load (path : String) := Scenario.load path (read path)
    (∀ before path after scenarios e, paths = before ++ path :: after →
      Loaded load before scenarios → load path = .error e →
        ((∃ fault, e = .unreadable path fault) ∨ e = .malformed ∨ ∃ cause, e = .impossible cause) ∧
        replay load o paths = (.stopped e, (runsOf o before scenarios).flatMap (·.log)) ∧
        ∃ text, Exits read o paths 1 [text] ∧ (e ≠ .malformed → text = errorDetail e)) ∧
    ∀ scenarios, Loaded load paths scenarios →
      (∀ s ∈ scenarios, ∃ n session, (o.override s).play = .done n session) ∧
      ((∀ s ∈ scenarios, o.Meets s) →
        (replay load o paths).1 = .passed paths.length ∧ Exits read o paths 0 []) ∧
      ((∃ s ∈ scenarios, ¬o.Meets s) →
        let missed := scenarios.countP fun s => ¬o.Meets s
        (replay load o paths).1 = .failed missed paths.length ∧
          Exits read o paths 1 [Text.quote
            (toString missed ++ " of " ++ toString paths.length ++ " scenarios failed")]) := by
  intro load
  refine ⟨fun before path after scenarios e hpaths hbefore he => ?_, fun scenarios h => ?_⟩
  · have hreplay : replay load o paths =
        (.stopped e, (runsOf o before scenarios).flatMap (·.log)) := by
      rw [replay, hpaths, runAll_of_error hbefore he]
      exact congrArg (Prod.mk _) (List.append_nil _)
    exact ⟨Scenario.load_eq_error he, hreplay, errorDetail e,
      exits_of_ending (congrArg (·.1) hreplay), fun _ => rfl⟩
  · have hending : (replay load o paths).1 =
        if ∀ s ∈ scenarios, o.Meets s then .passed paths.length
        else .failed (scenarios.countP fun s => ¬o.Meets s) paths.length := by
      rw [replay, runAll_of_loaded h]
      exact ofRuns_of_loaded h
    refine ⟨fun s hs => ?_, fun hall => ?_, fun ⟨s, hs, hmiss⟩ => ?_⟩
    · obtain ⟨path, hload⟩ := exists_load_of_mem h hs
      exact o.exists_play_override hload
    · rw [if_pos hall] at hending
      exact ⟨hending, exits_of_ending hending⟩
    · rw [if_neg fun hall => hmiss (hall s hs)] at hending
      exact ⟨hending, exits_of_ending hending⟩

/-- Two files: one expects a mode that takes a modem but has none, the other expects nothing. -/
def shelf (path : String) : Except ReadFault ByteArray :=
  match path with
  | "strict" => .ok "[expect]\nmode = \"pass-through\"\n".toUTF8
  | "empty" => .ok .empty
  | _ => .error .notFound

theorem replay_ends_shelf :
    let o : Overrides := { mode := some .passThrough }
    let load (path : String) := Scenario.load path (shelf path)
    (∃ log, replay load o ["strict", "missing", "empty"] =
      (.stopped (.unreadable "missing" .notFound), log)) ∧
    (replay load o ["strict", "empty", "strict"]).1 = .failed 2 3 ∧
    (run ["--mode=pass-through", "empty"] none shelf).exitCode = 0 := by
  intro o load
  have hload (found : Except Scenario.Error Scenario) (h : found.toOption.isSome = true) :
      found = .ok (found.toOption.get h) := by
    cases found with
    | error e => cases h
    | ok s => rfl
  have hstrict := hload (load "strict") (by decide +kernel)
  have hempty := hload (load "empty") (by decide +kernel)
  have hmissing : load "missing" = .error (.unreadable "missing" .notFound) := rfl
  have hmiss : ¬o.Meets ((load "strict").toOption.get (by decide +kernel)) := by
    rw [Overrides.Meets, ← Scenario.evaluate_eq]
    decide +kernel
  have hmeets : o.Meets ((load "empty").toOption.get (by decide +kernel)) := by
    rw [Overrides.Meets, ← Scenario.evaluate_eq]
    decide +kernel
  obtain ⟨-, hstopped, -⟩ := (replay_ends shelf o ["strict", "missing", "empty"]).1 ["strict"] _ _
    _ _ rfl (.cons hstrict .nil) hmissing
  obtain ⟨-, -, hfailed⟩ := (replay_ends shelf o ["strict", "empty", "strict"]).2 _
    (.cons hstrict (.cons hempty (.cons hstrict .nil)))
  obtain ⟨-, hpassed, -⟩ := (replay_ends shelf o ["empty"]).2 _ (.cons hempty .nil)
  obtain ⟨hending, -⟩ := hfailed ⟨_, List.mem_cons_self, hmiss⟩
  obtain ⟨-, hexits⟩ := hpassed (by simpa using hmeets)
  obtain ⟨hcode, -⟩ := hexits ["--mode=pass-through", "empty"] none none (by decide +kernel)
  refine ⟨⟨_, hstopped⟩, hending.trans ?_, hcode⟩
  simp [hmiss, hmeets]

end ModemRelay.Replay

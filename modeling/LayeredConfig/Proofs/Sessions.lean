import LayeredConfig.Proofs.Layers
import LayeredConfig.Session

/-! Sessions keep their settings normal. Whatever operations follow one another, failing ones
included, a configuration is built from the settings at any time and has all their values; and what
an override or an assembly returns has a host and the port that its text asks for. -/

namespace LayeredConfig

/-- Whether a configuration has a host that is no wildcard, a log level that exists if it has one,
and the port that its port text asks for. -/
structure Config.IsSettled (config : Config) : Prop where
  host_ne_none : config.settings.host ≠ none
  host_ne_wildcard : config.settings.host ≠ some "*"
  logLevel_mem : config.settings.get .logLevel ∈ [.absent, .text "debug", .text "info"]
  port_eq : ∀ text n, config.settings.portText = some text → Number.parse? text = some n →
    config.settings.port = n

namespace Settings

theorem get_logLevel_mem (s : Settings) :
    s.get .logLevel ∈ [.absent, .text "debug", .text "info"] := by
  rcases hl : s.logLevel with _ | level
  · simp [get, hl, Value.ofText?]
  · cases level <;> simp [get, hl, Value.ofText?, LogLevel.text]

theorem IsNormal.isSettled_reconciled {s : Settings} (hs : s.IsNormal) (h : s.host ≠ none) :
    Config.IsSettled ⟨s.reconciled⟩ := by
  refine ⟨h, hs.host_ne, get_logLevel_mem _, fun text n ht hn => ?_⟩
  change s.portText = some text at ht
  simp [Settings.reconciled, ht, hn]

theorem IsNormal.isSettled_of_override {s : Settings} (hs : s.IsNormal) {options : Options}
    {config : Config} (h : (s.override options).outcome.result = .ok config) :
    config.IsSettled := by
  rw [hs.override_result] at h
  split at h
  · cases h
  · split at h
    · cases h
    · next hhost =>
      cases h
      exact (hs.assigned options).isSettled_reconciled hhost

end Settings

theorem isSettled_of_assemble {files : Files} {freshId : String} {options : Options}
    {config : Config} (h : (assemble files freshId options).result = .ok config) :
    config.IsSettled := by
  obtain ⟨base, hb, ho⟩ := Logged.result_bind_eq_ok.1 h
  exact (Settings.isNormal_of_beneath hb).1.isSettled_of_override ho

namespace Session

/-- The session after operations that follow one another, each in its own surroundings. -/
def run (session : Session) (steps : List (Surroundings × Operation)) : Session :=
  steps.foldl (fun session step => (session.step step.1 step.2).session) session

/-- What holds of the settings holds of those that replace them, if it holds of new ones. -/
theorem draft_replaceDraft {p : Settings → Prop} {session : Session}
    {outcome : Logged ConfigFault Settings} (h : p session.draft)
    (ho : ∀ t, outcome.result = .ok t → p t) : p (session.replaceDraft outcome).session.draft := by
  rcases outcome with ⟨events, fault | t⟩
  · exact h
  · exact ho t rfl

theorem draft_replaceConfig (session : Session) (outcome : Logged ConfigFault Config) :
    (session.replaceConfig outcome).session.draft = session.draft := by
  rcases outcome with ⟨events, fault | config⟩ <;> rfl

theorem session_withConfig (session : Session) (reply : Config → Reply) :
    (session.withConfig reply).session = session := by
  unfold withConfig
  split <;> rfl

/-- No operation makes normal settings other than normal. -/
theorem isNormal_step (around : Surroundings) {session : Session} (h : session.draft.IsNormal)
    (operation : Operation) : (session.step around operation).session.draft.IsNormal := by
  cases operation with
  | bind key text =>
    refine draft_replaceDraft h fun t ht => ?_
    obtain ⟨binding, value, -, -, ha⟩ := Settings.bindKey_eq_ok_iff.1 ht
    exact h.assign ha
  | set field value =>
    simp only [step]
    split
    · next draft ha => exact h.assignAs ha
    · exact h
  | extend field items => exact h.extend field items
  | validate =>
    refine draft_replaceDraft h fun t ht => ?_
    obtain ⟨-, rfl⟩ := Settings.reconcile_eq_ok_iff.1 ht
    exact h.reconciled
  | load octets =>
    refine draft_replaceDraft h fun t ht => ?_
    unfold Settings.ofOctets at ht
    split at ht
    · exact (Settings.isNormal_of_ofTree ht).1
    · cases ht
  | loadTree tree =>
    rcases tree with fault | root
    · exact h
    · exact draft_replaceDraft h fun t ht => (Settings.isNormal_of_ofTree ht).1
  | loadFile path =>
    refine draft_replaceDraft h fun t ht => ?_
    rw [Settings.ofFile_result] at ht
    split at ht
    · cases ht
    · exact (Settings.isNormal_of_ofTree ht).1
  | build =>
    simp only [step]
    split <;> exact h
  | override options =>
    simp only [step, draft_replaceConfig]
    exact h.override_draft options
  | assemble options =>
    simp only [step, draft_replaceConfig]
    exact h
  | showConfig =>
    simp only [step, session_withConfig]
    exact h
  | setConfig field value => exact h
  | workerArguments port id windows =>
    simp only [step, session_withConfig]
    exact h

theorem isNormal_run {session : Session} (h : session.draft.IsNormal)
    (steps : List (Surroundings × Operation)) : (session.run steps).draft.IsNormal := by
  induction steps generalizing session with
  | nil => exact h
  | cons step steps ih => exact ih (isNormal_step step.1 h step.2)

/-- In every session the host is no wildcard and the log level one that exists, the configuration
that is built has the values of the settings, and overrides and assemblies return settled
configurations. -/
theorem run_invariant {freshId : String} {fields : List (Field × Value)} {draft : Settings}
    (h : Settings.ofFields .draft freshId fields = .ok draft)
    (steps : List (Surroundings × Operation)) :
    let reached := (run ⟨draft, none⟩ steps).draft
    reached.host ≠ some "*" ∧
      reached.get .logLevel ∈ [.absent, .text "debug", .text "info"] ∧
      (∃ config, reached.build = .ok config ∧ config.settings = reached ∧
        ∀ field, config.settings.get field = reached.get field) ∧
      (∀ options config, (reached.override options).outcome.result = .ok config →
        config.IsSettled) ∧
      ∀ files id options config, (assemble files id options).result = .ok config →
        config.IsSettled := by
  intro reached
  have hnormal : reached.IsNormal := isNormal_run (Settings.isNormal_of_ofFields h) steps
  exact ⟨hnormal.host_ne, Settings.get_logLevel_mem reached,
    ⟨⟨reached⟩, hnormal.build_eq, rfl, fun _ => rfl⟩,
    fun _ _ => hnormal.isSettled_of_override, fun _ _ _ _ => isSettled_of_assemble⟩

/-- A session that begins with the wildcard and survives two failing operations, one of which stops
half way. -/
theorem run_invariant_from_wildcard :
    ∃ draft, Settings.ofFields .draft "w" [(.host, .text "*")] = .ok draft ∧
      let around : Surroundings := ⟨fun _ => .error .notFound, ⟨.root, []⟩, "w"⟩
      let steps : List (Surroundings × Operation) :=
        [(around, .bind "logLevel" "warn"), (around, .extend .endpoints ["tika"]),
          (around, .override { Options.none with host := some "*", restartCount := some "many" })]
      let reached := (run ⟨draft, none⟩ steps).draft
      reached.host ≠ some "*" ∧
        ∃ config, reached.build = .ok config ∧ config.settings.endpoints = ["tika"] := by
  have hdraft : Settings.ofFields .draft "w" [(.host, .text "*")] =
      .ok { Settings.defaults "w" with host := some "0.0.0.0" } := by decide +kernel
  refine ⟨_, hdraft, ?_⟩
  intro around steps reached
  obtain ⟨hhost, -, ⟨config, hbuild, hsettings, -⟩, -⟩ := run_invariant hdraft steps
  refine ⟨hhost, config, hbuild, ?_⟩
  rw [hsettings]
  decide +kernel

end Session

end LayeredConfig

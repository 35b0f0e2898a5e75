import LayeredConfig.Proofs.Normal
import LayeredConfig.Proofs.Numeral
import LayeredConfig.Settings.Override

/-! What options do to normal settings. Without a fault all of them are assigned, the port is
reconciled with its text, and the configuration is built from what that leaves. A restart count that
is no numeral stops the assignments before the status file, and a missing host stops the attempt
before the port is reconciled. -/

namespace LayeredConfig.Settings

/-! ### Reconciliation -/

/-- The settings with the port that their port text asks for, whatever the host is. -/
def reconciled (s : Settings) : Settings :=
  { s with port := (s.portText.bind Number.parse?).getD s.port }

theorem reconcile_result_of_host {s : Settings} (h : s.host ≠ none) :
    s.reconcile.result = .ok s.reconciled := by
  obtain ⟨host, port, portText⟩ := s
  obtain ⟨host, rfl⟩ := Option.ne_none_iff_exists'.1 h
  rcases portText with _ | text
  · rfl
  · simp only [reconcile, reconciled, Option.bind_some]
    cases hp : Number.parse? text with
    | none => split <;> rfl
    | some n => simp [Number.isBlankText_of_parse? hp]

theorem reconcile_result_of_none {s : Settings} (h : s.host = none) :
    s.reconcile.result = .error .missingHost := by
  rw [reconcile, h]
  rfl

/-- Settings are reconciled exactly if they have a host. -/
theorem reconcile_eq_ok_iff {s t : Settings} :
    s.reconcile.result = .ok t ↔ s.host ≠ none ∧ t = s.reconciled := by
  by_cases h : s.host = none
  · simp [reconcile_result_of_none h, h]
  · simp [reconcile_result_of_host h, h, eq_comm]

theorem get_reconciled (s : Settings) {field : Field} (h : field ≠ .port) :
    s.reconciled.get field = s.get field := by
  cases field <;> first | rfl | exact absurd rfl h

theorem IsNormal.reconciled {s : Settings} (h : s.IsNormal) : s.reconciled.IsNormal :=
  h.of_eq rfl rfl

/-! ### Options -/

/-- The settings to which all options are assigned. -/
def assigned (s : Settings) (options : Options) : Settings :=
  { (s.overridePort options.port).overrideIdentity options with
    restartCount := (options.restartCount.bind Number.parse?).getD s.restartCount
    statusFile := options.statusFile.or s.statusFile }

def restartFault? (options : Options) : Option ConfigFault :=
  options.restartCount.bind fun text =>
    if (Number.parse? text).isSome then none else some (.restartsNotNumeric text)

theorem restartFault?_eq_some_iff {options : Options} {fault : ConfigFault} :
    restartFault? options = some fault ↔
      ∃ text, options.restartCount = some text ∧ Number.parse? text = none ∧
        fault = .restartsNotNumeric text := by
  rw [restartFault?, Option.bind_eq_some_iff]
  refine exists_congr fun text => and_congr_right fun _ => ?_
  cases Number.parse? text <;> simp [eq_comm]

/-- The settings that options make of settings, the port reconciled. -/
def overridden (s : Settings) (options : Options) : Settings :=
  (s.assigned options).reconciled

theorem overridePort_eq (s : Settings) (port : Option String) :
    s.overridePort port =
      { s with
        port := (port.bind Number.parse?).getD s.port
        portText := port.or s.portText } := by
  cases port <;> rfl

/-- An option that is present decides its field. The port is that of the text in force, or else the
one from before. -/
theorem overridden_eq (s : Settings) (options : Options) :
    s.overridden options =
      { s with
        host := (options.host.map normalizeHost).or s.host
        port := ((options.port.or s.portText).bind Number.parse?).getD s.port
        portText := options.port.or s.portText
        instanceId := options.instanceId.getD s.instanceId
        restartCount := (options.restartCount.bind Number.parse?).getD s.restartCount
        statusFile := options.statusFile.or s.statusFile } := by
  have hport : ((options.port.or s.portText).bind Number.parse?).getD
        ((options.port.bind Number.parse?).getD s.port) =
      ((options.port.or s.portText).bind Number.parse?).getD s.port := by
    cases options.port with
    | none => rfl
    | some text => cases hp : Number.parse? text <;> simp [hp]
  simp only [overridden, reconciled, assigned, overrideIdentity, overridePort_eq, hport]

theorem IsNormal.overrideIdentity {s : Settings} (h : s.IsNormal) (options : Options) :
    (s.overrideIdentity options).IsNormal := by
  refine ⟨?_, h.path_clean⟩
  cases ho : options.host with
  | none => simpa [Settings.overrideIdentity, ho] using h.host_ne
  | some host => simpa [Settings.overrideIdentity, ho] using normalizeHost_ne host

theorem IsNormal.overridePort {s : Settings} (h : s.IsNormal) (port : Option String) :
    (s.overridePort port).IsNormal := by
  cases port <;> exact h.of_eq rfl rfl

theorem IsNormal.assigned {s : Settings} (h : s.IsNormal) (options : Options) :
    (s.assigned options).IsNormal :=
  ((h.overridePort options.port).overrideIdentity options).of_eq rfl rfl

theorem IsNormal.overridden {s : Settings} (h : s.IsNormal) (options : Options) :
    (s.overridden options).IsNormal :=
  (h.assigned options).reconciled

/-! ### Finishing -/

theorem finish_of_host {s : Settings} (h : s.host ≠ none) :
    s.finish.draft = s.reconciled ∧
      s.finish.outcome.result = .ok ⟨s.reconciled.normalized⟩ := by
  unfold finish
  rcases hr : s.reconcile with ⟨events, fault | t⟩
  · have := reconcile_result_of_host h
    simp [hr] at this
  · have ht : t = s.reconciled := by simpa [hr] using reconcile_result_of_host h
    simp [ht, build_eq_normalized]

theorem finish_of_none {s : Settings} (h : s.host = none) :
    s.finish.draft = s ∧ s.finish.outcome.result = .error .missingHost := by
  simp [finish, reconcile, h, Logged.fail]

/-- Options whose restart count is a numeral are all assigned before the finish. -/
theorem overrideWorker_of_restartFault? {s : Settings} {options : Options}
    (h : restartFault? options = none) :
    s.overrideWorker options =
      { s with
        restartCount := (options.restartCount.bind Number.parse?).getD s.restartCount
        statusFile := options.statusFile.or s.statusFile }.finish := by
  unfold overrideWorker
  unfold restartFault? at h
  cases hr : options.restartCount with
  | none => rfl
  | some text => cases hp : Number.parse? text <;> simp_all

theorem override_eq_finish {s : Settings} {options : Options}
    (h : restartFault? options = none) :
    s.override options =
      ⟨(s.assigned options).finish.draft,
        portEvents options.port ++ (s.assigned options).finish.outcome.events,
        (s.assigned options).finish.outcome.result⟩ := by
  unfold override
  rw [overrideWorker_of_restartFault? h]
  simp only [overrideIdentity, assigned, overridePort_eq]

theorem override_of_restartFault? {s : Settings} {options : Options}
    (h : restartFault? options = none) :
    (s.override options).draft = (s.assigned options).finish.draft ∧
      (s.override options).outcome.result = (s.assigned options).finish.outcome.result := by
  rw [override_eq_finish h]
  exact ⟨rfl, rfl⟩

/-- A restart count that is no numeral ends the attempt after the port, the host and the
identity. -/
theorem override_of_some_restartFault? {s : Settings} {options : Options} {fault : ConfigFault}
    (h : restartFault? options = some fault) :
    (s.override options).draft = (s.overridePort options.port).overrideIdentity options ∧
      (s.override options).outcome.result = .error fault := by
  unfold override overrideWorker
  unfold restartFault? at h
  cases hr : options.restartCount with
  | none => simp [hr] at h
  | some text => cases hp : Number.parse? text <;> simp_all [Logged.fail]

/-- How options end: with the fault of the restart count, for want of a host, or with the
configuration that they make of the settings. -/
theorem override_result (s : Settings) (options : Options) :
    (s.override options).outcome.result =
      match restartFault? options with
      | some fault => .error fault
      | none =>
        if (s.overridden options).host = none then .error .missingHost
        else .ok ⟨(s.overridden options).normalized⟩ := by
  cases hr : restartFault? options with
  | some fault => exact (override_of_some_restartFault? hr).2
  | none =>
    rw [(override_of_restartFault? hr).2]
    by_cases hh : (s.assigned options).host = none
    · rw [(finish_of_none hh).2, if_pos (show (s.overridden options).host = none from hh)]
    · rw [(finish_of_host hh).2,
        if_neg (show (s.overridden options).host ≠ none from hh)]
      rfl

theorem override_eq_ok_iff {s : Settings} {options : Options} {config : Config} :
    (s.override options).outcome.result = .ok config ↔
      restartFault? options = none ∧ (s.overridden options).host ≠ none ∧
        config = ⟨(s.overridden options).normalized⟩ := by
  rw [override_result]
  cases restartFault? options with
  | some fault => simp
  | none => by_cases hh : (s.overridden options).host = none <;> simp [hh, eq_comm]

/-- What options leave that do not fail. -/
theorem override_draft_of_ok {s : Settings} {options : Options} {config : Config}
    (h : (s.override options).outcome.result = .ok config) :
    (s.override options).draft = s.overridden options := by
  obtain ⟨hr, hhost, -⟩ := override_eq_ok_iff.1 h
  rw [(override_of_restartFault? hr).1]
  exact (finish_of_host (s := s.assigned options) hhost).1

/-- The configuration that options make of normal settings has the settings as they are. -/
theorem IsNormal.override_result {s : Settings} (hs : s.IsNormal) (options : Options) :
    (s.override options).outcome.result =
      match restartFault? options with
      | some fault => .error fault
      | none =>
        if (s.overridden options).host = none then .error .missingHost
        else .ok ⟨s.overridden options⟩ := by
  rw [Settings.override_result, (hs.overridden options).normalized_eq]

/-- Options leave normal settings normal, however they end. -/
theorem IsNormal.override_draft {s : Settings} (hs : s.IsNormal) (options : Options) :
    (s.override options).draft.IsNormal := by
  cases hr : restartFault? options with
  | some fault =>
    rw [(override_of_some_restartFault? hr).1]
    exact (hs.overridePort options.port).overrideIdentity options
  | none =>
    rw [(override_of_restartFault? hr).1]
    by_cases hh : (s.assigned options).host = none
    · rw [(finish_of_none hh).1]
      exact hs.assigned options
    · rw [(finish_of_host hh).1]
      exact (hs.assigned options).reconciled

/-! ### What an attempt leaves -/

/-- However an attempt ends, it has assigned all options, with the port reconciled or not, or else
those before the restart count only. -/
theorem override_draft_cases (s : Settings) (options : Options) :
    ((restartFault? options).isSome ∧
      (s.override options).draft = (s.overridePort options.port).overrideIdentity options) ∨
    (restartFault? options = none ∧
      ((s.override options).draft = s.assigned options ∨
        (s.override options).draft = s.overridden options)) := by
  cases hr : restartFault? options with
  | some fault => exact .inl ⟨rfl, (override_of_some_restartFault? hr).1⟩
  | none =>
    refine .inr ⟨rfl, ?_⟩
    rw [(override_of_restartFault? hr).1]
    by_cases hh : (s.assigned options).host = none
    · exact .inl (finish_of_none hh).1
    · exact .inr (finish_of_host hh).1

/-- An attempt leaves the fields alone that no option names. -/
theorem get_override_draft (s : Settings) (options : Options) {field : Field}
    (h : field ∉ [.host, .port, .portText, .instanceId, .restartCount, .statusFile]) :
    (s.override options).draft.get field = s.get field := by
  have hport : (s.overridePort options.port).get field = s.get field := by
    rw [overridePort_eq]
    cases field <;> first | rfl | exact absurd (by decide) h
  rcases s.override_draft_cases options with ⟨-, hd⟩ | ⟨-, hd | hd⟩ <;> rw [hd, ← hport] <;>
    cases field <;> first | rfl | exact absurd (by decide) h

theorem restartCount_override_draft (s : Settings) (options : Options) :
    (s.override options).draft.restartCount =
      (options.restartCount.bind Number.parse?).getD s.restartCount := by
  rcases s.override_draft_cases options with ⟨hr, hd⟩ | ⟨-, hd | hd⟩
  · obtain ⟨fault, hf⟩ := Option.isSome_iff_exists.1 hr
    obtain ⟨text, ho, hp, -⟩ := restartFault?_eq_some_iff.1 hf
    rw [hd, ho, Option.bind_some, hp, overridePort_eq]
    rfl
  · rw [hd]
    rfl
  · rw [hd]
    rfl

theorem statusFile_override_draft (s : Settings) {options : Options}
    (h : restartFault? options = none ∨ options.statusFile = none) :
    (s.override options).draft.statusFile = options.statusFile.or s.statusFile := by
  rcases s.override_draft_cases options with ⟨hr, hd⟩ | ⟨-, hd | hd⟩
  · rcases h with h | h
    · simp [h] at hr
    · rw [hd, h, overridePort_eq]
      rfl
  · rw [hd]
    rfl
  · rw [hd]
    rfl

end LayeredConfig.Settings

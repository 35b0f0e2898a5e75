import LayeredConfig.Proofs.Overrides

/-! Options over options. Settings that options have finished are at rest: to finish them again,
with the same options or without any, changes nothing. Later options over them do what the overlay
of both does, besides the number of the port: a later port text that is no numeral hides the earlier
text, but not the number that this one has given the port already. -/

namespace LayeredConfig

/-! ### Overlays -/

namespace Options

/-- The options of two command lines together. Those of the later one that are present win. -/
def overlay (first second : Options) : Options where
  configFile := second.configFile.or first.configFile
  port := second.port.or first.port
  host := second.host.or first.host
  instanceId := second.instanceId.or first.instanceId
  restartCount := second.restartCount.or first.restartCount
  statusFile := second.statusFile.or first.statusFile

theorem overlay_none (options : Options) : options.overlay .none = options := rfl

theorem overlay_self (options : Options) : options.overlay options = options := by
  simp [overlay]

end Options

namespace Settings

theorem restartFault?_overlay {first : Options} (h : restartFault? first = none)
    (second : Options) : restartFault? (first.overlay second) = restartFault? second := by
  unfold restartFault? at h ⊢
  cases hs : second.restartCount with
  | none => simpa [Options.overlay, hs] using h
  | some text => simp [Options.overlay, hs]

/-- Options over those that are assigned already write what their overlay does, besides the port. -/
theorem overridden_overridden (s : Settings) (first : Options) {second : Options}
    (h : restartFault? second = none) :
    (s.overridden first).overridden second =
      { s.overridden (first.overlay second) with
        port := ((second.port.or (first.port.or s.portText)).bind Number.parse?).getD
          (s.overridden first).port } := by
  have hhost : (second.host.map normalizeHost).or ((first.host.map normalizeHost).or s.host) =
      ((second.host.or first.host).map normalizeHost).or s.host := by
    cases second.host <;> rfl
  have hid : second.instanceId.getD (first.instanceId.getD s.instanceId) =
      (second.instanceId.or first.instanceId).getD s.instanceId := by
    cases second.instanceId <;> rfl
  have hcount : (second.restartCount.bind Number.parse?).getD
      ((first.restartCount.bind Number.parse?).getD s.restartCount) =
        ((second.restartCount.or first.restartCount).bind Number.parse?).getD s.restartCount := by
    unfold restartFault? at h
    cases hs : second.restartCount with
    | none => rfl
    | some text => cases hp : Number.parse? text <;> simp_all
  have hport : (s.overridden first).port =
      ((first.port.or s.portText).bind Number.parse?).getD s.port := by
    rw [overridden_eq]
  rw [hport, overridden_eq (s.overridden first), overridden_eq s, overridden_eq s]
  simp only [Options.overlay, hhost, hid, hcount, Option.or_assoc]

theorem host_overridden_overridden (s : Settings) (first : Options) {second : Options}
    (h : restartFault? second = none) :
    ((s.overridden first).overridden second).host = (s.overridden (first.overlay second)).host := by
  rw [overridden_overridden s first h]

/-- Options that leave the text of the port as it is leave the port that was given for it. -/
theorem overridden_overridden_of_port (s : Settings) {first second : Options}
    (h : restartFault? second = none)
    (hport : second.port.or (first.port.or s.portText) = first.port.or s.portText) :
    (s.overridden first).overridden second = s.overridden (first.overlay second) := by
  rw [overridden_overridden s first h, hport, overridden_eq s first, overridden_eq s]
  simp only [Options.overlay, Option.or_assoc, hport]
  cases (first.port.or s.portText).bind Number.parse? <;> rfl

/-! ### The port -/

/-- Whether a number that an earlier port text has given the port is not seen in the overlay: the
later text is no numeral, and the earlier one, of the first options or else of the settings, is one
and changes the port. -/
def HidesNumber (s : Settings) (first second : Options) : Prop :=
  (∃ text, second.port = some text ∧ Number.parse? text = none) ∧
    ∃ text n, (first.port = some text ∨ first.port = none ∧ s.portText = some text) ∧
      Number.parse? text = some n ∧ n ≠ s.port

theorem port_overridden_overridden (s : Settings) (first : Options) {second : Options}
    (h : restartFault? second = none) :
    ((s.overridden first).overridden second).port ≠ (s.overridden (first.overlay second)).port ↔
      s.HidesNumber first second := by
  have htext : ∀ text, first.port.or s.portText = some text ↔
      first.port = some text ∨ first.port = none ∧ s.portText = some text := fun text =>
    Option.or_eq_some_iff
  rw [overridden_overridden s first h]
  simp only [overridden_eq, Options.overlay, HidesNumber, ← htext, Option.or_assoc]
  generalize first.port.or s.portText = earlier
  cases second.port with
  | none => cases hn : earlier.bind Number.parse? <;> simp [hn]
  | some text =>
    cases hp : Number.parse? text with
    | some n => simp [hp]
    | none => cases earlier with
      | none => simp [hp]
      | some text => cases hn : Number.parse? text <;> simp [hp, hn]

/-! ### Attempts -/

/-- Settings that options have finished are at rest. With later options over them the same attempts
succeed as with the overlay over the settings from before, and the configurations agree on all
fields but the port, on which they differ exactly where the overlay does not see a number. -/
theorem override_override_of_ok {s : Settings} {first : Options} {config : Config}
    (h : (s.override first).outcome.result = .ok config) :
    let left := (s.override first).draft
    left.build = .ok config ∧
      (left.override .none).outcome.result = .ok config ∧
      (left.override first).outcome.result = .ok config ∧
      ∀ second,
        ((∃ later, (left.override second).outcome.result = .ok later) ↔
          ∃ whole, (s.override (first.overlay second)).outcome.result = .ok whole) ∧
        ∀ later whole, (left.override second).outcome.result = .ok later →
          (s.override (first.overlay second)).outcome.result = .ok whole →
            later.settings = { whole.settings with port := later.settings.port } ∧
              (later.settings.port ≠ whole.settings.port ↔ s.HidesNumber first second) := by
  intro left
  have hleft : left = s.overridden first := override_draft_of_ok h
  obtain ⟨hr, hhost, rfl⟩ := override_eq_ok_iff.1 h
  have hrest : ∀ options, restartFault? options = none → left.overridden options = left →
      (left.override options).outcome.result = .ok ⟨(s.overridden first).normalized⟩ := by
    intro options hoptions heq
    refine override_eq_ok_iff.2 ⟨hoptions, ?_, ?_⟩
    · rw [heq, hleft]
      exact hhost
    · rw [heq, hleft]
  have hself : first.port.or (first.port.or s.portText) = first.port.or s.portText := by
    rw [← Option.or_assoc, Option.or_self]
  refine ⟨?_, hrest .none rfl ?_, hrest first hr ?_, fun second => ⟨?_, ?_⟩⟩
  · rw [hleft, build_eq_normalized]
  · rw [hleft, overridden_overridden_of_port s rfl rfl, Options.overlay_none]
  · rw [hleft, overridden_overridden_of_port s hr hself, Options.overlay_self]
  · simp only [override_eq_ok_iff, restartFault?_overlay hr, exists_and_left, exists_eq, and_true]
    refine and_congr_right fun hsecond => ?_
    rw [hleft, host_overridden_overridden s first hsecond]
  · intro later whole hlater hwhole
    obtain ⟨hsecond, -, rfl⟩ := override_eq_ok_iff.1 hlater
    obtain ⟨-, -, rfl⟩ := override_eq_ok_iff.1 hwhole
    rw [hleft]
    refine ⟨?_, port_overridden_overridden s first hsecond⟩
    rw [overridden_overridden s first hsecond]
    rfl

/-- A numeral in the first options and a name in the second: the overlay shows the name only, and
keeps the port of the settings. -/
theorem override_override_of_hidden_number :
    let s := defaults "w"
    let first := { Options.none with port := some "80", restartCount := some "1" }
    let second := { Options.none with port := some "http", host := some "*" }
    let left := { s with port := 80, portText := some "80", restartCount := 1 }
    let later := { left with host := some "0.0.0.0", portText := some "http" }
    (s.override first).outcome.result = .ok ⟨left⟩ ∧
      ((s.override first).draft.override second).outcome.result = .ok ⟨later⟩ ∧
      (s.override (first.overlay second)).outcome.result = .ok ⟨{ later with port := 9998 }⟩ ∧
      s.HidesNumber first second := by
  intro s first second left later
  have hfirst : (s.override first).outcome.result = .ok ⟨left⟩ := by decide +kernel
  have hlater : ((s.override first).draft.override second).outcome.result = .ok ⟨later⟩ := by
    decide +kernel
  have hwhole : (s.override (first.overlay second)).outcome.result =
      .ok ⟨{ later with port := 9998 }⟩ := by
    decide +kernel
  obtain ⟨-, -, -, hover⟩ := override_override_of_ok hfirst
  obtain ⟨-, hport⟩ := (hover second).2 _ _ hlater hwhole
  exact ⟨hfirst, hlater, hwhole, hport.1 (by decide)⟩

end Settings

end LayeredConfig

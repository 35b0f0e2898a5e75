import LayeredConfig.Proofs.Overrides

/-! Options that fail, and another attempt after them. What a failed attempt has assigned stays
assigned, the number of the port included, and the port is not reconciled. Nothing of this stands in
the way of corrected options: they end as if the first attempt had not been made. -/

namespace LayeredConfig.Settings

/-! ### Faults -/

/-- Options fail for a restart count that is no numeral, or else for want of a host. -/
theorem override_eq_error_iff {s : Settings} {options : Options} {fault : ConfigFault} :
    (s.override options).outcome.result = .error fault ↔
      restartFault? options = some fault ∨
        restartFault? options = none ∧ (s.host = none ∧ options.host = none) ∧
          fault = .missingHost := by
  have hhost : (s.overridden options).host = none ↔ s.host = none ∧ options.host = none := by
    rw [overridden_eq, Option.or_eq_none_iff, Option.map_eq_none_iff, and_comm]
  rw [override_result, ← hhost]
  cases restartFault? options with
  | some cause => simp
  | none => by_cases h : (s.overridden options).host = none <;> simp [h, eq_comm]

/-! ### Assignments over assignments -/

/-- An attempt looks at the settings with the port, the host and the identity of its options. -/
theorem override_congr {s t : Settings} {options : Options}
    (h : (s.overridePort options.port).overrideIdentity options =
      (t.overridePort options.port).overrideIdentity options) :
    s.override options = t.override options := by
  rw [override, h, override]

/-- An attempt whose restart count is a numeral, or absent, looks at the settings with all options
assigned. -/
theorem override_congr_of_assigned {s t : Settings} {options : Options}
    (hr : restartFault? options = none) (h : s.assigned options = t.assigned options) :
    s.override options = t.override options := by
  rw [override_eq_finish hr, h, override_eq_finish hr]

/-- The port, the host and the identity are assigned once more without a change. -/
theorem overrideIdentity_again (s : Settings) {first again : Options}
    (hport : again.port = first.port) (hhost : again.host = first.host)
    (hid : again.instanceId = first.instanceId) :
    (((s.overridePort first.port).overrideIdentity first).overridePort again.port).overrideIdentity
        again = (s.overridePort again.port).overrideIdentity again := by
  simp only [overridePort_eq, overrideIdentity, hport, hhost, hid, ← Option.getD_or,
    ← Option.or_assoc, Option.or_self]

/-- Options that have been assigned are assigned once more with a host, which decides over the host
alone. -/
theorem assigned_assigned_host (s : Settings) (options : Options) (host : String) :
    (s.assigned options).assigned { options with host := some host } =
      s.assigned { options with host := some host } := by
  simp only [assigned, overrideIdentity, overridePort_eq, Option.map_some, Option.some_or,
    ← Option.getD_or, ← Option.or_assoc, Option.or_self]

/-! ### Attempts -/

/-- What a failed attempt leaves, and how the next one ends. A restart count that is no numeral ends
the attempt after the port, the host and the identity. With the same port, host and identity, the
next attempt does what it does without the first one, whatever the other options are. Without a host
all options are assigned, and the next attempt with a host does what it does without the first. -/
theorem override_override_of_error {s : Settings} {options : Options} {fault : ConfigFault}
    (h : (s.override options).outcome.result = .error fault) :
    let left := (s.override options).draft
    let port := (options.port.bind Number.parse?).getD s.port
    (∃ text, options.restartCount = some text ∧ Number.parse? text = none ∧
      fault = .restartsNotNumeric text ∧
      left = { s with
        port := port
        portText := options.port.or s.portText
        host := (options.host.map normalizeHost).or s.host
        instanceId := options.instanceId.getD s.instanceId } ∧
      ∀ again : Options, again.port = options.port → again.host = options.host →
        again.instanceId = options.instanceId → left.override again = s.override again) ∨
    (s.host = none ∧ options.host = none ∧ fault = .missingHost ∧
      left = { s with
        port := port
        portText := options.port.or s.portText
        instanceId := options.instanceId.getD s.instanceId
        restartCount := (options.restartCount.bind Number.parse?).getD s.restartCount
        statusFile := options.statusFile.or s.statusFile } ∧
      ∀ host, left.override { options with host := some host } =
        s.override { options with host := some host }) := by
  intro left port
  rcases override_eq_error_iff.1 h with hr | ⟨hr, ⟨hs, ho⟩, rfl⟩
  · have hleft : left = (s.overridePort options.port).overrideIdentity options :=
      (override_of_some_restartFault? hr).1
    obtain ⟨text, ht, hp, rfl⟩ := restartFault?_eq_some_iff.1 hr
    refine .inl ⟨text, ht, hp, rfl, ?_, fun again hport hhost hid => override_congr ?_⟩
    · rw [hleft, overridePort_eq, overrideIdentity]
    · rw [hleft, overrideIdentity_again s hport hhost hid]
  · have hhost : (s.assigned options).host = none := by
      simp [assigned, overrideIdentity, overridePort_eq, hs, ho]
    have hleft : left = s.assigned options :=
      (override_of_restartFault? hr).1.trans (finish_of_none hhost).1
    refine .inr ⟨hs, ho, rfl, ?_, fun host => override_congr_of_assigned hr ?_⟩
    · rw [hleft, assigned, overridePort_eq, overrideIdentity, ho, Option.map_none, Option.none_or]
    · rw [hleft, assigned_assigned_host]

/-- A number that the port has got before the restart count was found to be none, and a name that it
has got before the host was found to be missing: the corrected options end as they do at once. -/
theorem override_override_of_error_twice :
    let s := defaults "w"
    let hostless := { s with host := none }
    let first := { Options.none with
      port := some "80", host := some "*", restartCount := some "many" }
    let second := { Options.none with port := some "http", restartCount := some "3" }
    (s.override first).outcome.result = .error (.restartsNotNumeric "many") ∧
      (s.override first).draft =
        { s with port := 80, portText := some "80", host := some "0.0.0.0" } ∧
      (s.override first).draft.override { first with restartCount := some "2" } =
        s.override { first with restartCount := some "2" } ∧
      (hostless.override second).outcome.result = .error .missingHost ∧
      (hostless.override second).draft =
        { hostless with portText := some "http", restartCount := 3 } ∧
      (hostless.override second).draft.override { second with host := some "h" } =
        hostless.override { second with host := some "h" } := by
  intro s hostless first second
  have hfirst : (s.override first).outcome.result = .error (.restartsNotNumeric "many") := by
    decide +kernel
  have hsecond : (hostless.override second).outcome.result = .error .missingHost := by
    decide +kernel
  rcases override_override_of_error hfirst with ⟨-, -, -, -, hleft, hagain⟩ | ⟨hs, -⟩
  · rcases override_override_of_error hsecond with ⟨text, ht, hp, -⟩ | ⟨-, -, -, hleft', hagain'⟩
    · cases ht
      exact absurd hp (by decide)
    · refine ⟨hfirst, hleft.trans ?_, hagain _ rfl rfl rfl, hsecond, hleft'.trans ?_, hagain' "h"⟩
      · decide +kernel
      · decide +kernel
  · cases hs

end LayeredConfig.Settings

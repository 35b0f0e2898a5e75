import LayeredConfig.Proofs.Elements
import LayeredConfig.Proofs.Overrides

/-! The layers of an assembly: the document that the options name, the settings that it makes of the
built-in ones, and the options over them. The settings beneath the options are normal and have a
host, so that of the options only the restart count can fail. -/

namespace LayeredConfig

open Xml (Node)
open Entry (elements)

/-- The root of the document in the file of a text, or why there is none. -/
def readDocument (files : Files) (text : String) : Except ConfigFault Node :=
  if '\x00' ∈ text.toList then .error .nulInPath
  else
    match files (.ofText text) with
    | .error cause => .error (.unreadable (.ofText text) cause)
    | .ok octets =>
      match Xml.readGuarded octets with
      | .error fault => .error (.illFormed (fault.details (Storage.Path.ofText text).lastName))
      | .ok root => .ok root

namespace Settings

/-! ### Documents -/

/-- A document leaves a host where there is one. -/
theorem host_ne_none_of_enterAll {s t : Settings} {root : Node}
    (h : (s.enterAll (Entry.ofRoot root)).result = .ok t) (hs : s.host ≠ none) : t.host ≠ none := by
  have hmem : (⟨"host", .host, .text⟩ : Binding) ∈ bindings := by decide
  have hb := get_bound h hmem
  intro hn
  have ht : t.get .host = .absent := by simp [get, hn, Value.ofText?]
  split at hb
  · rw [ht] at hb
    exact hs (Value.ofText?_injective (hb.symm.trans rfl))
  · obtain ⟨value, hv, hget⟩ := hb
    cases hv
    rw [ht] at hget
    cases hget

theorem ofTree_eq_ok_iff {instanceId : String} {root : Node} {t : Settings} :
    (ofTree instanceId root).result = .ok t ↔
      Entry.misnamed? root = none ∧ root.localName? = some "properties" ∧
        ∃ u, ((defaults instanceId).enterAll (Entry.ofRoot root)).result = .ok u ∧
          t = u.reconciled := by
  unfold ofTree
  cases hm : Entry.misnamed? root with
  | some name => simp
  | none =>
    by_cases hn : root.localName? = some "properties"
    · simp only [hn, if_true, Logged.result_bind_eq_ok, true_and]
      refine exists_congr fun u => and_congr_right fun hu => ?_
      have hhost : u.host ≠ none := host_ne_none_of_enterAll hu (by simp [defaults])
      simp [reconcile_eq_ok_iff, hhost]
    · simp [hn]

theorem ofTree_eq_error_iff {instanceId : String} {root : Node} {fault : ConfigFault} :
    (ofTree instanceId root).result = .error fault ↔
      match Entry.misnamed? root with
      | some name => fault = .invalidName name
      | none =>
        if root.localName? = some "properties" then
          (Entry.ofRoot root).findSome? Entry.fault? = some fault
        else fault = .unexpectedRoot root.localName? := by
  unfold ofTree
  cases hm : Entry.misnamed? root with
  | some name => simp [eq_comm]
  | none =>
    by_cases hn : root.localName? = some "properties"
    · simp only [hn, if_true, Logged.result_bind_eq_error, enterAll_eq_error_iff]
      refine or_iff_left ?_
      rintro ⟨u, hu, hr⟩
      have hhost : u.host ≠ none := host_ne_none_of_enterAll hu (by simp [defaults])
      rw [reconcile_result_of_host hhost] at hr
      cases hr
    · simp [hn, eq_comm]

/-- What holds of the settings that a document makes of the built-in ones. -/
theorem isNormal_of_ofTree {instanceId : String} {root : Node} {t : Settings}
    (h : (ofTree instanceId root).result = .ok t) : t.IsNormal ∧ t.host ≠ none := by
  obtain ⟨-, -, u, hu, rfl⟩ := ofTree_eq_ok_iff.1 h
  have hhost : u.host ≠ none := host_ne_none_of_enterAll hu (by simp [defaults])
  exact ⟨((isNormal_defaults instanceId).enterAll hu).reconciled, hhost⟩

/-! ### Files -/

/-- A file is loaded by its document, if there is one. -/
theorem ofFile_eq (files : Files) (instanceId text : String) :
    ofFile files instanceId (.ofText text) = (do
      .report (.loading (.ofText text))
      match readDocument files text with
      | .error fault => .fail fault
      | .ok root => ofTree instanceId root) := by
  have hnul : (Storage.Path.ofText text).text.toList.contains '\x00' = true ↔
      '\x00' ∈ text.toList := by
    rw [List.contains_iff_mem, Storage.Path.mem_text_ofText_iff (by decide) (by decide)]
  unfold ofFile readDocument
  refine bind_congr fun _ => ?_
  by_cases hn : '\x00' ∈ text.toList
  · rw [if_pos (hnul.2 hn), if_pos hn]
  · rw [if_neg (mt hnul.1 hn), if_neg hn]
    cases files (.ofText text) with
    | error cause => rfl
    | ok octets =>
      simp only [ofOctets]
      cases Xml.readGuarded octets <;> rfl

theorem ofFile_result (files : Files) (instanceId text : String) :
    (ofFile files instanceId (.ofText text)).result =
      match readDocument files text with
      | .error fault => .error fault
      | .ok root => (ofTree instanceId root).result := by
  rw [ofFile_eq, Logged.result_report_bind]
  cases readDocument files text <;> rfl

theorem beneath_of_none {files : Files} {freshId : String} {options : Options}
    (h : options.configFile = none) :
    (beneath files freshId options).result = .ok (defaults freshId) := by
  rw [beneath, h]
  rfl

theorem beneath_eq_ok_iff {files : Files} {freshId text : String} {options : Options}
    {base : Settings} (h : options.configFile = some text) :
    (beneath files freshId options).result = .ok base ↔
      ∃ root loaded, readDocument files text = .ok root ∧
        (ofTree freshId root).result = .ok loaded ∧
          base = { loaded with configPath := some (.ofText text) } := by
  rw [beneath, h, Logged.result_bind_eq_ok, ofFile_result]
  cases readDocument files text <;> simp [eq_comm]

theorem beneath_eq_error_iff {files : Files} {freshId text : String} {options : Options}
    {fault : ConfigFault} (h : options.configFile = some text) :
    (beneath files freshId options).result = .error fault ↔
      match readDocument files text with
      | .error cause => cause = fault
      | .ok root => (ofTree freshId root).result = .error fault := by
  rw [beneath, h, Logged.result_bind_eq_error, ofFile_result]
  cases readDocument files text <;> simp

/-- The settings beneath the options are normal and have a host. -/
theorem isNormal_of_beneath {files : Files} {freshId : String} {options : Options}
    {base : Settings} (h : (beneath files freshId options).result = .ok base) :
    base.IsNormal ∧ base.host ≠ none := by
  cases hc : options.configFile with
  | none =>
    rw [beneath_of_none hc] at h
    cases h
    exact ⟨isNormal_defaults freshId, by simp [defaults]⟩
  | some text =>
    obtain ⟨root, loaded, -, hl, rfl⟩ := (beneath_eq_ok_iff hc).1 h
    obtain ⟨hnormal, hhost⟩ := isNormal_of_ofTree hl
    refine ⟨⟨hnormal.host_ne, fun path hp => ?_⟩, hhost⟩
    cases hp
    exact Storage.Path.isClean_ofText text

end Settings

/-! ### Assembly -/

/-- The result of an assembly: the fault of the layers below, else that of the restart count, else
the configuration that the options make of the settings beneath them. -/
theorem assemble_result (files : Files) (freshId : String) (options : Options) :
    (assemble files freshId options).result =
      match (Settings.beneath files freshId options).result with
      | .error fault => .error fault
      | .ok base =>
        match Settings.restartFault? options with
        | some fault => .error fault
        | none => .ok ⟨base.overridden options⟩ := by
  cases hb : (Settings.beneath files freshId options).result with
  | error fault => exact Logged.result_bind_eq_error.2 (.inl hb)
  | ok base =>
    obtain ⟨hnormal, hhost⟩ := Settings.isNormal_of_beneath hb
    have hover : (base.overridden options).host ≠ none := by
      rw [Settings.overridden_eq]
      cases options.host <;> simp [hhost]
    have hresult := hnormal.override_result options
    rw [if_neg hover] at hresult
    cases hr : Settings.restartFault? options with
    | none =>
      rw [hr] at hresult
      exact Logged.result_bind_eq_ok.2 ⟨base, hb, hresult⟩
    | some fault =>
      rw [hr] at hresult
      exact Logged.result_bind_eq_error.2 (.inr ⟨base, hb, hresult⟩)

theorem assemble_eq_ok_iff {files : Files} {freshId : String} {options : Options}
    {config : Config} :
    (assemble files freshId options).result = .ok config ↔
      ∃ base, (Settings.beneath files freshId options).result = .ok base ∧
        Settings.restartFault? options = none ∧ config = ⟨base.overridden options⟩ := by
  rw [assemble_result]
  cases (Settings.beneath files freshId options).result with
  | error fault => simp
  | ok base => cases Settings.restartFault? options <;> simp [eq_comm]

end LayeredConfig

import LayeredConfig.Proofs.Failures
import LayeredConfig.Proofs.Precedence
import Mathlib.Data.List.TakeWhile

/-! The log of an assembly. What is reported can be told from the document, the options and the
configuration: that a file is loaded, each of its settings in the order of the document, a port text
that is kept as it is, and then what is to be said of the options and of the configuration that they
finish. A fault cuts the log short before any warning, so that nothing is said of a configuration
that is refused. -/

namespace LayeredConfig

open Xml (Node)
open Entry (elements ofNode? ofRoot textOf textsNamed)

/-! ### Entries -/

namespace Entry

def event? : Entry → Option Event
  | .setting key text =>
    if text = "" then none
    else (Binding.ofKey? key).bind fun binding =>
      (binding.coercion.read text).toOption.map (.bound key binding.field ·)
  | _ => none

end Entry

namespace Settings

theorem events_bindKey {s t : Settings} {key text : String}
    (h : (s.bindKey key text).result = .ok t) :
    ∃ binding value, Binding.ofKey? key = some binding ∧ binding.coercion.read text = .ok value ∧
      (s.bindKey key text).events = [.bound key binding.field value] := by
  obtain ⟨binding, value, hk, hr, ha⟩ := bindKey_eq_ok_iff.1 h
  refine ⟨binding, value, hk, hr, ?_⟩
  simp [bindKey, hk, hr, assignAs, ha, Except.mapError]

/-- A key that is not bound is not reported. -/
theorem events_bindKey_of_error {s : Settings} {key text : String} {fault : ConfigFault}
    (h : (s.bindKey key text).result = .error fault) : (s.bindKey key text).events = [] := by
  unfold bindKey at h ⊢
  split
  · rfl
  · split
    · rfl
    · split
      · rfl
      · simp_all

theorem events_enter {s t : Settings} {entry : Entry} (h : (s.enter entry).result = .ok t) :
    (s.enter entry).events = entry.event?.toList := by
  cases entry with
  | setting key text =>
    simp only [enter, Entry.event?] at h ⊢
    split at h
    · next ht => simp [ht]
    · next ht =>
      obtain ⟨binding, value, hk, hr, he⟩ := events_bindKey h
      simp [ht, hk, hr, he, Except.toOption]
  | endpoints items => rfl
  | workerArguments items => rfl
  | port text => rfl
  | misnamed name => cases h

theorem events_enter_of_error {s : Settings} {entry : Entry} {fault : ConfigFault}
    (h : (s.enter entry).result = .error fault) : (s.enter entry).events = [] := by
  cases entry with
  | setting key text =>
    simp only [enter] at h ⊢
    split at h
    · cases h
    · next ht =>
      rw [if_neg ht]
      exact events_bindKey_of_error h
  | endpoints items => cases h
  | workerArguments items => cases h
  | port text => cases h
  | misnamed name => rfl

/-- Entries are reported up to the first of them that has a fault. -/
theorem events_enterAll (s : Settings) (entries : List Entry) :
    (s.enterAll entries).events =
      (entries.takeWhile (·.fault?.isNone)).filterMap Entry.event? := by
  induction entries generalizing s with
  | nil => rfl
  | cons entry entries ih =>
    rw [enterAll_cons, List.takeWhile_cons]
    cases hs : (s.enter entry).result with
    | error fault =>
      rw [Logged.events_bind_of_error hs, events_enter_of_error hs, enter_eq_error_iff.1 hs]
      rfl
    | ok next =>
      rw [Logged.events_bind_of_ok hs, events_enter hs, fault?_of_enter hs, ih]
      cases he : entry.event? <;> simp [he]

end Settings

/-! ### Reports -/

/-- The report of a port text that is neither blank nor a numeral. -/
def keptPort (portText : Option String) : List Event :=
  (portText.filter fun text => !Text.isBlankText text && (Number.parse? text).isNone).toList.map
    .portLeftAsText

/-- The report of a port option that is no numeral, blank or not. -/
def refusedPort (port : Option String) : List Event :=
  (port.filter fun text => (Number.parse? text).isNone).toList.map .portNotNumeric

/-- What is reported of the options and of the configuration that they finish. -/
def finalReports (options : Options) (config : Config) : List Event :=
  refusedPort options.port ++ keptPort config.settings.portText ++
    (if config.settings.unsecureFeatures then [.unsecureFeatures] else []) ++
    (if config.settings.noFork ∧ config.changedForkOnly ≠ [] then
      [.ignoredKeys config.changedForkOnly]
    else []) ++
    [.assembled config.settings.host config.settings.portText config.id]

namespace Settings

theorem events_reconcile {s : Settings} (h : s.host ≠ none) :
    s.reconcile.events = keptPort s.portText := by
  obtain ⟨host, port, portText⟩ := s
  obtain ⟨host, rfl⟩ := Option.ne_none_iff_exists'.1 h
  rcases portText with _ | text
  · rfl
  · cases hb : Text.isBlankText text <;> cases hp : Number.parse? text <;>
      simp [reconcile, keptPort, Option.filter, hb, hp]

/-- Settings with a host are reconciled, and their port text is reported if it is kept as it is. -/
theorem reconcile_of_host {s : Settings} (h : s.host ≠ none) :
    s.reconcile = ⟨keptPort s.portText, .ok s.reconciled⟩ :=
  Logged.ext (events_reconcile h) (reconcile_result_of_host h)

theorem portEvents_eq (port : Option String) : portEvents port = refusedPort port := by
  rcases port with _ | text
  · rfl
  · cases hp : Number.parse? text <;> simp [portEvents, refusedPort, Option.filter, hp]

theorem warnings_eq (config : Config) :
    config.warnings =
      (if config.settings.unsecureFeatures then [.unsecureFeatures] else []) ++
        if config.settings.noFork ∧ config.changedForkOnly ≠ [] then
          [.ignoredKeys config.changedForkOnly]
        else [] := by
  cases hn : config.settings.noFork <;> simp [Config.warnings, hn]

theorem events_finish {s : Settings} (hs : s.IsNormal) (h : s.host ≠ none) :
    s.finish.outcome.events =
      keptPort s.portText ++ Config.warnings ⟨s.reconciled⟩ ++
        [Config.announcement ⟨s.reconciled⟩] := by
  simp only [finish, reconcile_of_host h, hs.reconciled.build_eq]

/-- Options whose restart count is a numeral are reported with the configuration. -/
theorem events_override {s : Settings} (hs : s.IsNormal) {options : Options}
    (hr : restartFault? options = none) (h : (s.overridden options).host ≠ none) :
    (s.override options).outcome.events = finalReports options ⟨s.overridden options⟩ := by
  have hfinish := events_finish (hs.assigned options) h
  rw [warnings_eq] at hfinish
  rw [override_eq_finish hr]
  simp only [hfinish, portEvents_eq, finalReports, List.append_assoc]
  rfl

/-- Options whose restart count is no numeral are reported up to the port. -/
theorem events_override_of_restartFault? (s : Settings) {options : Options} {fault : ConfigFault}
    (h : restartFault? options = some fault) :
    (s.override options).outcome.events = refusedPort options.port := by
  rw [← portEvents_eq]
  unfold override overrideWorker
  unfold restartFault? at h
  cases hr : options.restartCount with
  | none => simp [hr] at h
  | some text => cases hp : Number.parse? text <;> simp_all

end Settings

/-! ### Elements -/

/-- Whether an element gives a setting its value: it has a key and a text that is not blank. -/
def isSetting (x : Node) : Bool :=
  textOf x != "" && bindings.any fun binding => x.localName? == some binding.key

/-- Whether an event reports the setting of an element, with the value that its text denotes before
the field normalizes it. -/
def IsReportOf (x : Node) (event : Event) : Prop :=
  ∃ binding ∈ bindings, x.localName? = some binding.key ∧
    ∃ value, binding.coercion.read (textOf x) = .ok value ∧
      event = .bound binding.key binding.field value

namespace Entry

theorem event?_ofItems (entry : List String → Entry) (name : String) (node : Node)
    (h : ∀ items, (entry items).event? = none) : (ofItems entry name node).event? = none := by
  unfold ofItems
  split
  · rfl
  · exact h _

/-- What an element says that has no fault is an event exactly if the element is a setting. -/
theorem bind_event?_ofNode? {x : Node} (hm : misnamed? x = none)
    (hf : ∀ entry, ofNode? x = some entry → entry.fault? = none) :
    if isSetting x then ∃ event, (ofNode? x).bind event? = some event ∧ IsReportOf x event
    else (ofNode? x).bind event? = none := by
  rcases ofNode?_cases hm with ⟨hn, hx⟩ | ⟨hn, hx⟩ | ⟨hn, hx⟩ | ⟨hn, hx⟩ | ⟨key, hn, hk, hx⟩
  · simp [isSetting, hn, hx]
  · have hno : isSetting x = false := by simp [isSetting, hn, bindings]
    simp [hno, hx, event?_ofItems .endpoints "endpoint" x fun _ => rfl]
  · have hno : isSetting x = false := by simp [isSetting, hn, bindings]
    simp [hno, hx, event?_ofItems .workerArguments "arg" x fun _ => rfl]
  · have hno : isSetting x = false := by simp [isSetting, hn, bindings]
    simp [hno, hx, event?]
  · by_cases ht : textOf x = ""
    · simp [isSetting, hx, ht, event?]
    · have hfault := hf _ hx
      rw [fault?_setting ht] at hfault
      cases hb : Binding.ofKey? key with
      | none => simp [hb] at hfault
      | some binding =>
        obtain ⟨hmem, rfl⟩ := Binding.mem_of_ofKey? hb
        obtain ⟨value, hr⟩ := exists_read_of_fault? hmem ht (hf _ hx)
        have hyes : isSetting x = true := by
          simp only [isSetting, bne_iff_ne, ne_eq, ht, not_false_eq_true, Bool.and_eq_true,
            List.any_eq_true, beq_iff_eq, true_and]
          exact ⟨binding, hmem, hn⟩
        rw [if_pos hyes, hx]
        refine ⟨.bound binding.key binding.field value, ?_, binding, hmem, hn, value, hr, rfl⟩
        simp [event?, ht, hb, hr, Except.toOption]

/-- The events of a document without a fault report its settings one by one. -/
theorem forall₂_isReportOf {root : Node} (h : (ofRoot root).findSome? fault? = none) :
    List.Forall₂ IsReportOf ((elements root).filter isSetting)
      ((ofRoot root).filterMap event?) := by
  have hmem : ∀ x ∈ elements root, misnamed? x = none ∧
      ∀ entry, ofNode? x = some entry → entry.fault? = none := fun x hx =>
    ⟨misnamed?_of_mem_elements h hx, fun _ he => fault?_of_mem_elements h hx he⟩
  rw [ofRoot_eq_filterMap h, List.filterMap_filterMap]
  generalize elements root = nodes at hmem
  induction nodes with
  | nil => exact .nil
  | cons x nodes ih =>
    obtain ⟨hm, hf⟩ := hmem x (by simp)
    have hrest := ih fun y hy => hmem y (List.mem_cons_of_mem _ hy)
    have hx := bind_event?_ofNode? hm hf
    split at hx
    · next hyes =>
      obtain ⟨event, he, hreport⟩ := hx
      rw [List.filter_cons_of_pos hyes, List.filterMap_cons, he]
      exact .cons hreport hrest
    · next hno =>
      rw [List.filter_cons_of_neg hno, List.filterMap_cons, hx]
      exact hrest

end Entry

/-! ### Layers -/

namespace Settings

theorem events_ofTree_of_ok {instanceId : String} {root : Node} {t : Settings}
    (h : (ofTree instanceId root).result = .ok t) :
    (ofTree instanceId root).events =
      (ofRoot root).filterMap Entry.event? ++ keptPort t.portText := by
  obtain ⟨hm, hn, u, hu, rfl⟩ := ofTree_eq_ok_iff.1 h
  have hhost : u.host ≠ none := host_ne_none_of_enterAll hu (by simp [defaults])
  have hfault := List.findSome?_eq_none_iff.1 (findSome?_fault?_of_enterAll hu)
  have hall : (ofRoot root).takeWhile (·.fault?.isNone) = ofRoot root :=
    List.takeWhile_eq_self_iff.2 fun entry he => by rw [hfault entry he]; rfl
  simp only [ofTree, hm, hn, if_true]
  rw [Logged.events_bind_of_ok hu, events_enterAll, hall, events_reconcile hhost]
  rfl

/-- What a document that is not loaded reports: the settings up to the first fault. A root that is
refused for its name reports nothing. -/
def brokenReports (root : Node) : List Event :=
  if Entry.misnamed? root = none ∧ root.localName? = some "properties" then
    ((ofRoot root).takeWhile (·.fault?.isNone)).filterMap Entry.event?
  else []

theorem events_ofTree_of_error {instanceId : String} {root : Node} {fault : ConfigFault}
    (h : (ofTree instanceId root).result = .error fault) :
    (ofTree instanceId root).events = brokenReports root := by
  have herror := ofTree_eq_error_iff.1 h
  unfold ofTree brokenReports
  cases hm : Entry.misnamed? root with
  | some name => simp
  | none =>
    by_cases hn : root.localName? = some "properties"
    · simp only [hm, hn, if_true] at herror
      simp only [hn, if_true, and_self]
      rw [Logged.events_bind_of_error (enterAll_eq_error_iff.2 herror), events_enterAll]
    · simp [hn]

theorem events_ofFile (files : Files) (instanceId text : String) :
    (ofFile files instanceId (.ofText text)).events =
      .loading (.ofText text) ::
        match readDocument files text with
        | .error _ => []
        | .ok root => (ofTree instanceId root).events := by
  rw [ofFile_eq, Logged.events_report_bind]
  cases readDocument files text <;> rfl

/-- The path of a file is noted without a report. -/
theorem events_beneath (files : Files) (freshId : String) (options : Options) :
    (beneath files freshId options).events =
      match options.configFile with
      | none => [.noFile]
      | some text => (ofFile files freshId (.ofText text)).events := by
  unfold beneath
  cases options.configFile with
  | none => rfl
  | some text =>
    simp only
    cases hr : (ofFile files freshId (.ofText text)).result with
    | error fault => rw [Logged.events_bind_of_error hr]
    | ok t => rw [Logged.events_bind_of_ok hr, Logged.events_pure, List.append_nil]

/-- The log of the layers beneath the options, where they are in order: what is loaded, the settings
one by one, and a port text that is kept as it is. -/
theorem events_beneath_of_ok {files : Files} {freshId : String} {options : Options}
    {base : Settings} (h : (beneath files freshId options).result = .ok base) :
    ∃ reports, List.Forall₂ IsReportOf ((layerElements files options).filter isSetting) reports ∧
      (beneath files freshId options).events =
        match options.configFile with
        | none => [.noFile]
        | some text => .loading (.ofText text) :: reports ++ keptPort base.portText := by
  rw [events_beneath]
  cases hc : options.configFile with
  | none => exact ⟨[], by simp [layerElements, hc], rfl⟩
  | some text =>
    obtain ⟨root, loaded, hr, hl, rfl⟩ := (beneath_eq_ok_iff hc).1 h
    obtain ⟨-, -, u, hu, -⟩ := ofTree_eq_ok_iff.1 hl
    refine ⟨(ofRoot root).filterMap Entry.event?, ?_, ?_⟩
    · simp only [layerElements, hc, hr]
      exact Entry.forall₂_isReportOf (findSome?_fault?_of_enterAll hu)
    · simp only [events_ofFile, hr, events_ofTree_of_ok hl]
      rfl

theorem events_beneath_of_error {files : Files} {freshId text : String} {options : Options}
    {fault : ConfigFault} (hc : options.configFile = some text)
    (h : (beneath files freshId options).result = .error fault) :
    (beneath files freshId options).events =
      .loading (.ofText text) ::
        match readDocument files text with
        | .error _ => []
        | .ok root => brokenReports root := by
  rw [beneath_eq_error_iff hc] at h
  rw [events_beneath]
  simp only [hc, events_ofFile]
  cases hr : readDocument files text with
  | error cause => rfl
  | ok root =>
    rw [hr] at h
    simp only
    rw [events_ofTree_of_error h]

end Settings

/-! ### Assemblies -/

theorem events_assemble_of_ok {files : Files} {freshId : String} {options : Options}
    {base : Settings} (hb : (Settings.beneath files freshId options).result = .ok base)
    (hr : Settings.restartFault? options = none) :
    (assemble files freshId options).events =
      (Settings.beneath files freshId options).events ++
        finalReports options ⟨base.overridden options⟩ := by
  obtain ⟨hnormal, hhost⟩ := Settings.isNormal_of_beneath hb
  have hover : (base.overridden options).host ≠ none := by
    rw [Settings.overridden_eq]
    cases options.host <;> simp [hhost]
  rw [← Settings.events_override hnormal hr hover]
  exact Logged.events_bind_of_ok hb

/-- A restart count that is no numeral ends the log after the port option. -/
theorem events_assemble_of_restartFault? {files : Files} {freshId : String} {options : Options}
    {base : Settings} {fault : ConfigFault}
    (hb : (Settings.beneath files freshId options).result = .ok base)
    (hr : Settings.restartFault? options = some fault) :
    (assemble files freshId options).events =
      (Settings.beneath files freshId options).events ++ refusedPort options.port := by
  rw [← Settings.events_override_of_restartFault? base hr]
  exact Logged.events_bind_of_ok hb

/-! ### Integers in the log -/

/-- Whether an event can be written: its value has no integer that is too long. -/
def Event.IsPrintable : Event → Prop
  | .bound _ _ value => value.IsPrintable
  | _ => True

theorem Entry.isPrintable_of_event? {entry : Entry} {event : Event}
    (h : entry.event? = some event) : event.IsPrintable := by
  cases entry with
  | setting key text =>
    simp only [event?] at h
    split at h
    · cases h
    · obtain ⟨binding, -, hb⟩ := Option.bind_eq_some_iff.1 h
      obtain ⟨value, hv, rfl⟩ := Option.map_eq_some_iff.1 hb
      cases hr : binding.coercion.read text with
      | error fault => simp [hr, Except.toOption] at hv
      | ok read =>
        obtain rfl : read = value := by simpa [hr, Except.toOption] using hv
        exact Value.isPrintable_of_read hr
  | endpoints items => cases h
  | workerArguments items => cases h
  | port text => cases h
  | misnamed name => cases h

section Printable
variable {event : Event}

theorem Event.isPrintable_of_mem_filterMap {entries : List Entry}
    (h : event ∈ entries.filterMap Entry.event?) : event.IsPrintable := by
  obtain ⟨entry, -, he⟩ := List.mem_filterMap.1 h
  exact Entry.isPrintable_of_event? he

theorem Event.isPrintable_of_mem_keptPort {portText : Option String}
    (h : event ∈ keptPort portText) : event.IsPrintable := by
  obtain ⟨text, -, rfl⟩ := List.mem_map.1 h
  trivial

theorem Event.isPrintable_of_mem_refusedPort {port : Option String}
    (h : event ∈ refusedPort port) : event.IsPrintable := by
  obtain ⟨text, -, rfl⟩ := List.mem_map.1 h
  trivial

theorem Event.isPrintable_of_mem_finalReports {options : Options} {config : Config}
    (h : event ∈ finalReports options config) : event.IsPrintable := by
  simp only [finalReports, List.mem_append, List.mem_ite_nil_right, List.mem_singleton] at h
  rcases h with (((h | h) | ⟨-, rfl⟩) | ⟨-, rfl⟩) | rfl
  · exact isPrintable_of_mem_refusedPort h
  · exact isPrintable_of_mem_keptPort h
  all_goals trivial

theorem Settings.isPrintable_of_mem_events_ofTree {instanceId : String} {root : Xml.Node}
    (h : event ∈ (ofTree instanceId root).events) : event.IsPrintable := by
  cases hr : (ofTree instanceId root).result with
  | ok t =>
    rw [events_ofTree_of_ok hr, List.mem_append] at h
    exact h.elim Event.isPrintable_of_mem_filterMap Event.isPrintable_of_mem_keptPort
  | error fault =>
    rw [events_ofTree_of_error hr, brokenReports] at h
    split at h
    · exact Event.isPrintable_of_mem_filterMap h
    · cases h

theorem Settings.isPrintable_of_mem_events_beneath {files : Files} {freshId : String}
    {options : Options} (h : event ∈ (beneath files freshId options).events) :
    event.IsPrintable := by
  rw [events_beneath] at h
  split at h
  · cases List.mem_singleton.1 h
    trivial
  · rw [events_ofFile] at h
    rcases List.mem_cons.1 h with rfl | h
    · trivial
    · split at h
      · cases h
      · exact isPrintable_of_mem_events_ofTree h

/-- Every integer that an assembly reports can be written. -/
theorem isPrintable_of_mem_events_assemble {files : Files} {freshId : String} {options : Options}
    (h : event ∈ (assemble files freshId options).events) : event.IsPrintable := by
  cases hb : (Settings.beneath files freshId options).result with
  | error fault =>
    have hevents : (assemble files freshId options).events =
        (Settings.beneath files freshId options).events := Logged.events_bind_of_error hb
    rw [hevents] at h
    exact Settings.isPrintable_of_mem_events_beneath h
  | ok base =>
    cases hr : Settings.restartFault? options with
    | some fault =>
      rw [events_assemble_of_restartFault? hb hr, List.mem_append] at h
      exact h.elim Settings.isPrintable_of_mem_events_beneath Event.isPrintable_of_mem_refusedPort
    | none =>
      rw [events_assemble_of_ok hb hr, List.mem_append] at h
      exact h.elim Settings.isPrintable_of_mem_events_beneath Event.isPrintable_of_mem_finalReports

end Printable

/-! ### The log as a whole -/

/-- Whether events are the log of the layers beneath the options: that there is no file, or that it
is loaded, its settings one by one in the order of the document, and its port text if that is kept
as it is. -/
def IsLayerLog (files : Files) (options : Options) (log : List Event) : Prop :=
  ∃ reports, List.Forall₂ IsReportOf ((layerElements files options).filter isSetting) reports ∧
    log = match options.configFile with
      | none => [.noFile]
      | some text => .loading (.ofText text) :: reports ++
          keptPort (some ((textsNamed "port" (layerElements files options)).getLast?.getD
            (Number.render Settings.defaultPort)))

/-- The log of an assembly is determined. One that succeeds reports the layers, the options and the
configuration that it returns. One that fails for the restart count has reported the layers and the
port option, and any other the file with its settings up to the first fault. -/
theorem assemble_log (files : Files) (freshId : String) (options : Options) :
    match (assemble files freshId options).result with
    | .ok config => ∃ layers, IsLayerLog files options layers ∧
        (assemble files freshId options).events = layers ++ finalReports options config
    | .error (.restartsNotNumeric _) => ∃ layers, IsLayerLog files options layers ∧
        (assemble files freshId options).events = layers ++ refusedPort options.port
    | .error _ => ∃ text, options.configFile = some text ∧
        (assemble files freshId options).events = .loading (.ofText text) ::
          match readDocument files text with
          | .error _ => []
          | .ok root => Settings.brokenReports root := by
  rw [assemble_result]
  cases hb : (Settings.beneath files freshId options).result with
  | error fault =>
    have hevents : (assemble files freshId options).events =
        (Settings.beneath files freshId options).events := Logged.events_bind_of_error hb
    cases hc : options.configFile with
    | none => rw [Settings.beneath_of_none hc] at hb; cases hb
    | some text =>
      have hfault := hb
      rw [hevents, Settings.events_beneath_of_error hc hb]
      rw [Settings.beneath_eq_error_iff hc] at hfault
      cases fault
      case restartsNotNumeric =>
        -- Neither a file nor a document fails with a restart count.
        split at hfault
        · next hr => simpa [hfault] using readDocument_cases hr
        · simpa [ConfigFault.key?] using
            treeFault?_cases (ofTree_eq_error_iff_treeFault?.1 hfault)
      all_goals exact ⟨text, rfl, rfl⟩
  | ok base =>
    obtain ⟨reports, hreports, hlog⟩ := Settings.events_beneath_of_ok hb
    have hlayers : IsLayerLog files options (Settings.beneath files freshId options).events := by
      refine ⟨reports, hreports, ?_⟩
      rw [hlog, (Settings.port_beneath hb).1]
    cases hr : Settings.restartFault? options with
    | none => exact ⟨_, hlayers, events_assemble_of_ok hb hr⟩
    | some fault =>
      obtain ⟨text, rfl⟩ := restartFault?_cases hr
      exact ⟨_, hlayers, events_assemble_of_restartFault? hb hr⟩

/-- The host is reported as it is written, and the port text of the file before that of the
options. -/
example :
    let document := "<properties><server><host>*</host><port>http</port><noFork>true</noFork>" ++
      "<maxFiles>5</maxFiles></server></properties>"
    let options := { Options.none with configFile := some "conf.xml", port := some " " }
    (assemble (fun _ => .ok document.toUTF8.toList) "w" options).events =
      [.loading ⟨.here, ["conf.xml"]⟩, .bound "host" .host (.text "*"),
        .bound "noFork" .noFork (.flag true), .bound "maxFiles" .maxFiles (.integer 5),
        .portLeftAsText "http", .portNotNumeric " ", .ignoredKeys ["maxFiles"],
        .assembled (some "0.0.0.0") (some " ") "w"] := by
  decide +kernel

end LayeredConfig

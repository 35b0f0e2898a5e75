import LayeredConfig.Proofs.Layers

/-! Precedence of the layers. The configuration that an assembly returns can be looked up field by
field, without the order in which the layers were applied: in the options first, then in the
elements of the file, of which the last that says something counts, and last in the built-in
values. The lookup gives every field, so no other configuration passes it. -/

namespace LayeredConfig

open Xml (Node)
open Entry (elements textsNamed lastText? itemsNamed)

/-- The elements in the server sections of the file that the options name; none without a file. -/
def layerElements (files : Files) (options : Options) : List Node :=
  match options.configFile with
  | none => []
  | some text =>
    match readDocument files text with
    | .ok root => elements root
    | .error _ => []

/-- Whether every field of a configuration is what a lookup gives in the options, the elements of a
file and the built-in values. -/
structure Config.IsLookup (config : Config) (nodes : List Node) (freshId : String)
    (options : Options) : Prop where
  /-- A field that only its key writes has the value of the last text under the key. -/
  bound : ∀ binding ∈ bindings, binding.field ≠ .host →
    match lastText? binding.key nodes with
    | none => config.settings.get binding.field = (Settings.defaults freshId).get binding.field
    | some text => binding.coercion.read text = .ok (config.settings.get binding.field)
  host : config.settings.host = some (Settings.normalizeHost
    ((options.host.or (lastText? "host" nodes)).getD Settings.defaultHost))
  endpoints : config.settings.endpoints = itemsNamed "endpoints" "endpoint" nodes
  workerArguments : config.settings.workerArguments = itemsNamed "forkedJVMArgs" "arg" nodes
  /-- The last port counts even if it is blank. -/
  portText : config.settings.portText = some
    ((options.port.or (textsNamed "port" nodes).getLast?).getD
      (Number.render Settings.defaultPort))
  /-- A port that is no numeral gives way to the next layer. -/
  port : config.settings.port =
    ((options.port.bind Number.parse?).or
      ((textsNamed "port" nodes).getLast?.bind Number.parse?)).getD Settings.defaultPort
  instanceId : config.settings.instanceId = options.instanceId.getD freshId
  restartCount : match options.restartCount with
    | none => config.settings.restartCount = 0
    | some text => Number.parse? text = some config.settings.restartCount
  statusFile : config.settings.statusFile = options.statusFile
  configPath : config.settings.configPath = options.configFile.map .ofText

namespace Settings

/-! ### Beneath the options -/

theorem parse?_render_defaultPort :
    Number.parse? (Number.render defaultPort) = some defaultPort :=
  Number.parse?_render (by decide)

theorem reconciled_defaults (instanceId : String) :
    (defaults instanceId).reconciled = defaults instanceId := by
  simp [reconciled, defaults, parse?_render_defaultPort]

/-- The settings beneath the options come from a document, which is empty without a file. -/
theorem exists_entered_of_beneath {files : Files} {freshId : String} {options : Options}
    {base : Settings} (h : (beneath files freshId options).result = .ok base) :
    ∃ root u, layerElements files options = elements root ∧
      ((defaults freshId).enterAll (Entry.ofRoot root)).result = .ok u ∧
      base = { u.reconciled with configPath := options.configFile.map .ofText } := by
  cases hc : options.configFile with
  | none =>
    rw [beneath_of_none hc] at h
    have hnodes : layerElements files options = elements (.text "") := by
      simp [layerElements, hc, elements, Node.children]
    refine ⟨.text "", defaults freshId, hnodes, rfl, ?_⟩
    rw [reconciled_defaults]
    exact (Except.ok.inj h).symm
  | some text =>
    obtain ⟨root, loaded, hr, hl, rfl⟩ := (beneath_eq_ok_iff hc).1 h
    obtain ⟨-, -, u, hu, rfl⟩ := ofTree_eq_ok_iff.1 hl
    exact ⟨root, u, by simp [layerElements, hc, hr], hu, rfl⟩

section Beneath
variable {files : Files} {freshId : String} {options : Options} {base : Settings}
  (h : (beneath files freshId options).result = .ok base)
include h

theorem get_beneath_bound {binding : Binding} (hb : binding ∈ bindings) :
    match lastText? binding.key (layerElements files options) with
    | none => base.get binding.field = (defaults freshId).get binding.field
    | some text => ∃ value, binding.coercion.read text = .ok value ∧
        base.get binding.field = kept binding.field value := by
  obtain ⟨root, u, hnodes, hu, rfl⟩ := exists_entered_of_beneath h
  have hget : ({ u.reconciled with configPath := options.configFile.map .ofText } : Settings).get
      binding.field = u.get binding.field := by
    have hp : binding.field ≠ .port := Binding.field_ne hb (by decide)
    have hc : binding.field ≠ .configPath := Binding.field_ne hb (by decide)
    cases hf : binding.field <;> first | rfl | exact absurd hf hp | exact absurd hf hc
  rw [hnodes, hget]
  exact get_bound hu hb

theorem host_beneath : base.host = some (normalizeHost
    ((lastText? "host" (layerElements files options)).getD defaultHost)) := by
  have hmem : (⟨"host", .host, .text⟩ : Binding) ∈ bindings := by decide
  have hb := get_beneath_bound h hmem
  apply Value.ofText?_injective
  cases hl : lastText? "host" (layerElements files options) with
  | none =>
    have hn : normalizeHost defaultHost = defaultHost := normalizeHost_of_ne (by decide)
    rw [hl] at hb
    rw [Option.getD_none, hn]
    exact hb
  | some text =>
    rw [hl] at hb
    obtain ⟨value, hv, hget⟩ := hb
    cases hv
    exact hget

theorem lists_beneath :
    base.endpoints = itemsNamed "endpoints" "endpoint" (layerElements files options) ∧
      base.workerArguments = itemsNamed "forkedJVMArgs" "arg" (layerElements files options) := by
  obtain ⟨root, u, hnodes, hu, rfl⟩ := exists_entered_of_beneath h
  rw [hnodes]
  exact ⟨endpoints_entered hu, workerArguments_entered hu⟩

theorem port_beneath :
    base.portText = some ((textsNamed "port" (layerElements files options)).getLast?.getD
        (Number.render defaultPort)) ∧
      base.port = ((textsNamed "port" (layerElements files options)).getLast?.bind
        Number.parse?).getD defaultPort := by
  obtain ⟨root, u, hnodes, hu, rfl⟩ := exists_entered_of_beneath h
  have htext : u.portText = _ := portText_entered hu
  have hport : u.port = defaultPort :=
    Value.integer.inj (get_unwritten hu .port (by decide))
  rw [hnodes]
  simp only [reconciled, htext, hport, defaults]
  cases (textsNamed "port" (elements root)).getLast? <;> simp [parse?_render_defaultPort]

/-- What only the options write is built in beneath them. -/
theorem unbound_beneath :
    base.instanceId = freshId ∧ base.restartCount = 0 ∧ base.statusFile = none ∧
      base.configPath = options.configFile.map .ofText := by
  obtain ⟨root, u, hnodes, hu, rfl⟩ := exists_entered_of_beneath h
  refine ⟨?_, ?_, ?_, rfl⟩
  · exact Value.text.inj (get_unwritten hu .instanceId (by decide))
  · exact Value.integer.inj (get_unwritten hu .restartCount (by decide))
  · exact Value.ofText?_injective (get_unwritten hu .statusFile (by decide))

end Beneath

/-- The options write none of the fields of the keys but the host. -/
theorem get_overridden_bound (s : Settings) (options : Options) {binding : Binding}
    (hb : binding ∈ bindings) (hh : binding.field ≠ .host) :
    (s.overridden options).get binding.field = s.get binding.field := by
  rw [overridden_eq]
  cases hf : binding.field <;>
    first | rfl | exact absurd hf hh | exact absurd hf (Binding.field_ne hb (by decide))

end Settings

/-! ### The configuration -/

namespace Config

theorem isLookup_of_assemble {files : Files} {freshId : String} {options : Options}
    {config : Config} (h : (assemble files freshId options).result = .ok config) :
    config.IsLookup (layerElements files options) freshId options := by
  obtain ⟨base, hbase, hrestart, rfl⟩ := assemble_eq_ok_iff.1 h
  obtain ⟨hendpoints, harguments⟩ := Settings.lists_beneath hbase
  obtain ⟨hportText, hport⟩ := Settings.port_beneath hbase
  obtain ⟨hid, hcount, hstatus, hpath⟩ := Settings.unbound_beneath hbase
  constructor
  case bound =>
    intro binding hb hh
    have hget := Settings.get_beneath_bound hbase hb
    rw [Settings.get_overridden_bound base options hb hh]
    cases hl : lastText? binding.key (layerElements files options) with
    | none => simpa [hl] using hget
    | some text =>
      rw [hl] at hget
      obtain ⟨value, hv, hg⟩ := hget
      rw [hg, Settings.kept_of_ne hh (Binding.field_ne hb (by decide))]
      exact hv
  case host =>
    rw [Settings.overridden_eq]
    cases ho : options.host <;> simp [Settings.host_beneath hbase]
  case endpoints => rw [Settings.overridden_eq]; exact hendpoints
  case workerArguments => rw [Settings.overridden_eq]; exact harguments
  case portText =>
    rw [Settings.overridden_eq]
    cases ho : options.port <;> simp [hportText]
  case port =>
    rw [Settings.overridden_eq, hportText, hport]
    cases ho : options.port with
    | some text => cases hp : Number.parse? text <;> simp [hp]
    | none =>
      cases (textsNamed "port" (layerElements files options)).getLast? with
      | none => simp [Settings.parse?_render_defaultPort]
      | some text => cases hp : Number.parse? text <;> simp [hp]
  case instanceId => rw [Settings.overridden_eq, hid]
  case restartCount =>
    rw [Settings.overridden_eq]
    unfold Settings.restartFault? at hrestart
    cases ho : options.restartCount with
    | none => simpa using hcount
    | some text => cases hp : Number.parse? text <;> simp_all
  case statusFile => rw [Settings.overridden_eq, hstatus]; simp
  case configPath => rw [Settings.overridden_eq]; exact hpath

/-! ### Integers -/

end Config

/-- Whether a value can be written: an integer has no more digits than are read. -/
def Value.IsPrintable : Value → Prop
  | .integer n => Number.IsPrintable n
  | _ => True

theorem Value.isPrintable_of_read {coercion : Coercion} {text : String} {value : Value}
    (h : coercion.read text = .ok value) : value.IsPrintable := by
  cases coercion with
  | text => cases h; trivial
  | flag => cases h; trivial
  | integer =>
    cases hp : Number.parse text with
    | error fault => simp [Coercion.read, hp, Except.map] at h
    | ok n =>
      obtain rfl : .integer n = value := by simpa [Coercion.read, hp, Except.map] using h
      exact Number.isPrintable_of_parse? (Number.parse?_eq_some_iff.2 hp)

theorem Value.isPrintable_ofText? (text : Option String) : (ofText? text).IsPrintable := by
  cases text <;> trivial

theorem Settings.isPrintable_get_defaults (instanceId : String) (field : Field) :
    ((defaults instanceId).get field).IsPrintable := by
  have hinteger : ∀ n ∈ [defaultPort, 120000, 500, 30000, -1, 100000, 0, 20 * 1024 * 1024],
      Number.IsPrintable n := by decide
  cases field <;> first | trivial | exact hinteger _ (by simp [defaults])

namespace Config

/-- Every integer of a configuration comes from a numeral or is built in, and can be written. -/
theorem isPrintable_get_of_assemble {files : Files} {freshId : String} {options : Options}
    {config : Config} (h : (assemble files freshId options).result = .ok config) (field : Field) :
    (config.settings.get field).IsPrintable := by
  have hlookup := isLookup_of_assemble h
  have hbind : ∀ (text : Option String) n, text.bind Number.parse? = some n →
      Number.IsPrintable n := by
    intro text n hn
    obtain ⟨numeral, -, hp⟩ := Option.bind_eq_some_iff.1 hn
    exact Number.isPrintable_of_parse? hp
  by_cases hb : ∃ binding ∈ bindings, binding.field = field ∧ binding.field ≠ .host
  · obtain ⟨binding, hb, rfl, hh⟩ := hb
    have hbound := hlookup.bound binding hb hh
    split at hbound
    · rw [hbound]
      exact Settings.isPrintable_get_defaults freshId _
    · exact Value.isPrintable_of_read hbound
  · cases field
    case port =>
      show Number.IsPrintable config.settings.port
      rw [hlookup.port]
      cases ho : options.port.bind Number.parse? with
      | some n => exact hbind _ n ho
      | none =>
        cases hf : (textsNamed "port" (layerElements files options)).getLast?.bind
            Number.parse? with
        | some n => exact hbind _ n hf
        | none => exact Settings.isPrintable_get_defaults freshId .port
    case restartCount =>
      have hcount := hlookup.restartCount
      split at hcount
      · show Number.IsPrintable config.settings.restartCount
        rw [hcount]
        exact Settings.isPrintable_get_defaults freshId .restartCount
      · exact Number.isPrintable_of_parse? hcount
    all_goals
      first
      | exact absurd (by decide) hb
      | exact Value.isPrintable_ofText? _
      | trivial

/-! ### The only configuration -/

section Unique
variable {first second : Config} {nodes : List Node} {freshId : String} {options : Options}
  (h : first.IsLookup nodes freshId options)
include h

theorem IsLookup.isNormal : first.settings.IsNormal := by
  constructor
  · rw [h.host]
    exact fun he => Settings.normalizeHost_ne _ (Option.some.inj he)
  · intro path hp
    rw [h.configPath] at hp
    obtain ⟨text, -, rfl⟩ := Option.map_eq_some_iff.1 hp
    exact Storage.Path.isClean_ofText text

theorem IsLookup.get_bound_eq (h' : second.IsLookup nodes freshId options) {binding : Binding}
    (hb : binding ∈ bindings) (hh : binding.field ≠ .host) :
    first.settings.get binding.field = second.settings.get binding.field := by
  have hfirst := h.bound binding hb hh
  have hsecond := h'.bound binding hb hh
  cases hl : lastText? binding.key nodes with
  | none =>
    rw [hl] at hfirst hsecond
    exact hfirst.trans hsecond.symm
  | some text =>
    rw [hl] at hfirst hsecond
    exact Except.ok.inj (hfirst.symm.trans hsecond)

theorem IsLookup.restartCount_eq (h' : second.IsLookup nodes freshId options) :
    first.settings.restartCount = second.settings.restartCount := by
  have hfirst := h.restartCount
  have hsecond := h'.restartCount
  cases ho : options.restartCount with
  | none =>
    rw [ho] at hfirst hsecond
    exact hfirst.trans hsecond.symm
  | some text =>
    rw [ho] at hfirst hsecond
    exact Option.some.inj (hfirst.symm.trans hsecond)

/-- Two configurations that pass the same lookup are the same. -/
theorem IsLookup.eq (h' : second.IsLookup nodes freshId options) : first = second := by
  suffices hsettings : first.settings = second.settings by
    cases first
    cases second
    exact congrArg Config.mk hsettings
  refine h.isNormal.eq_of_get h'.isNormal fun field => ?_
  by_cases hb : ∃ binding ∈ bindings, binding.field = field ∧ binding.field ≠ .host
  · obtain ⟨binding, hb, rfl, hh⟩ := hb
    exact h.get_bound_eq h' hb hh
  · -- What is left are the fields that have a clause of their own.
    cases field
    case host => exact congrArg Value.ofText? (h.host.trans h'.host.symm)
    case port => exact congrArg Value.integer (h.port.trans h'.port.symm)
    case portText => exact congrArg Value.ofText? (h.portText.trans h'.portText.symm)
    case instanceId => exact congrArg Value.text (h.instanceId.trans h'.instanceId.symm)
    case statusFile => exact congrArg Value.ofText? (h.statusFile.trans h'.statusFile.symm)
    case restartCount => exact congrArg Value.integer (h.restartCount_eq h')
    case endpoints => exact congrArg Value.items (h.endpoints.trans h'.endpoints.symm)
    case workerArguments =>
      exact congrArg Value.items (h.workerArguments.trans h'.workerArguments.symm)
    case configPath =>
      exact congrArg (fun path => Value.ofText? (path.map Storage.Path.text))
        (h.configPath.trans h'.configPath.symm)
    all_goals exact absurd (by decide) hb

end Unique

/-- What an assembly returns is the one configuration that is looked up in the options, the elements
of the file and the built-in values. -/
theorem eq_iff_isLookup_of_assemble {files : Files} {freshId : String} {options : Options}
    {config : Config} (h : (assemble files freshId options).result = .ok config)
    (other : Config) :
    other = config ↔ other.IsLookup (layerElements files options) freshId options := by
  constructor
  · rintro rfl
    exact isLookup_of_assemble h
  · intro hother
    exact hother.eq (isLookup_of_assemble h)

/-- A port of the options that is no numeral has its text kept above the number of the file. -/
theorem eq_iff_isLookup_of_two_ports :
    let document := "<properties><server><host>*</host><port>80</port></server></properties>"
    let files : Files := fun _ => .ok document.toUTF8.toList
    let options := { Options.none with configFile := some "conf.xml", port := some "http" }
    let config : Config := ⟨{ Settings.defaults "w" with
      host := some "0.0.0.0", port := 80, portText := some "http",
      configPath := some ⟨.here, ["conf.xml"]⟩ }⟩
    (assemble files "w" options).result = .ok config ∧
      config.IsLookup (layerElements files options) "w" options := by
  intro document files options config
  have h : (assemble files "w" options).result = .ok config := by decide +kernel
  exact ⟨h, (eq_iff_isLookup_of_assemble h config).1 rfl⟩

end Config

end LayeredConfig

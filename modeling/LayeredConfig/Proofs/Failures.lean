import LayeredConfig.Proofs.Layers

/-! How an assembly fails. The fault can be told from the options, the file and the tree of the
document alone: the first of the faults that apply, in the order in which the layers are looked at
and within a document in its own order. A host is never missing. The name of an element that cannot
be read, because the reader has passed over an error in it, is a fault like the others and stands
where the name is looked at. -/

namespace LayeredConfig

open Xml (Node)
open Entry (elements misnamed? ofItems ofNode? ofSection ofRoot textOf unbindable)

/-! ### Settings -/

/-- Why a text is no value for a key: a number that is none, or a log level that does not exist. -/
def Binding.refusal? (binding : Binding) (text : String) : Option ParameterFault :=
  if binding.coercion = .integer ∧ ¬ Number.IsNumeral text then
    some (.numeral (Number.refusal text))
  else if binding.field = .logLevel ∧ text ∉ ["debug", "info"] then
    some (.rejected ⟨.draft, .logLevel, .text text, .unknownLogLevel⟩)
  else none

theorem Coercion.read_eq_error_iff {coercion : Coercion} {text : String}
    {fault : Number.NumeralFault} :
    coercion.read text = .error fault ↔
      (coercion = .integer ∧ ¬ Number.IsNumeral text) ∧ fault = Number.refusal text := by
  rw [and_assoc, ← Number.parse_eq_error_iff]
  cases coercion
  · simp [read]
  · cases hp : Number.parse text <;> simp [read, hp, Except.map]
  · simp [read]

/-- Of the fields with a key only the log level rejects values of its own kind. -/
theorem Settings.exists_assign_of_read (s : Settings) {binding : Binding}
    (hb : binding ∈ bindings) (hl : binding.field ≠ .logLevel) {text : String} {value : Value}
    (h : binding.coercion.read text = .ok value) :
    ∃ t, s.assign binding.field value = .ok t := by
  have hinteger : Coercion.integer.read text = .ok value → ∃ n, value = .integer n := by
    intro h
    cases hp : Number.parse text with
    | error fault => simp [Coercion.read, hp, Except.map] at h
    | ok n => exact ⟨n, by simpa [Coercion.read, hp, Except.map, eq_comm] using h⟩
  simp only [bindings, List.mem_cons, List.not_mem_nil, or_false] at hb
  rcases hb with rfl | rfl | rfl | rfl | rfl | rfl | rfl | rfl | rfl | rfl | rfl | rfl | rfl | rfl |
    rfl | rfl <;>
  first
  | exact absurd rfl hl
  | (cases h; exact ⟨_, rfl⟩)
  | (obtain ⟨n, rfl⟩ := hinteger h; exact ⟨_, rfl⟩)

theorem Settings.assign_logLevel_eq_error_iff (s : Settings) {text : String}
    {cause : RejectionCause} :
    s.assign .logLevel (.text text) = .error cause ↔
      text ∉ ["debug", "info"] ∧ cause = .unknownLogLevel := by
  simp only [assign]
  cases hl : LogLevel.ofText? text with
  | none => simp [LogLevel.ofText?_eq_none_iff.1 hl, eq_comm]
  | some level =>
    rw [← LogLevel.text_of_ofText? hl]
    cases level <;> simp [LogLevel.text]

theorem Settings.bindKey_result (s : Settings) {key : String} (text : String) {binding : Binding}
    (hk : Binding.ofKey? key = some binding) :
    match binding.refusal? text with
    | some cause => (s.bindKey key text).result = .error (.badParameter key cause)
    | none => ∃ t, (s.bindKey key text).result = .ok t := by
  obtain ⟨hb, -⟩ := Binding.mem_of_ofKey? hk
  unfold bindKey
  simp only [hk]
  cases hr : binding.coercion.read text with
  | error fault =>
    obtain ⟨hc, rfl⟩ := Coercion.read_eq_error_iff.1 hr
    simp [Binding.refusal?, hc, Logged.fail]
  | ok value =>
    have hnumeral : ¬(binding.coercion = .integer ∧ ¬ Number.IsNumeral text) := by
      intro hc
      rw [Coercion.read_eq_error_iff.2 ⟨hc, rfl⟩] at hr
      cases hr
    -- A value that was read can only be rejected as a log level.
    by_cases hl : binding.field = .logLevel
    · have hmem : (⟨"logLevel", .logLevel, .text⟩ : Binding) ∈ bindings := by decide
      obtain rfl := Binding.eq_of_field hb hmem hl
      cases hr
      cases ha : s.assign .logLevel (.text text) with
      | error cause =>
        obtain ⟨ht, rfl⟩ := s.assign_logLevel_eq_error_iff.1 ha
        simp [Binding.refusal?, ht, assignAs, ha, Except.mapError]
      | ok t =>
        have ht : text ∈ ["debug", "info"] := by
          by_contra hn
          rw [s.assign_logLevel_eq_error_iff.2 ⟨hn, rfl⟩] at ha
          cases ha
        simp [Binding.refusal?, ht, assignAs, ha, Except.mapError]
    · obtain ⟨t, ht⟩ := s.exists_assign_of_read hb hl hr
      simp [Binding.refusal?, hnumeral, hl, assignAs, ht, Except.mapError]

/-- The fault of a setting that has a text. -/
theorem Entry.fault?_setting {key text : String} (ht : text ≠ "") :
    (setting key text).fault? =
      match Binding.ofKey? key with
      | none => some (.unknownKey key)
      | some binding => (binding.refusal? text).map (.badParameter key) := by
  unfold fault?
  rw [Settings.enter, if_neg ht]
  cases hk : Binding.ofKey? key with
  | none => simp [Settings.bindKey, hk, Logged.fail]
  | some binding =>
    have hresult := (Settings.defaults "").bindKey_result text hk
    cases hc : binding.refusal? text with
    | none =>
      rw [hc] at hresult
      obtain ⟨t, ht⟩ := hresult
      simp [ht, hc]
    | some cause =>
      rw [hc] at hresult
      simp [hresult, hc]

/-! ### Documents -/

/-- The fault of an element that is a setting: its key is unknown, or the text is no value for it.
A blank text is no fault. -/
def settingFault? (x : Node) : Option ConfigFault :=
  match x.localName? with
  | none => none
  | some key =>
    if key ∈ unbindable ∨ textOf x = "" then none
    else
      match Binding.ofKey? key with
      | none => some (.unknownKey key)
      | some binding => (binding.refusal? (textOf x)).map (.badParameter key)

/-- The first fault of a document, as long as all names in it can be read. -/
def documentFault? (root : Node) : Option ConfigFault :=
  if root.localName? = some "properties" then (elements root).findSome? settingFault?
  else some (.unexpectedRoot root.localName?)

def nameFault? (node : Node) : Option ConfigFault :=
  (misnamed? node).map .invalidName

/-- The first fault of an element with the names that are looked at on its account: its own, and in
a list those of its children. -/
def elementFault? (x : Node) : Option ConfigFault :=
  (nameFault? x).or
    (if x.localName? = some "endpoints" ∨ x.localName? = some "forkedJVMArgs" then
      x.children.findSome? nameFault?
    else settingFault? x)

def sectionFault? (node : Node) : Option ConfigFault :=
  (nameFault? node).or
    (if node.localName? = some "server" then node.children.findSome? elementFault? else none)

/-- The first fault of a document. -/
def treeFault? (root : Node) : Option ConfigFault :=
  (nameFault? root).or
    (if root.localName? = some "properties" then root.children.findSome? sectionFault?
    else some (.unexpectedRoot root.localName?))

theorem findSome?_flatMap {α β γ : Type} (f : α → List β) (g : β → Option γ) (l : List α) :
    (l.flatMap f).findSome? g = l.findSome? fun x => (f x).findSome? g := by
  simp only [← List.head?_filterMap, List.filterMap_flatMap, List.head?_flatMap]

theorem findSome?_filterMap {α β γ : Type} (f : α → Option β) (g : β → Option γ) (l : List α) :
    (l.filterMap f).findSome? g = l.findSome? fun x => (f x).bind g := by
  simp only [← List.head?_filterMap, List.filterMap_filterMap]

theorem findSome?_filter {α β : Type} (p : α → Bool) (f : α → Option β) (l : List α) :
    (l.filter p).findSome? f = l.findSome? fun x => if p x then f x else none := by
  simp only [← List.head?_filterMap, List.filterMap_filter]

theorem exists_of_map_eq_ok {α β ε : Type} {first : Except ε α} {f : α → β} {y : β}
    (h : first.map f = .ok y) : ∃ x, first = .ok x ∧ f x = y := by
  cases first with
  | error fault => cases h
  | ok x => exact ⟨x, rfl, Except.ok.inj h⟩

/-- A list fails with the first of its items that has no name. -/
theorem fault?_ofItems (entry : List String → Entry) (item : String) (x : Node)
    (h : ∀ items, (entry items).fault? = none) :
    (ofItems entry item x).fault? = x.children.findSome? nameFault? := by
  have hname : x.children.findSome? nameFault? =
      (x.children.findSome? misnamed?).map .invalidName := List.map_findSome?.symm
  unfold ofItems
  rw [hname]
  cases x.children.findSome? misnamed? with
  | none => exact h _
  | some name => rfl

theorem bind_fault?_ofNode? (x : Node) : (ofNode? x).bind Entry.fault? = elementFault? x := by
  cases hm : misnamed? x with
  | some name =>
    rw [Entry.ofNode?_of_misnamed? hm]
    simp [elementFault?, nameFault?, hm]
    rfl
  | none =>
    rcases Entry.ofNode?_cases hm with
      ⟨hn, hx⟩ | ⟨hn, hx⟩ | ⟨hn, hx⟩ | ⟨hn, hx⟩ | ⟨key, hn, hk, hx⟩
    · simp [elementFault?, nameFault?, settingFault?, hm, hn, hx]
    · have hitems := fault?_ofItems .endpoints "endpoint" x fun _ => rfl
      simp [elementFault?, nameFault?, hm, hn, hx, hitems]
    · have hitems := fault?_ofItems .workerArguments "arg" x fun _ => rfl
      simp [elementFault?, nameFault?, hm, hn, hx, hitems]
    · simp [elementFault?, nameFault?, settingFault?, hm, hn, hx, unbindable]
      rfl
    · have helement : elementFault? x = settingFault? x := by
        simp only [unbindable, List.mem_cons, List.not_mem_nil, or_false, not_or] at hk
        simp [elementFault?, nameFault?, hm, hn, hk]
      simp only [helement, settingFault?, hx, hn, Option.bind_some]
      by_cases ht : textOf x = ""
      · rw [if_pos (.inr ht), ht]
        rfl
      · rw [if_neg (not_or.2 ⟨hk, ht⟩)]
        exact Entry.fault?_setting ht

theorem findSome?_fault?_ofSection (node : Node) :
    (ofSection node).findSome? Entry.fault? = sectionFault? node := by
  unfold ofSection sectionFault? nameFault?
  cases hm : misnamed? node with
  | some name => rfl
  | none =>
    by_cases hs : node.localName? = some "server"
    · simp [hs, findSome?_filterMap, bind_fault?_ofNode?]
    · simp [hs]

theorem ofTree_eq_error_iff_treeFault? {instanceId : String} {root : Node} {fault : ConfigFault} :
    (Settings.ofTree instanceId root).result = .error fault ↔ treeFault? root = some fault := by
  rw [Settings.ofTree_eq_error_iff]
  unfold treeFault? nameFault?
  cases hm : misnamed? root with
  | some name => simp [eq_comm]
  | none =>
    by_cases hn : root.localName? = some "properties"
    · simp [hn, ofRoot, findSome?_flatMap, findSome?_fault?_ofSection]
    · simp [hn, eq_comm]

/-! ### Names that can be read -/

/-- Searches that agree wherever no name is at fault agree unless a name is at fault first. -/
theorem findSome?_eq_of_named {α : Type} {f g : α → Option ConfigFault} {l : List α}
    (hfg : ∀ x ∈ l, (∀ name, f x ≠ some (.invalidName name)) → g x = f x)
    (h : ∀ name, l.findSome? f ≠ some (.invalidName name)) :
    l.findSome? g = l.findSome? f := by
  -- As long as `f` finds nothing, so does `g`; what `f` finds first is no name, and `g` finds it.
  induction l with
  | nil => rfl
  | cons x l ih =>
    rw [List.findSome?_cons] at h
    have hx : g x = f x := by
      refine hfg x List.mem_cons_self fun name hname => h name ?_
      rw [hname]
    rw [List.findSome?_cons, List.findSome?_cons, hx]
    cases hf : f x with
    | some fault => rfl
    | none =>
      rw [hf] at h
      exact ih (fun y hy => hfg y (List.mem_cons_of_mem _ hy)) h

theorem nameFault?_of_named {node : Node} {other : Option ConfigFault}
    (h : ∀ name, (nameFault? node).or other ≠ some (.invalidName name)) :
    nameFault? node = none := by
  unfold nameFault? at h ⊢
  cases hm : misnamed? node with
  | none => rfl
  | some name => exact absurd (by rw [hm]; rfl) (h name)

theorem elementFault?_of_named {x : Node} (h : ∀ name, elementFault? x ≠ some (.invalidName name)) :
    settingFault? x = elementFault? x := by
  have hx : nameFault? x = none := nameFault?_of_named h
  unfold elementFault? at h ⊢
  rw [hx, Option.none_or] at h ⊢
  by_cases hl : x.localName? = some "endpoints" ∨ x.localName? = some "forkedJVMArgs"
  · rw [if_pos hl] at h ⊢
    have hsetting : settingFault? x = none := by
      rcases hl with hl | hl <;> simp [settingFault?, hl, unbindable]
    -- In a list nothing but a name can be at fault.
    have hitems : x.children.findSome? nameFault? = none := by
      rw [Option.eq_none_iff_forall_ne_some]
      intro fault hf
      obtain ⟨item, -, hi⟩ := List.exists_of_findSome?_eq_some hf
      obtain ⟨name, -, rfl⟩ := Option.map_eq_some_iff.1 hi
      exact h name hf
    rw [hsetting, hitems]
  · rw [if_neg hl]

theorem sectionFault?_of_named {node : Node}
    (h : ∀ name, sectionFault? node ≠ some (.invalidName name)) :
    (if node.localName? = some "server" then node.children.findSome? settingFault? else none) =
      sectionFault? node := by
  have hnode : nameFault? node = none := nameFault?_of_named h
  unfold sectionFault? at h ⊢
  rw [hnode, Option.none_or] at h ⊢
  by_cases hs : node.localName? = some "server"
  · rw [if_pos hs] at h
    rw [if_pos hs, if_pos hs]
    exact findSome?_eq_of_named (fun x _ => elementFault?_of_named) h
  · rw [if_neg hs, if_neg hs]

theorem findSome?_settingFault?_elements (root : Node) :
    (elements root).findSome? settingFault? = root.children.findSome? fun node =>
      if node.localName? = some "server" then node.children.findSome? settingFault? else none := by
  have hinside : ∀ node : Node, (node.children.filter (·.localName?.isSome)).findSome?
      settingFault? = node.children.findSome? settingFault? := by
    intro node
    rw [findSome?_filter]
    refine congrArg (fun f => node.children.findSome? f) (funext fun x => ?_)
    cases hn : x.localName? with
    | none => simp [settingFault?, hn]
    | some name => simp
  rw [elements, findSome?_flatMap, findSome?_filter]
  simp [hinside]

/-- The first fault of a document is the one that is found without the names, unless it is a
name. -/
theorem treeFault?_of_named {root : Node} (h : ∀ name, treeFault? root ≠ some (.invalidName name)) :
    documentFault? root = treeFault? root := by
  have hroot : nameFault? root = none := nameFault?_of_named h
  unfold treeFault? at h ⊢
  unfold documentFault?
  rw [hroot, Option.none_or] at h ⊢
  by_cases hn : root.localName? = some "properties"
  · rw [if_pos hn] at h
    rw [if_pos hn, if_pos hn, findSome?_settingFault?_elements]
    exact findSome?_eq_of_named (fun node _ => sectionFault?_of_named) h
  · rw [if_neg hn, if_neg hn]

/-! ### Kinds of faults -/

/-- The fault of a setting is about its own name. -/
theorem key?_of_settingFault? {x : Node} {fault : ConfigFault} (h : settingFault? x = some fault) :
    ∃ key, x.localName? = some key ∧ fault.key? = some key := by
  unfold settingFault? at h
  cases hn : x.localName? with
  | none => simp [hn] at h
  | some key =>
    refine ⟨key, rfl, ?_⟩
    simp only [hn] at h
    split at h
    · cases h
    · split at h
      · cases h
        rfl
      · obtain ⟨cause, -, rfl⟩ := Option.map_eq_some_iff.1 h
        rfl

theorem documentFault?_cases {root : Node} {fault : ConfigFault}
    (h : documentFault? root = some fault) :
    fault = .unexpectedRoot root.localName? ∨ ∃ key, fault.key? = some key := by
  unfold documentFault? at h
  split at h
  · obtain ⟨x, -, hx⟩ := List.exists_of_findSome?_eq_some h
    obtain ⟨key, -, hkey⟩ := key?_of_settingFault? hx
    exact .inr ⟨key, hkey⟩
  · exact .inl (Option.some.inj h).symm

/-- The faults of a document are those found without the names, besides names. -/
theorem treeFault?_cases {root : Node} {fault : ConfigFault} (h : treeFault? root = some fault) :
    (∃ name, fault = .invalidName name) ∨ fault = .unexpectedRoot root.localName? ∨
      ∃ key, fault.key? = some key := by
  by_cases hname : ∃ name, fault = .invalidName name
  · exact .inl hname
  · refine .inr (documentFault?_cases ?_)
    rw [treeFault?_of_named, h]
    rintro name hn
    exact hname ⟨name, Option.some.inj (h.symm.trans hn)⟩

theorem readDocument_cases {files : Files} {text : String} {fault : ConfigFault}
    (h : readDocument files text = .error fault) :
    (fault = .nulInPath ∧ '\x00' ∈ text.toList) ∨
      (∃ path cause, fault = .unreadable path cause) ∨ ∃ details, fault = .illFormed details := by
  unfold readDocument at h
  split at h
  · next hnul =>
    cases h
    exact .inl ⟨rfl, hnul⟩
  · split at h
    · cases h
      exact .inr (.inl ⟨_, _, rfl⟩)
    · split at h
      · cases h
        exact .inr (.inr ⟨_, rfl⟩)
      · cases h

theorem restartFault?_cases {options : Options} {fault : ConfigFault}
    (h : Settings.restartFault? options = some fault) :
    ∃ text, fault = .restartsNotNumeric text := by
  obtain ⟨text, -, -, hf⟩ := Settings.restartFault?_eq_some_iff.1 h
  exact ⟨text, hf⟩

/-! ### Assemblies -/

/-- The first fault of an assembly: that of the file or else of its tree, and then that of the
restart count. -/
def assemblyFault? (inTree : Node → Option ConfigFault) (files : Files) (options : Options) :
    Option ConfigFault :=
  (options.configFile.bind fun text =>
    match readDocument files text with
    | .error fault => some fault
    | .ok root => inTree root).or (Settings.restartFault? options)

theorem assemble_eq_error_iff {files : Files} {freshId : String} {options : Options}
    {fault : ConfigFault} :
    (assemble files freshId options).result = .error fault ↔
      assemblyFault? treeFault? files options = some fault := by
  have hbeneath : ∀ cause, (Settings.beneath files freshId options).result = .error cause ↔
      (options.configFile.bind fun text =>
        match readDocument files text with
        | .error fault => some fault
        | .ok root => treeFault? root) = some cause := by
    intro cause
    cases hc : options.configFile with
    | none => simp [Settings.beneath_of_none hc]
    | some text =>
      rw [Settings.beneath_eq_error_iff hc, Option.bind_some]
      cases readDocument files text with
      | error fault => simp
      | ok root => exact ofTree_eq_error_iff_treeFault?
  rw [assemble_result, assemblyFault?, Option.or_eq_some_iff, ← hbeneath,
    Option.eq_none_iff_forall_ne_some]
  simp only [ne_eq, ← hbeneath]
  cases (Settings.beneath files freshId options).result with
  | error cause => simp
  | ok base => cases Settings.restartFault? options <;> simp

/-- Whatever is searched in the tree, a missing host is no fault of an assembly, and those that are
not foreseen are the path with a NUL character and names. -/
theorem assemblyFault?_cases {files : Files} {options : Options} {fault : ConfigFault}
    (h : assemblyFault? treeFault? files options = some fault) :
    fault ≠ .missingHost ∧
      (fault.isForeseen = false → fault = .nulInPath ∨ ∃ name, fault = .invalidName name) := by
  rcases Option.or_eq_some_iff.1 h with h | ⟨-, h⟩
  · obtain ⟨text, -, ht⟩ := Option.bind_eq_some_iff.1 h
    split at ht
    · next hr =>
      cases ht
      rcases readDocument_cases hr with ⟨rfl, -⟩ | ⟨path, cause, rfl⟩ | ⟨details, rfl⟩ <;>
        simp [ConfigFault.isForeseen]
    · rcases treeFault?_cases ht with ⟨name, rfl⟩ | rfl | ⟨key, hkey⟩
      · simp
      · simp [ConfigFault.isForeseen]
      · cases fault <;> simp_all [ConfigFault.key?, ConfigFault.isForeseen]
  · obtain ⟨text, rfl⟩ := restartFault?_cases h
    simp [ConfigFault.isForeseen]

/-- A path with a NUL character is that of the options. -/
theorem exists_configFile_of_nulInPath {files : Files} {options : Options}
    (h : assemblyFault? treeFault? files options = some .nulInPath) :
    ∃ text, options.configFile = some text ∧ '\x00' ∈ text.toList := by
  rcases Option.or_eq_some_iff.1 h with h | ⟨-, h⟩
  · obtain ⟨text, hc, ht⟩ := Option.bind_eq_some_iff.1 h
    refine ⟨text, hc, ?_⟩
    split at ht
    · next hr =>
      cases ht
      simpa using readDocument_cases hr
    · simpa [ConfigFault.key?] using treeFault?_cases ht
  · obtain ⟨text, hf⟩ := restartFault?_cases h
    cases hf

theorem assemblyFault?_documentFault?_ne {files : Files} {options : Options} (name : String) :
    assemblyFault? documentFault? files options ≠ some (.invalidName name) := by
  intro h
  rcases Option.or_eq_some_iff.1 h with h | ⟨-, h⟩
  · obtain ⟨text, -, ht⟩ := Option.bind_eq_some_iff.1 h
    split at ht
    · next hr =>
      cases ht
      simpa using readDocument_cases hr
    · rcases documentFault?_cases ht with hf | ⟨key, hkey⟩
      · cases hf
      · cases hkey
  · obtain ⟨text, hf⟩ := restartFault?_cases h
    cases hf

theorem assemblyFault?_of_named {files : Files} {options : Options}
    (h : ∀ name, assemblyFault? treeFault? files options ≠ some (.invalidName name)) :
    assemblyFault? documentFault? files options = assemblyFault? treeFault? files options := by
  unfold assemblyFault? at h ⊢
  cases hc : options.configFile with
  | none => rfl
  | some text =>
    simp only [hc, Option.bind_some] at h ⊢
    cases hr : readDocument files text with
    | error fault => rfl
    | ok root =>
      simp only [hr] at h ⊢
      rw [treeFault?_of_named]
      intro name hname
      exact h name (by rw [hname]; rfl)

/-- An assembly fails exactly with the first fault that applies. As long as that is no name, it is
found without looking at the names: first the file, then the root, then the settings in the order
of the document, then the restart count. A host is never missing, and only a path with a NUL
character and names are not foreseen. -/
theorem assemble_failure (files : Files) (freshId : String) (options : Options) :
    (∀ fault, (assemble files freshId options).result = .error fault ↔
      assemblyFault? treeFault? files options = some fault) ∧
    ((∀ fault, (assemble files freshId options).result = .error fault ↔
        assemblyFault? documentFault? files options = some fault) ↔
      ∀ name, assemblyFault? treeFault? files options ≠ some (.invalidName name)) ∧
    ∀ fault, (assemble files freshId options).result = .error fault →
      fault ≠ .missingHost ∧
        (fault.isForeseen = false → fault = .nulInPath ∨ ∃ name, fault = .invalidName name) := by
  refine ⟨fun _ => assemble_eq_error_iff, ⟨?_, ?_⟩, fun _ h =>
    assemblyFault?_cases (assemble_eq_error_iff.1 h)⟩
  · intro hclaim name hname
    exact assemblyFault?_documentFault?_ne name
      ((hclaim _).1 (assemble_eq_error_iff.2 hname))
  · intro hnamed fault
    rw [assemblyFault?_of_named hnamed]
    exact assemble_eq_error_iff

/-- A name with an undeclared qualifier outside all sections ends an assembly, although nothing is
wrong with the settings. -/
theorem assemble_misnamed :
    let document := "<properties><p:x/><?xmlfoo?></properties>"
    let files : Files := fun _ => .ok document.toUTF8.toList
    let options := { Options.none with configFile := some "conf.xml" }
    (assemble files "w" options).result = .error (.invalidName "p:x") ∧
      assemblyFault? documentFault? files options = none := by
  decide +kernel

end LayeredConfig

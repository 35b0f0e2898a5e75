import LayeredConfig.Proofs.Keys
import LayeredConfig.Proofs.Sessions

/-! The report of the settings for forking. Every key of the report sets a field, by its binding or
by the option of its name, and no two of them the same field, so the report never fails, lists
exactly the keys whose settings are not the built-in ones, and follows each key by itself: setting
one of them decides whether that one is listed, by its value and not by its text, and nothing else
that is set has an effect on the report. -/

namespace LayeredConfig

/-! ### The tables -/

/-- The built-in value of a field; that of the identity is left out. -/
def Field.builtIn (field : Field) : Value :=
  (Settings.defaults "").get field

theorem exists_field_of_mem {key : String} (h : key ∈ forkOnlyKeys) :
    ∃ field, Field.ofKey? key = some field := by
  have hall : ∀ key ∈ forkOnlyKeys, (Field.ofKey? key).isSome := by decide +kernel
  exact Option.isSome_iff_exists.1 (hall key h)

theorem mem_forkOnly_iff {key : String} {field : Field} :
    (key, field) ∈ forkOnly ↔ key ∈ forkOnlyKeys ∧ Field.ofKey? key = some field := by
  simp [forkOnly, List.mem_filterMap]

theorem Field.ofKey?_of_binding {key : String} {binding : Binding}
    (h : Binding.ofKey? key = some binding) : Field.ofKey? key = some binding.field := by
  rw [Field.ofKey?, h]
  rfl

/-- The keys that set a field are those of the bindings and of the options. -/
theorem mem_of_ofKey? {key : String} {field : Field} (h : Field.ofKey? key = some field) :
    (key, field) ∈ bindings.map (fun binding => (binding.key, binding.field)) ++ optionFields := by
  rw [Field.ofKey?, Option.or_eq_some_iff] at h
  rw [List.mem_append, List.mem_map]
  rcases h with h | ⟨-, h⟩
  · obtain ⟨binding, hk, rfl⟩ := Option.map_eq_some_iff.1 h
    obtain ⟨hb, rfl⟩ := Binding.mem_of_ofKey? hk
    exact .inl ⟨binding, hb, rfl⟩
  · obtain ⟨before, after, hl, -⟩ := List.lookup_eq_some_iff.1 h
    rw [hl]
    exact .inr (by simp)

/-- No two keys set one field. -/
theorem eq_of_ofKey? {first second : String} {field : Field}
    (h : Field.ofKey? first = some field) (h' : Field.ofKey? second = some field) :
    first = second := by
  have hall : ∀ e ∈ bindings.map (fun binding => (binding.key, binding.field)) ++ optionFields,
      ∀ e' ∈ bindings.map (fun binding => (binding.key, binding.field)) ++ optionFields,
        e.2 = e'.2 → e.1 = e'.1 := by decide +kernel
  exact hall _ (mem_of_ofKey? h) _ (mem_of_ofKey? h') rfl

/-- No field for forking is one that has a special form or that other options than its own set. -/
theorem field_not_mem_of_mem_forkOnly {key : String} {field : Field}
    (h : (key, field) ∈ forkOnly) :
    field ∉ [.host, .port, .portText, .instanceId, .endpoints, .workerArguments, .configPath] := by
  have hall : ∀ e ∈ forkOnly, e.2 ∉ [.host, .port, .portText, .instanceId, .endpoints,
      .workerArguments, .configPath] := by decide +kernel
  exact hall _ h

theorem kept_of_mem_forkOnly {key : String} {field : Field} (h : (key, field) ∈ forkOnly)
    (value : Value) : Settings.kept field value = value := by
  have hfield := field_not_mem_of_mem_forkOnly h
  exact Settings.kept_of_ne (fun e => hfield (by simp [e])) (fun e => hfield (by simp [e])) value

theorem get_defaults_of_mem_forkOnly {key : String} {field : Field} (h : (key, field) ∈ forkOnly)
    (instanceId : String) : (Settings.defaults instanceId).get field = field.builtIn := by
  have hfield := field_not_mem_of_mem_forkOnly h
  cases field <;> first | rfl | exact absurd (by decide) hfield

theorem get_reconciled_of_mem_forkOnly {key : String} {field : Field}
    (h : (key, field) ∈ forkOnly) (s : Settings) : s.reconciled.get field = s.get field := by
  have hfield := field_not_mem_of_mem_forkOnly h
  exact s.get_reconciled fun e => hfield (by simp [e])

/-! ### The report -/

namespace Config

/-- Whether a list has the keys for forking, in the order of their table and each once, whose
settings are not the built-in ones. -/
structure IsReport (config : Config) (keys : List String) : Prop where
  sublist : keys.Sublist forkOnlyKeys
  nodup : keys.Nodup
  mem_iff : ∀ key ∈ forkOnlyKeys, ∃ field, Field.ofKey? key = some field ∧
    (key ∈ keys ↔ config.settings.get field ≠ field.builtIn)

theorem changedAmong?_eq (config : Config) {keys : List String}
    (h : ∀ key ∈ keys, ∃ field, Field.ofKey? key = some field) :
    config.changedAmong? keys =
      some (keys.filter fun key => (Field.ofKey? key).any config.isChanged) := by
  induction keys with
  | nil => rfl
  | cons key keys ih =>
    obtain ⟨field, hfield⟩ := h key List.mem_cons_self
    rw [changedAmong?, hfield, ih fun other hm => h other (List.mem_cons_of_mem _ hm)]
    cases hc : config.isChanged field <;> simp [hfield, hc]

/-- The report finds a field for each of its keys. -/
theorem changedAmong?_forkOnlyKeys (config : Config) :
    config.changedAmong? forkOnlyKeys = some config.changedForkOnly := by
  rw [changedForkOnly, config.changedAmong?_eq fun _ h => exists_field_of_mem h]
  rfl

theorem changedForkOnly_eq (config : Config) :
    config.changedForkOnly =
      forkOnlyKeys.filter fun key => (Field.ofKey? key).any config.isChanged := by
  rw [changedForkOnly, config.changedAmong?_eq fun _ h => exists_field_of_mem h]
  rfl

theorem mem_forkOnlyKeys_of_mem {config : Config} {key : String}
    (h : key ∈ config.changedForkOnly) : key ∈ forkOnlyKeys := by
  rw [changedForkOnly_eq] at h
  exact List.mem_of_mem_filter h

theorem mem_changedForkOnly_iff {config : Config} {key : String} {field : Field}
    (h : (key, field) ∈ forkOnly) :
    key ∈ config.changedForkOnly ↔ config.settings.get field ≠ field.builtIn := by
  obtain ⟨hkey, hfield⟩ := mem_forkOnly_iff.1 h
  rw [changedForkOnly_eq, List.mem_filter, hfield, Option.any_some, isChanged, bne_iff_ne,
    get_defaults_of_mem_forkOnly h]
  exact and_iff_right hkey

theorem isReport_changedForkOnly (config : Config) : config.IsReport config.changedForkOnly := by
  have hkeys : forkOnlyKeys.Nodup := by decide
  refine ⟨?_, ?_, fun key hkey => ?_⟩
  · rw [changedForkOnly_eq]
    exact List.filter_sublist
  · rw [changedForkOnly_eq]
    exact hkeys.filter _
  · obtain ⟨field, hfield⟩ := exists_field_of_mem hkey
    exact ⟨field, hfield, mem_changedForkOnly_iff (mem_forkOnly_iff.2 ⟨hkey, hfield⟩)⟩

/-- Two reports list a key alike where its field has one value. -/
theorem mem_changedForkOnly_congr {first second : Config} {key : String}
    (h : ∀ field, (key, field) ∈ forkOnly →
      first.settings.get field = second.settings.get field) :
    key ∈ first.changedForkOnly ↔ key ∈ second.changedForkOnly := by
  by_cases hkey : key ∈ forkOnlyKeys
  · obtain ⟨field, hfield⟩ := exists_field_of_mem hkey
    have hmem := mem_forkOnly_iff.2 ⟨hkey, hfield⟩
    rw [mem_changedForkOnly_iff hmem, mem_changedForkOnly_iff hmem, h field hmem]
  · exact iff_of_false (mt mem_forkOnlyKeys_of_mem hkey) (mt mem_forkOnlyKeys_of_mem hkey)

/-- A report is determined by its members. -/
theorem changedForkOnly_eq_of_mem_iff {first second : Config}
    (h : ∀ key, key ∈ first.changedForkOnly ↔ key ∈ second.changedForkOnly) :
    first.changedForkOnly = second.changedForkOnly := by
  rw [changedForkOnly_eq, changedForkOnly_eq]
  refine List.filter_congr fun key hkey => ?_
  have hboth := h key
  rw [changedForkOnly_eq, changedForkOnly_eq, List.mem_filter, List.mem_filter] at hboth
  exact Bool.eq_iff_iff.2 (by simpa only [hkey, true_and] using hboth)

end Config

/-! ### Routes -/

/-- The value that options give a field for forking. -/
def Options.forkValue? (options : Options) : Field → Option Value
  | .restartCount => (options.restartCount.bind Number.parse?).map .integer
  | .statusFile => options.statusFile.map .text
  | _ => Option.none

namespace Settings

/-- A key is set to a value by its own route, which leaves other settings: by a text that is bound
to it, or by the option of its name alone. -/
inductive Sets (s : Settings) : String → Value → Settings → Prop
  | bind {key text : String} {binding : Binding} {value : Value} {after : Settings} :
    Binding.ofKey? key = some binding → binding.coercion.read text = .ok value →
      (s.bindKey key text).result = .ok after → Sets s key value after
  | restartCount {text : String} {n : Int} : Number.parse? text = some n →
    Sets s "numRestarts" (.integer n)
      (s.override { Options.none with restartCount := some text }).draft
  | statusFile (text : String) :
    Sets s "forkedStatusFile" (.text text)
      (s.override { Options.none with statusFile := some text }).draft

theorem IsNormal.sets {s after : Settings} {key : String} {value : Value} (h : s.IsNormal)
    (hset : s.Sets key value after) : after.IsNormal := by
  cases hset with
  | bind _ _ hbind =>
    obtain ⟨binding, value, -, -, ha⟩ := bindKey_eq_ok_iff.1 hbind
    exact h.assign ha
  | restartCount => exact h.override_draft _
  | statusFile => exact h.override_draft _

/-- However an attempt ends, it leaves the fields for forking with the values of the options or else
as they were, unless it stops before the status file. -/
theorem get_override_draft_of_mem_forkOnly (s : Settings) {options : Options}
    (ho : restartFault? options = none ∨ options.statusFile = none) {key : String} {field : Field}
    (h : (key, field) ∈ forkOnly) :
    (s.override options).draft.get field = (options.forkValue? field).getD (s.get field) := by
  have hfield := field_not_mem_of_mem_forkOnly h
  cases field
  case restartCount =>
    rw [get, restartCount_override_draft, Options.forkValue?]
    cases options.restartCount.bind Number.parse? <;> rfl
  case statusFile =>
    rw [get, statusFile_override_draft s ho, Options.forkValue?]
    cases options.statusFile <;> rfl
  all_goals
    first
    | exact absurd (by decide) hfield
    | exact get_override_draft s options (by decide)

/-- Setting a key gives its field the value, in the form in which it is kept, and of the fields for
forking no other one. -/
theorem Sets.get_eq {s after : Settings} {key : String} {value : Value}
    (h : s.Sets key value after) :
    ∃ field, Field.ofKey? key = some field ∧ after.get field = kept field value ∧
      ∀ target other, (target, other) ∈ forkOnly → other ≠ field →
        after.get other = s.get other := by
  cases h with
  | @bind _ text binding _ _ hk hr hbind =>
    obtain ⟨binding', value', hk', hr', ha⟩ := bindKey_eq_ok_iff.1 hbind
    obtain rfl : binding = binding' := Option.some.inj (hk.symm.trans hk')
    obtain rfl : value = value' := Except.ok.inj (hr.symm.trans hr')
    exact ⟨binding.field, Field.ofKey?_of_binding hk, get_assign_self ha,
      fun _ other _ hne => get_assign_of_ne ha hne⟩
  | @restartCount text n hn =>
    have hmem : ("numRestarts", Field.restartCount) ∈ forkOnly := by decide +kernel
    refine ⟨.restartCount, (mem_forkOnly_iff.1 hmem).2, ?_, fun target other hother hne => ?_⟩
    · rw [get_override_draft_of_mem_forkOnly s (.inr rfl) hmem, Options.forkValue?,
        Option.bind_some, hn]
      rfl
    · rw [get_override_draft_of_mem_forkOnly s (.inr rfl) hother]
      cases other <;> first | rfl | exact absurd rfl hne
  | statusFile text =>
    have hmem : ("forkedStatusFile", Field.statusFile) ∈ forkOnly := by decide +kernel
    refine ⟨.statusFile, (mem_forkOnly_iff.1 hmem).2, ?_, fun target other hother hne => ?_⟩
    · rw [get_override_draft_of_mem_forkOnly s (.inl rfl) hmem]
      rfl
    · rw [get_override_draft_of_mem_forkOnly s (.inl rfl) hother]
      cases other <;> first | rfl | exact absurd rfl hne

/-- Binding a key is a route, whatever the key and the text. -/
theorem exists_sets_of_bindKey {s after : Settings} {key text : String}
    (h : (s.bindKey key text).result = .ok after) : ∃ value, s.Sets key value after := by
  obtain ⟨binding, value, hb, hr, -⟩ := bindKey_eq_ok_iff.1 h
  exact ⟨value, .bind hb hr h⟩

/-- Every key for forking has a route. -/
theorem exists_sets (s : Settings) {key : String} (h : key ∈ forkOnlyKeys) :
    ∃ value after, s.Sets key value after := by
  have hroute : ∀ key ∈ forkOnlyKeys, key = "numRestarts" ∨ key = "forkedStatusFile" ∨
      ((defaults "").bindKey key "0").result.isOk = true := by decide +kernel
  rcases hroute key h with rfl | rfl | hbound
  · have hzero : Number.parse? "0" = some 0 := by decide +kernel
    exact ⟨_, _, .restartCount hzero⟩
  · exact ⟨_, _, .statusFile ""⟩
  · rcases bindKey_cases key "0" with ⟨fault, hfail⟩ | ⟨binding, hb, rfl, value, hr, hbind⟩
    · rw [hfail] at hbound
      cases hbound
    · obtain ⟨after, -, hafter⟩ := hbind s
      obtain ⟨value, hset⟩ := exists_sets_of_bindKey (s := s) (by rw [hafter])
      exact ⟨value, after, hset⟩

/-- What setting a key does to the report: it decides whether the key is listed, and no more. -/
theorem IsNormal.changedForkOnly_of_sets {s after : Settings} (hs : s.IsNormal) {key : String}
    {value : Value} (h : s.Sets key value after) :
    ∃ again, after.build = .ok again ∧
      (key ∈ forkOnlyKeys → ∃ field, Field.ofKey? key = some field ∧
        again.settings.get field = value ∧
        (key ∈ again.changedForkOnly ↔ value ≠ field.builtIn)) ∧
      (∀ other ≠ key,
        other ∈ again.changedForkOnly ↔ other ∈ (⟨s⟩ : Config).changedForkOnly) ∧
      (key ∉ forkOnlyKeys → again.changedForkOnly = (⟨s⟩ : Config).changedForkOnly) := by
  obtain ⟨field, hfield, hget, hframe⟩ := h.get_eq
  have hothers : ∀ other ≠ key,
      other ∈ (⟨after⟩ : Config).changedForkOnly ↔ other ∈ (⟨s⟩ : Config).changedForkOnly := by
    refine fun other hne => Config.mem_changedForkOnly_congr fun target htarget => ?_
    refine hframe _ _ htarget ?_
    rintro rfl
    exact hne (eq_of_ofKey? (mem_forkOnly_iff.1 htarget).2 hfield)
  refine ⟨⟨after⟩, (hs.sets h).build_eq, fun hkey => ?_, hothers, fun hkey => ?_⟩
  · have hmem := mem_forkOnly_iff.2 ⟨hkey, hfield⟩
    rw [kept_of_mem_forkOnly hmem] at hget
    refine ⟨field, hfield, hget, ?_⟩
    rw [Config.mem_changedForkOnly_iff hmem, hget]
  · refine Config.changedForkOnly_eq_of_mem_iff fun other => ?_
    by_cases hne : other = key
    · rw [hne]
      exact iff_of_false (mt Config.mem_forkOnlyKeys_of_mem hkey)
        (mt Config.mem_forkOnlyKeys_of_mem hkey)
    · exact hothers other hne

end Settings

/-! ### Built-in settings -/

/-- Whether a text gives a key no value but the built-in one. -/
def DenotesBuiltIn (key text : String) : Prop :=
  ∀ binding ∈ Binding.ofKey? key, ∀ value ∈ (binding.coercion.read text).toOption,
    value = binding.field.builtIn

instance (key text : String) : Decidable (DenotesBuiltIn key text) :=
  inferInstanceAs (Decidable (∀ binding ∈ Binding.ofKey? key,
    ∀ value ∈ (binding.coercion.read text).toOption, value = binding.field.builtIn))

/-- Whether the texts that count in a document give the keys for forking the built-in values. -/
def StatesBuiltIn (root : Xml.Node) : Prop :=
  ∀ key ∈ forkOnlyKeys, ∀ text, Entry.lastText? key (Entry.elements root) = some text →
    DenotesBuiltIn key text

/-- Whether an operation gives the settings for forking no values but the built-in ones. -/
def Operation.KeepsBuiltIn (files : Files) : Operation → Prop
  | .bind key text => key ∈ forkOnlyKeys → DenotesBuiltIn key text
  | .set field value => ∀ key, (key, field) ∈ forkOnly → value = field.builtIn
  | .load octets => ∀ root, Xml.readGuarded octets = .ok root → StatesBuiltIn root
  | .loadTree tree => ∀ root, tree = .ok root → StatesBuiltIn root
  | .loadFile path => ∀ root, readDocument files path = .ok root → StatesBuiltIn root
  | .override options =>
    (∀ value ∈ options.forkValue? .restartCount, value = Field.restartCount.builtIn) ∧
      options.statusFile = none
  | _ => True

namespace Settings

def IsBuiltIn (s : Settings) : Prop :=
  ∀ key field, (key, field) ∈ forkOnly → s.get field = field.builtIn

theorem isBuiltIn_defaults (instanceId : String) : (defaults instanceId).IsBuiltIn :=
  fun _ _ h => get_defaults_of_mem_forkOnly h instanceId

theorem IsBuiltIn.assign {s t : Settings} {field : Field} {value : Value} (h : s.IsBuiltIn)
    (ha : s.assign field value = .ok t)
    (hv : ∀ key, (key, field) ∈ forkOnly → value = field.builtIn) : t.IsBuiltIn := by
  intro key other hmem
  by_cases hf : other = field
  · subst hf
    rw [get_assign_self ha, kept_of_mem_forkOnly hmem]
    exact hv key hmem
  · rw [get_assign_of_ne ha hf]
    exact h key other hmem

theorem IsBuiltIn.assignAs {s t : Settings} {holder : Holder} {field : Field} {value : Value}
    (h : s.IsBuiltIn) (ha : s.assignAs holder field value = .ok t)
    (hv : ∀ key, (key, field) ∈ forkOnly → value = field.builtIn) : t.IsBuiltIn := by
  unfold Settings.assignAs at ha
  cases hs : s.assign field value with
  | error cause => rw [hs] at ha; cases ha
  | ok next => rw [hs] at ha; cases ha; exact h.assign hs hv

theorem isBuiltIn_of_ofFields {holder : Holder} {instanceId : String}
    {fields : List (Field × Value)} {s : Settings} (h : ofFields holder instanceId fields = .ok s)
    (hf : ∀ entry ∈ fields, ∀ key, (key, entry.1) ∈ forkOnly → entry.2 = entry.1.builtIn) :
    s.IsBuiltIn := by
  unfold ofFields at h
  have hdefaults := isBuiltIn_defaults instanceId
  generalize defaults instanceId = start at h hdefaults
  induction fields generalizing start with
  | nil => cases h; exact hdefaults
  | cons entry fields ih =>
    rw [List.foldlM_cons] at h
    rw [List.forall_mem_cons] at hf
    cases hs : start.assignAs holder entry.1 entry.2 with
    | error rejection => rw [hs] at h; cases h
    | ok next => rw [hs] at h; exact ih hf.2 next h (hdefaults.assignAs hs hf.1)

/-- A document whose texts denote built-in values leaves the settings for forking as they are built
in. -/
theorem isBuiltIn_of_ofTree {instanceId : String} {root : Xml.Node} {t : Settings}
    (h : (ofTree instanceId root).result = .ok t) (hs : StatesBuiltIn root) : t.IsBuiltIn := by
  have hroute : ∀ e ∈ forkOnly, (∃ binding ∈ bindings, binding.key = e.1 ∧ binding.field = e.2) ∨
      e.2 ∈ Field.unwritten := by decide +kernel
  obtain ⟨-, -, u, hu, rfl⟩ := ofTree_eq_ok_iff.1 h
  intro key field hmem
  rw [get_reconciled_of_mem_forkOnly hmem, ← get_defaults_of_mem_forkOnly hmem instanceId]
  rcases hroute _ hmem with ⟨binding, hb, hkey, hfield⟩ | hunwritten
  · dsimp only at hkey hfield
    subst hkey hfield
    have hbound := get_bound hu hb
    split at hbound
    · exact hbound
    · next text hl =>
      obtain ⟨value, hr, hkept⟩ := hbound
      rw [hkept, kept_of_mem_forkOnly hmem, get_defaults_of_mem_forkOnly hmem]
      exact hs _ (mem_forkOnly_iff.1 hmem).1 text hl binding (Binding.ofKey?_key hb) value
        (by rw [hr]; rfl)
  · exact get_unwritten hu field hunwritten

theorem IsBuiltIn.override_draft {s : Settings} (h : s.IsBuiltIn) {options : Options}
    (hr : ∀ value ∈ options.forkValue? .restartCount, value = Field.restartCount.builtIn)
    (hf : options.statusFile = none) : (s.override options).draft.IsBuiltIn := by
  intro key field hmem
  rw [get_override_draft_of_mem_forkOnly s (.inr hf) hmem, ← h key field hmem]
  cases hv : options.forkValue? field with
  | none => rfl
  | some value =>
    cases field
    case restartCount => rw [h key _ hmem, Option.getD_some, hr value hv]
    case statusFile => simp [Options.forkValue?, hf] at hv
    all_goals cases hv

/-- Settings that are built in are not reported. -/
theorem IsBuiltIn.changedForkOnly_eq_nil {s : Settings} (h : s.IsBuiltIn) :
    (⟨s⟩ : Config).changedForkOnly = [] := by
  refine List.eq_nil_iff_forall_not_mem.2 fun key hm => ?_
  obtain ⟨field, hfield⟩ := exists_field_of_mem (Config.mem_forkOnlyKeys_of_mem hm)
  have hmem := mem_forkOnly_iff.2 ⟨Config.mem_forkOnlyKeys_of_mem hm, hfield⟩
  exact (Config.mem_changedForkOnly_iff hmem).1 hm (h key field hmem)

end Settings

/-! ### Sessions -/

namespace Session

/-- An operation that gives built-in values only keeps the settings for forking built in. -/
theorem isBuiltIn_step (around : Surroundings) {session : Session} (h : session.draft.IsBuiltIn)
    {operation : Operation} (hk : operation.KeepsBuiltIn around.files) :
    (session.step around operation).session.draft.IsBuiltIn := by
  cases operation with
  | bind key text =>
    refine draft_replaceDraft h fun t ht => ?_
    obtain ⟨binding, value, hb, hr, ha⟩ := Settings.bindKey_eq_ok_iff.1 ht
    refine h.assign ha fun target htarget => ?_
    obtain ⟨hkey, hfield⟩ := mem_forkOnly_iff.1 htarget
    obtain rfl := eq_of_ofKey? hfield (Field.ofKey?_of_binding hb)
    exact hk hkey binding hb value (by rw [hr]; rfl)
  | set field value =>
    simp only [step]
    split
    · next draft ha => exact h.assignAs ha hk
    · exact h
  | extend field items =>
    intro key other hmem
    have hfield := field_not_mem_of_mem_forkOnly hmem
    have hget : (session.draft.extend field items).get other = session.draft.get other := by
      cases field <;> cases other <;> first | rfl | exact absurd (by decide) hfield
    exact hget.trans (h key other hmem)
  | validate =>
    refine draft_replaceDraft h fun t ht key field hmem => ?_
    obtain ⟨-, rfl⟩ := Settings.reconcile_eq_ok_iff.1 ht
    rw [get_reconciled_of_mem_forkOnly hmem, h key field hmem]
  | load octets =>
    refine draft_replaceDraft h fun t ht => ?_
    unfold Settings.ofOctets at ht
    split at ht
    · next root hroot => exact Settings.isBuiltIn_of_ofTree ht (hk root hroot)
    · cases ht
  | loadTree tree =>
    rcases tree with fault | root
    · exact h
    · exact draft_replaceDraft h fun t ht => Settings.isBuiltIn_of_ofTree ht (hk root rfl)
  | loadFile path =>
    refine draft_replaceDraft h fun t ht => ?_
    rw [Settings.ofFile_result] at ht
    split at ht
    · cases ht
    · next root hroot => exact Settings.isBuiltIn_of_ofTree ht (hk root hroot)
  | build =>
    simp only [step]
    split <;> exact h
  | override options =>
    simp only [step, draft_replaceConfig]
    exact h.override_draft hk.1 hk.2
  | assemble options =>
    simp only [step, draft_replaceConfig]
    exact h
  | showConfig =>
    simp only [step, session_withConfig]
    exact h
  | setConfig field value => exact h
  | workerArguments port id windows =>
    simp only [step, session_withConfig]
    exact h

theorem isBuiltIn_run {session : Session} (h : session.draft.IsBuiltIn)
    {steps : List (Surroundings × Operation)}
    (hk : ∀ step ∈ steps, step.2.KeepsBuiltIn step.1.files) :
    (session.run steps).draft.IsBuiltIn := by
  induction steps generalizing session with
  | nil => exact h
  | cons step steps ih =>
    rw [List.forall_mem_cons] at hk
    exact ih (isBuiltIn_step step.1 h hk.1) hk.2

/-- In every session the report of the settings for forking is made without a failure, and lists
the keys that differ from the built-in settings. Setting a key by its own route decides by its value
whether it is listed, and leaves the other keys as they were; the options for the port, the host and
the identity leave all of them. As long as nothing but built-in values is set, however they are
written, the report is empty. -/
theorem run_changedForkOnly {freshId : String} {fields : List (Field × Value)} {draft : Settings}
    (h : Settings.ofFields .draft freshId fields = .ok draft)
    (steps : List (Surroundings × Operation)) :
    let reached := (run ⟨draft, none⟩ steps).draft
    ∃ config, reached.build = .ok config ∧
      config.changedAmong? forkOnlyKeys = some config.changedForkOnly ∧
      config.IsReport config.changedForkOnly ∧
      (∀ key ∈ forkOnlyKeys, ∃ value after, reached.Sets key value after) ∧
      (∀ key text after, (reached.bindKey key text).result = .ok after →
        ∃ value, reached.Sets key value after) ∧
      (∀ key value after, reached.Sets key value after → ∃ again, after.build = .ok again ∧
        (key ∈ forkOnlyKeys → ∃ field, Field.ofKey? key = some field ∧
          again.settings.get field = value ∧
          (key ∈ again.changedForkOnly ↔ value ≠ field.builtIn)) ∧
        (∀ other ≠ key, other ∈ again.changedForkOnly ↔ other ∈ config.changedForkOnly) ∧
        (key ∉ forkOnlyKeys → again.changedForkOnly = config.changedForkOnly)) ∧
      (∀ options : Options, options.restartCount = none → options.statusFile = none →
        ∃ again, (reached.override options).draft.build = .ok again ∧
          again.changedForkOnly = config.changedForkOnly) ∧
      (∀ options again, (reached.override options).outcome.result = .ok again →
        (reached.override options).draft.build = .ok again) ∧
      ((∀ entry ∈ fields, ∀ key, (key, entry.1) ∈ forkOnly → entry.2 = entry.1.builtIn) →
        (∀ step ∈ steps, step.2.KeepsBuiltIn step.1.files) → config.changedForkOnly = []) := by
  intro reached
  have hnormal : reached.IsNormal := isNormal_run (Settings.isNormal_of_ofFields h) steps
  refine ⟨⟨reached⟩, hnormal.build_eq, Config.changedAmong?_forkOnlyKeys _,
    Config.isReport_changedForkOnly _, fun key hkey => reached.exists_sets hkey,
    fun key text after hbind => Settings.exists_sets_of_bindKey hbind,
    fun key value after hset => hnormal.changedForkOnly_of_sets hset,
    fun options hcount hstatus => ?_, fun options again hagain => ?_, fun hfields hsteps => ?_⟩
  · refine ⟨⟨_⟩, (hnormal.override_draft options).build_eq,
      Config.changedForkOnly_eq_of_mem_iff fun key =>
        Config.mem_changedForkOnly_congr fun field hmem => ?_⟩
    rw [Settings.get_override_draft_of_mem_forkOnly reached (.inr hstatus) hmem]
    cases field <;> simp [Options.forkValue?, hcount, hstatus]
  · rw [(hnormal.override_draft options).build_eq, Settings.override_draft_of_ok hagain]
    obtain ⟨-, -, rfl⟩ := Settings.override_eq_ok_iff.1 hagain
    rw [(hnormal.overridden options).normalized_eq]
  · exact (isBuiltIn_run (Settings.isBuiltIn_of_ofFields h hfields) hsteps).changedForkOnly_eq_nil

/-- Built-in values with a sign or with zeros in front are not reported; another number of files
is. -/
theorem run_changedForkOnly_of_padded :
    let around : Surroundings := ⟨fun _ => .error .notFound, ⟨.root, []⟩, "w"⟩
    let steps : List (Surroundings × Operation) :=
      [(around, .bind "taskPulseMillis" "+500"), (around, .bind "pingPulseMillis" "000500")]
    let reached := (run ⟨Settings.defaults "w", none⟩ steps).draft
    ∃ config, reached.build = .ok config ∧ config.changedForkOnly = [] ∧
      ∃ after again, reached.Sets "maxFiles" (.integer 7) after ∧ after.build = .ok again ∧
        "maxFiles" ∈ again.changedForkOnly := by
  intro around steps reached
  have hstart : Settings.ofFields .draft "w" [] = .ok (Settings.defaults "w") := rfl
  obtain ⟨config, hbuild, -, -, -, -, hsets, -, -, hempty⟩ := run_changedForkOnly hstart steps
  have hsteps : ∀ step ∈ steps, step.2.KeepsBuiltIn step.1.files := by
    have hpadded : DenotesBuiltIn "taskPulseMillis" "+500" ∧
        DenotesBuiltIn "pingPulseMillis" "000500" := by decide +kernel
    simp [steps, Operation.KeepsBuiltIn, hpadded]
  have hseven : Number.parse "7" = .ok 7 := Number.parse?_eq_some_iff.1 (by decide +kernel)
  have hbinding : Binding.ofKey? "maxFiles" = some ⟨"maxFiles", .maxFiles, .integer⟩ := by
    decide +kernel
  have hread : Coercion.integer.read "7" = .ok (.integer 7) := by
    rw [Coercion.read, hseven]
    rfl
  have hbind : (reached.bindKey "maxFiles" "7").result = .ok { reached with maxFiles := 7 } :=
    Settings.bindKey_eq_ok_iff.2 ⟨_, _, hbinding, hread, rfl⟩
  have hset := Settings.Sets.bind hbinding hread hbind
  obtain ⟨again, hagain, hlisted, -⟩ := hsets _ _ _ hset
  obtain ⟨field, hfield, -, hiff⟩ := hlisted (by decide)
  obtain rfl : Field.maxFiles = field := Option.some.inj (.trans (by decide +kernel) hfield)
  exact ⟨config, hbuild, hempty (by simp) hsteps, _, again, hset, hagain,
    hiff.2 (by decide)⟩

end Session

end LayeredConfig

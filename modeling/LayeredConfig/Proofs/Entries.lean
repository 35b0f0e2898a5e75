import LayeredConfig.Proofs.Normal
import LayeredConfig.Settings.Load

/-! What the entries of a file do to settings. Whether an entry fails does not depend on the
settings, so that the first entry with a fault decides. Entries that do not fail leave each scalar
field with the last value that one of them gives it, and append to the lists what each of them has
for it. No entry looks at the identity. -/

namespace LayeredConfig

/-! ### Bindings -/

/-- The fields that only options write. -/
def Field.unwritten : List Field :=
  [.port, .instanceId, .statusFile, .restartCount, .configPath]

/-- The fields that no key writes. -/
def Field.keyless : List Field :=
  unwritten ++ [.portText, .endpoints, .workerArguments]

theorem Binding.field_ne {binding : Binding} (h : binding ∈ bindings) {field : Field}
    (hf : field ∈ Field.keyless) : binding.field ≠ field := by
  have hall : ∀ b ∈ bindings, b.field ∉ Field.keyless := by decide
  rintro rfl
  exact hall binding h hf

theorem Binding.mem_of_ofKey? {key : String} {binding : Binding}
    (h : ofKey? key = some binding) : binding ∈ bindings ∧ binding.key = key :=
  ⟨List.mem_of_find?_eq_some h, by simpa using List.find?_some h⟩

theorem Binding.ofKey?_key {binding : Binding} (h : binding ∈ bindings) :
    ofKey? binding.key = some binding := by
  revert binding
  decide

theorem Binding.eq_of_field {first second : Binding} (h : first ∈ bindings) (h' : second ∈ bindings)
    (hf : first.field = second.field) : first = second := by
  have hall : ∀ b ∈ bindings, ∀ b' ∈ bindings, b.field = b'.field → b = b' := by decide
  exact hall first h second h' hf

namespace Settings

/-- A key is bound exactly if it is known and the field takes what the text denotes. -/
theorem bindKey_eq_ok_iff {s t : Settings} {key text : String} :
    (s.bindKey key text).result = .ok t ↔
      ∃ binding value, Binding.ofKey? key = some binding ∧
        binding.coercion.read text = .ok value ∧ s.assign binding.field value = .ok t := by
  unfold bindKey
  split
  · next hk => simp [hk]
  · next binding hk =>
    split
    · next fault hr => simp [hk, hr]
    · next value hr =>
      cases ha : s.assign binding.field value <;>
        simp [hk, hr, assignAs, ha, Except.mapError]

/-- A change of settings that goes with the assignments to all fields that have a key goes with the
binding of keys. -/
theorem bindKey_map {s : Settings} (change : Settings → Settings)
    (h : ∀ binding ∈ bindings, ∀ value,
      (change s).assign binding.field value = (s.assign binding.field value).map change)
    (key text : String) : (change s).bindKey key text = change <$> s.bindKey key text := by
  unfold bindKey
  cases hk : Binding.ofKey? key with
  | none => rfl
  | some binding =>
    cases hr : binding.coercion.read text with
    | error numeral => simp only [hr]; rfl
    | ok value =>
      simp only [hr, assignAs, h binding (Binding.mem_of_ofKey? hk).1 value]
      cases s.assign binding.field value <;> rfl

/-! ### Faults -/

/-- Why a field does not take a value has nothing to do with the settings. -/
theorem assign_eq_error_iff {s : Settings} (t : Settings) {field : Field} {value : Value}
    {cause : RejectionCause} :
    s.assign field value = .error cause ↔ t.assign field value = .error cause := by
  cases field <;> cases value <;> simp only [assign, reduceCtorEq]
  split <;> simp

theorem bindKey_eq_error {s : Settings} (t : Settings) {key text : String} {fault : ConfigFault}
    (h : (s.bindKey key text).result = .error fault) :
    (t.bindKey key text).result = .error fault := by
  unfold bindKey at h ⊢
  cases hk : Binding.ofKey? key with
  | none => simpa only [hk] using h
  | some binding =>
    simp only [hk] at h ⊢
    cases hr : binding.coercion.read text with
    | error numeral => simpa only [hr] using h
    | ok value =>
      simp only [hr] at h ⊢
      cases ha : s.assign binding.field value with
      | error cause =>
        have ht := (assign_eq_error_iff t).1 ha
        simpa only [assignAs, ha, ht, Except.mapError] using h
      | ok next => simp [assignAs, ha, Except.mapError] at h

theorem enter_eq_error {s : Settings} (t : Settings) {entry : Entry} {fault : ConfigFault}
    (h : (s.enter entry).result = .error fault) : (t.enter entry).result = .error fault := by
  cases entry with
  | setting key text =>
    simp only [enter] at h ⊢
    split at h
    · cases h
    · next ht =>
      rw [if_neg ht]
      exact bindKey_eq_error t h
  | misnamed name => exact h
  | endpoints items => cases h
  | workerArguments items => cases h
  | port text => cases h

end Settings

/-- The fault of an entry, found by entering it into the built-in settings. -/
def Entry.fault? (entry : Entry) : Option ConfigFault :=
  match ((Settings.defaults "").enter entry).result with
  | .error fault => some fault
  | .ok _ => none

namespace Settings

theorem enter_eq_error_iff {s : Settings} {entry : Entry} {fault : ConfigFault} :
    (s.enter entry).result = .error fault ↔ entry.fault? = some fault := by
  have hbase : entry.fault? = some fault ↔
      ((defaults "").enter entry).result = .error fault := by
    unfold Entry.fault?
    split <;> simp_all
  rw [hbase]
  exact ⟨enter_eq_error _, enter_eq_error _⟩

theorem fault?_of_enter {s t : Settings} {entry : Entry} (h : (s.enter entry).result = .ok t) :
    entry.fault? = none := by
  rw [Option.eq_none_iff_forall_ne_some]
  intro fault hf
  rw [enter_eq_error_iff.2 hf] at h
  cases h

theorem enterAll_cons (s : Settings) (entry : Entry) (entries : List Entry) :
    s.enterAll (entry :: entries) = s.enter entry >>= fun t => t.enterAll entries :=
  List.foldlM_cons

/-- Entries fail with the fault of the first of them that has one. -/
theorem enterAll_eq_error_iff {s : Settings} {entries : List Entry} {fault : ConfigFault} :
    (s.enterAll entries).result = .error fault ↔ entries.findSome? Entry.fault? = some fault := by
  induction entries generalizing s with
  | nil => simp [enterAll]
  | cons entry entries ih =>
    rw [enterAll_cons, Logged.result_bind_eq_error, List.findSome?_cons]
    cases hs : (s.enter entry).result with
    | error first =>
      rw [enter_eq_error_iff.1 hs]
      simp
    | ok next =>
      rw [fault?_of_enter hs]
      simp [ih]

theorem findSome?_fault?_of_enterAll {s t : Settings} {entries : List Entry}
    (h : (s.enterAll entries).result = .ok t) : entries.findSome? Entry.fault? = none := by
  rw [Option.eq_none_iff_forall_ne_some]
  intro fault hf
  rw [enterAll_eq_error_iff.2 hf] at h
  cases h

end Settings

/-! ### What entries write -/

namespace Entry

/-- The field that an entry assigns, with the value. -/
def assignment? : Entry → Option (Field × Value)
  | .port text => some (.portText, .text text)
  | .setting key text =>
    if text = "" then none
    else (Binding.ofKey? key).bind fun binding =>
      (binding.coercion.read text).toOption.map (binding.field, ·)
  | _ => none

/-- The value that an entry gives a field, as the field keeps it. -/
def value? (field : Field) (entry : Entry) : Option Value :=
  (entry.assignment?.filter (·.1 == field)).map fun assigned => Settings.kept field assigned.2

def items : Field → Entry → List String
  | .endpoints, .endpoints items => items
  | .workerArguments, .workerArguments items => items
  | _, _ => []

theorem value?_of_assignment? {field : Field} {entry : Entry} {value : Value}
    (h : entry.assignment? = some (field, value)) :
    entry.value? field = some (Settings.kept field value) := by
  simp [value?, h]

theorem value?_of_ne {field other : Field} {entry : Entry} {value : Value}
    (h : entry.assignment? = some (other, value)) (hne : field ≠ other) :
    entry.value? field = none := by
  simp [value?, h, Ne.symm hne]

/-- A setting gives no value to a field without a key. -/
theorem value?_setting_of_keyless {field : Field} (h : field ∈ Field.keyless)
    (key text : String) : (Entry.setting key text).value? field = none := by
  by_cases ht : text = ""
  · simp [value?, assignment?, ht]
  · cases hk : Binding.ofKey? key with
    | none => simp [value?, assignment?, ht, hk]
    | some b =>
      have hne := Binding.field_ne (Binding.mem_of_ofKey? hk).1 h
      cases hr : b.coercion.read text <;>
        simp [value?, assignment?, ht, hk, hr, Except.toOption, Option.filter, hne]

end Entry

namespace Settings

theorem get_extend_of_ne (s : Settings) {field target : Field} (items : List String)
    (h : field ≠ target) : (s.extend target items).get field = s.get field := by
  cases target <;> cases field <;> first | rfl | exact absurd rfl h

/-- One entry assigns to a scalar field at most. -/
theorem get_enter {s t : Settings} {entry : Entry} {field : Field}
    (h : (s.enter entry).result = .ok t) (he : field ≠ .endpoints)
    (hw : field ≠ .workerArguments) :
    t.get field = (entry.value? field).getD (s.get field) := by
  cases entry with
  | endpoints items => cases h; exact get_extend_of_ne s items he
  | workerArguments items => cases h; exact get_extend_of_ne s items hw
  | misnamed name => cases h
  | port text =>
    cases h
    by_cases hf : field = .portText
    · subst hf
      rfl
    · rw [@Entry.value?_of_ne _ .portText (.port text) _ rfl hf]
      cases field <;> first | rfl | exact absurd rfl hf
  | setting key text =>
    simp only [enter] at h
    split at h
    · next ht =>
      cases h
      simp [Entry.value?, Entry.assignment?, ht]
    · next ht =>
      obtain ⟨binding, value, hk, hr, ha⟩ := bindKey_eq_ok_iff.1 h
      have hassigned : (Entry.setting key text).assignment? = some (binding.field, value) := by
        simp [Entry.assignment?, ht, hk, hr, Except.toOption]
      by_cases hf : field = binding.field
      · subst hf
        rw [Entry.value?_of_assignment? hassigned, get_assign_self ha]
        rfl
      · rw [Entry.value?_of_ne hassigned hf, get_assign_of_ne ha hf]
        rfl

/-- After a run of entries a scalar field has the last value that an entry gives it. -/
theorem get_enterAll {s t : Settings} {entries : List Entry} {field : Field}
    (h : (s.enterAll entries).result = .ok t) (he : field ≠ .endpoints)
    (hw : field ≠ .workerArguments) :
    t.get field = (entries.filterMap (Entry.value? field)).getLast?.getD (s.get field) := by
  induction entries generalizing s with
  | nil => cases h; rfl
  | cons entry entries ih =>
    rw [enterAll_cons, Logged.result_bind_eq_ok] at h
    obtain ⟨next, hnext, hrest⟩ := h
    rw [ih hrest, get_enter hnext he hw, List.filterMap_cons]
    cases entry.value? field with
    | none => rfl
    | some value => simp [List.getLast?_cons]

/-- One entry appends its items to a list. -/
theorem items_enter {s t : Settings} {entry : Entry} {field : Field} {items : List String}
    (hf : field = .endpoints ∨ field = .workerArguments) (h : (s.enter entry).result = .ok t)
    (hs : s.get field = .items items) : t.get field = .items (items ++ entry.items field) := by
  cases entry with
  | endpoints more =>
    cases h; rcases hf with rfl | rfl <;> cases hs <;> simp [get, extend, Entry.items]
  | workerArguments more =>
    cases h; rcases hf with rfl | rfl <;> cases hs <;> simp [get, extend, Entry.items]
  | misnamed name => cases h
  | port text => cases h; rcases hf with rfl | rfl <;> cases hs <;> simp [get, Entry.items]
  | setting key text =>
    have hnone : (Entry.setting key text).items field = [] := by rcases hf with rfl | rfl <;> rfl
    rw [hnone, List.append_nil]
    simp only [enter] at h
    split at h
    · cases h; exact hs
    · obtain ⟨binding, value, hk, -, ha⟩ := bindKey_eq_ok_iff.1 h
      have hkeyless : field ∈ Field.keyless := by rcases hf with rfl | rfl <;> decide
      have hne := Binding.field_ne (Binding.mem_of_ofKey? hk).1 hkeyless
      rw [get_assign_of_ne ha hne.symm, hs]

/-- After a run of entries a list has what it had, and then the items of all entries. -/
theorem items_enterAll {s t : Settings} {entries : List Entry} {field : Field}
    {items : List String} (hf : field = .endpoints ∨ field = .workerArguments)
    (h : (s.enterAll entries).result = .ok t) (hs : s.get field = .items items) :
    t.get field = .items (items ++ entries.flatMap (Entry.items field)) := by
  induction entries generalizing s items with
  | nil => cases h; simpa using hs
  | cons entry entries ih =>
    rw [enterAll_cons, Logged.result_bind_eq_ok] at h
    obtain ⟨next, hnext, hrest⟩ := h
    rw [ih hrest (items_enter hf hnext hs), List.flatMap_cons, List.append_assoc]

theorem IsNormal.enter {s t : Settings} {entry : Entry} (hs : s.IsNormal)
    (h : (s.enter entry).result = .ok t) : t.IsNormal := by
  cases entry with
  | endpoints items => cases h; exact hs.extend _ _
  | workerArguments items => cases h; exact hs.extend _ _
  | misnamed name => cases h
  | port text => cases h; exact hs.of_eq rfl rfl
  | setting key text =>
    simp only [Settings.enter] at h
    split at h
    · cases h; exact hs
    · obtain ⟨binding, value, -, -, ha⟩ := bindKey_eq_ok_iff.1 h
      exact hs.assign ha

theorem IsNormal.enterAll {s t : Settings} {entries : List Entry} (hs : s.IsNormal)
    (h : (s.enterAll entries).result = .ok t) : t.IsNormal := by
  induction entries generalizing s with
  | nil => cases h; exact hs
  | cons entry entries ih =>
    rw [enterAll_cons, Logged.result_bind_eq_ok] at h
    obtain ⟨next, hnext, hrest⟩ := h
    exact ih (hs.enter hnext) hrest

/-! ### The identity -/

def withIdentity (s : Settings) (instanceId : String) : Settings :=
  { s with instanceId := instanceId }

theorem assign_withIdentity (s : Settings) (instanceId : String) {field : Field} (value : Value)
    (h : field ≠ .instanceId) : (s.withIdentity instanceId).assign field value =
      (s.assign field value).map (·.withIdentity instanceId) := by
  cases field <;> cases value <;> first | rfl | exact absurd rfl h | skip
  simp only [assign]
  split <;> rfl

theorem bindKey_withIdentity (s : Settings) (instanceId key text : String) :
    (s.withIdentity instanceId).bindKey key text =
      (·.withIdentity instanceId) <$> s.bindKey key text :=
  bindKey_map (·.withIdentity instanceId)
    (fun _ hb value => assign_withIdentity s instanceId value (Binding.field_ne hb (by decide)))
    key text

theorem enter_withIdentity (s : Settings) (instanceId : String) (entry : Entry) :
    (s.withIdentity instanceId).enter entry =
      (·.withIdentity instanceId) <$> s.enter entry := by
  cases entry with
  | setting key text =>
    simp only [enter]
    split
    · rfl
    · exact bindKey_withIdentity s instanceId key text
  | endpoints items => rfl
  | workerArguments items => rfl
  | port text => rfl
  | misnamed name => rfl

theorem enterAll_withIdentity (s : Settings) (instanceId : String) (entries : List Entry) :
    (s.withIdentity instanceId).enterAll entries =
      (·.withIdentity instanceId) <$> s.enterAll entries := by
  induction entries generalizing s with
  | nil => rfl
  | cons entry entries ih =>
    rw [enterAll_cons, enterAll_cons, enter_withIdentity, bind_map_left, map_bind]
    exact bind_congr fun t => ih t

theorem reconcile_withIdentity (s : Settings) (instanceId : String) :
    (s.withIdentity instanceId).reconcile = (·.withIdentity instanceId) <$> s.reconcile := by
  obtain ⟨host, port, portText⟩ := s
  rcases host with _ | host
  · rfl
  · rcases portText with _ | text
    · rfl
    · simp only [reconcile, withIdentity]
      split
      · rfl
      · split <;> rfl

/-- A tree says the same to every instance. -/
theorem ofTree_withIdentity (first second : String) (root : Xml.Node) :
    ofTree second root = (·.withIdentity second) <$> ofTree first root := by
  unfold ofTree
  split
  · rfl
  · split
    · rw [map_bind, show defaults second = (defaults first).withIdentity second from rfl,
        enterAll_withIdentity, bind_map_left]
      exact bind_congr fun t => reconcile_withIdentity t second
    · rfl

end Settings

end LayeredConfig

import LayeredConfig.Proofs.Log
import LayeredConfig.Session

/-! Binding of single keys. A key that is no key of the table, or whose text its field does not
take, leaves everything as it was; any other writes the one field of the key and reports this. Which
of the two it is can be told from the key and the text alone, so that keys may be bound in any
order, and of several texts of one key the last counts. -/

namespace LayeredConfig

/-! ### The table -/

theorem Binding.ofKey?_eq_none_iff {key : String} :
    ofKey? key = none ↔ key ∉ bindings.map Binding.key := by
  simp [ofKey?]

theorem Binding.field_logLevel_iff {binding : Binding} (h : binding ∈ bindings) :
    binding.field = .logLevel ↔ binding.key = "logLevel" := by
  revert binding
  decide

theorem Binding.field_ne_configPath {binding : Binding} (h : binding ∈ bindings) :
    binding.field ≠ .configPath :=
  field_ne h (by decide)

theorem Binding.exists_refusal?_iff (binding : Binding) (text : String) :
    (∃ cause, binding.refusal? text = some cause) ↔
      binding.coercion = .integer ∧ Number.parse? text = none ∨
        binding.field = .logLevel ∧ text ∉ ["debug", "info"] := by
  rw [Number.parse?_eq_none_iff, refusal?]
  split
  · next h => simp [h]
  · next h => split <;> simp_all

namespace Settings

/-! ### Assignments -/

section Assignments

variable {s t u v w : Settings} {field other : Field} {value more : Value}

/-- Assignments to two fields leave the same in either order. -/
theorem assign_comm (hne : field ≠ other) (hfield : field ≠ .configPath)
    (hother : other ≠ .configPath) (ht : s.assign field value = .ok t)
    (hu : t.assign other more = .ok u) (hv : s.assign other more = .ok v)
    (hw : v.assign field value = .ok w) : u = w := by
  refine ext_get ?_ fun target => ?_
  · rw [configPath_assign_of_ne hu hother, configPath_assign_of_ne ht hfield,
      configPath_assign_of_ne hw hfield, configPath_assign_of_ne hv hother]
  · by_cases hf : target = field
    · subst hf
      rw [get_assign_of_ne hu hne, get_assign_self ht, get_assign_self hw]
    · by_cases ho : target = other
      · subst ho
        rw [get_assign_self hu, get_assign_of_ne hw hf, get_assign_self hv]
      · rw [get_assign_of_ne hu ho, get_assign_of_ne ht hf, get_assign_of_ne hw hf,
          get_assign_of_ne hv ho]

/-- A later assignment to a field hides an earlier one. -/
theorem assign_assign (hfield : field ≠ .configPath) (ht : s.assign field value = .ok t)
    (hu : t.assign field more = .ok u) (hv : s.assign field more = .ok v) : u = v := by
  refine ext_get ?_ fun target => ?_
  · rw [configPath_assign_of_ne hu hfield, configPath_assign_of_ne ht hfield,
      configPath_assign_of_ne hv hfield]
  · by_cases hf : target = field
    · subst hf
      rw [get_assign_self hu, get_assign_self hv]
    · rw [get_assign_of_ne hu hf, get_assign_of_ne ht hf, get_assign_of_ne hv hf]

end Assignments

/-! ### Keys -/

/-- Whether a key is bound is decided by the key and the text: it fails with one fault whatever the
settings are, or it assigns one value to one field of any settings. -/
theorem bindKey_cases (key text : String) :
    (∃ fault, ∀ s : Settings, s.bindKey key text = .fail fault) ∨
      ∃ binding ∈ bindings, binding.key = key ∧ ∃ value, binding.coercion.read text = .ok value ∧
        ∀ s : Settings, ∃ t, s.assign binding.field value = .ok t ∧
          s.bindKey key text = ⟨[.bound key binding.field value], .ok t⟩ := by
  cases hd : ((defaults "").bindKey key text).result with
  | error fault =>
    refine .inl ⟨fault, fun s => ?_⟩
    have hs : (s.bindKey key text).result = .error fault := bindKey_eq_error s hd
    exact Logged.ext (events_bindKey_of_error hs) hs
  | ok bound =>
    obtain ⟨binding, value, hk, hr, -⟩ := bindKey_eq_ok_iff.1 hd
    obtain ⟨hb, hkey⟩ := Binding.mem_of_ofKey? hk
    refine .inr ⟨binding, hb, hkey, value, hr, fun s => ?_⟩
    cases hs : (s.bindKey key text).result with
    | error fault => rw [bindKey_eq_error (defaults "") hs] at hd; cases hd
    | ok t =>
      obtain ⟨other, value', hk', hr', ha⟩ := bindKey_eq_ok_iff.1 hs
      obtain rfl : binding = other := Option.some.inj (hk.symm.trans hk')
      obtain rfl : value = value' := Except.ok.inj (hr.symm.trans hr')
      refine ⟨t, ha, Logged.ext ?_ hs⟩
      simp [bindKey, hk, hr, assignAs, ha, Except.mapError]

/-- The fault of a key that is not bound is that of the key, or else that of its text. -/
theorem bindKey_eq_error_iff {s : Settings} {key text : String} {fault : ConfigFault} :
    (s.bindKey key text).result = .error fault ↔
      match Binding.ofKey? key with
      | none => fault = .unknownKey key
      | some binding => ∃ cause, binding.refusal? text = some cause ∧
          fault = .badParameter key cause := by
  cases hk : Binding.ofKey? key with
  | none => simp [bindKey, hk, eq_comm]
  | some binding =>
    have hresult := s.bindKey_result text hk
    cases hc : binding.refusal? text with
    | none =>
      rw [hc] at hresult
      obtain ⟨t, ht⟩ := hresult
      simp [ht, hc]
    | some cause =>
      rw [hc] at hresult
      simp [hresult, hc, eq_comm]

theorem bindKey_eq_unknownKey_iff {s : Settings} {key text : String} :
    (s.bindKey key text).result = .error (.unknownKey key) ↔
      key ∉ bindings.map Binding.key := by
  rw [bindKey_eq_error_iff, ← Binding.ofKey?_eq_none_iff]
  cases Binding.ofKey? key <;> simp

theorem exists_bindKey_eq_badParameter_iff {s : Settings} {key text : String} :
    (∃ cause, (s.bindKey key text).result = .error (.badParameter key cause)) ↔
      ∃ binding ∈ bindings, binding.key = key ∧
        (binding.coercion = .integer ∧ Number.parse? text = none ∨
          key = "logLevel" ∧ text ∉ ["debug", "info"]) := by
  simp only [bindKey_eq_error_iff]
  cases hk : Binding.ofKey? key with
  | none =>
    have hnone := Binding.ofKey?_eq_none_iff.1 hk
    refine iff_of_false (by simp) ?_
    rintro ⟨binding, hb, hkey, -⟩
    exact hnone (List.mem_map.2 ⟨binding, hb, hkey⟩)
  | some binding =>
    obtain ⟨hb, rfl⟩ := Binding.mem_of_ofKey? hk
    have hrefusal := binding.exists_refusal?_iff text
    rw [Binding.field_logLevel_iff hb] at hrefusal
    simp only [ConfigFault.badParameter.injEq, true_and, exists_eq_right', hrefusal]
    constructor
    · exact fun h => ⟨binding, hb, rfl, h⟩
    · rintro ⟨other, ho, hkey, h⟩
      have hother := Binding.ofKey?_key ho
      rw [hkey, hk] at hother
      obtain rfl := Option.some.inj hother
      exact h

end Settings

/-! ### Sessions -/

namespace Session

variable {around : Surroundings} {session : Session} {key text : String}

theorem step_bind_of_fail {fault : ConfigFault}
    (h : session.draft.bindKey key text = .fail fault) :
    session.step around (.bind key text) = ⟨session, [], .error (.config fault)⟩ := by
  simp only [step, h]
  rfl

theorem step_bind_of_ok {events : List Event} {t : Settings}
    (h : session.draft.bindKey key text = ⟨events, .ok t⟩) :
    session.step around (.bind key text) =
      ⟨{ session with draft := t }, events, .ok .done⟩ := by
  simp only [step, h]
  rfl

/-- The step fails as the binding does, and with no other fault. -/
theorem step_bind_eq_error_iff {fault : SessionFault} :
    (session.step around (.bind key text)).outcome.result = .error fault ↔
      ∃ cause, fault = .config cause ∧
        (session.draft.bindKey key text).result = .error cause := by
  rcases hb : session.draft.bindKey key text with ⟨events, cause | t⟩
  · simp [step, replaceDraft, hb, eq_comm]
  · simp [step, replaceDraft, hb]

/-- Steps that bind two keys leave the same in either order, and neither of them answers other than
it does alone. -/
theorem step_bind_comm (around : Surroundings) (session : Session) {key other : String}
    (hne : key ≠ other) (text more : String) :
    let first := (session.step around (.bind key text)).session
    let second := (session.step around (.bind other more)).session
    (first.step around (.bind other more)).session =
        (second.step around (.bind key text)).session ∧
      (first.step around (.bind other more)).outcome =
        (session.step around (.bind other more)).outcome := by
  intro first second
  rcases Settings.bindKey_cases key text with ⟨fault, hfail⟩ | ⟨b, hb, hkey, value, -, hbind⟩
  · have hfirst : first = session := by
      simp only [first, step_bind_of_fail (hfail session.draft)]
    rw [hfirst, step_bind_of_fail (hfail second.draft)]
    exact ⟨rfl, rfl⟩
  · rcases Settings.bindKey_cases other more with
      ⟨fault, hfail'⟩ | ⟨b', hb', hkey', value', -, hbind'⟩
    · have hsecond : second = session := by
        simp only [second, step_bind_of_fail (hfail' session.draft)]
      rw [hsecond, step_bind_of_fail (hfail' first.draft), step_bind_of_fail (hfail' session.draft)]
      exact ⟨rfl, rfl⟩
    · obtain ⟨t, ht, hst⟩ := hbind session.draft
      obtain ⟨v, hv, hsv⟩ := hbind' session.draft
      have hfirst : first = { session with draft := t } := by
        simp only [first, step_bind_of_ok hst]
      have hsecond : second = { session with draft := v } := by
        simp only [second, step_bind_of_ok hsv]
      obtain ⟨u, hu, htu⟩ := hbind' t
      obtain ⟨w, hw, hvw⟩ := hbind v
      have hfield : b.field ≠ b'.field := fun he =>
        hne (by rw [← hkey, ← hkey', Binding.eq_of_field hb hb' he])
      have huw : u = w := Settings.assign_comm hfield (Binding.field_ne_configPath hb)
        (Binding.field_ne_configPath hb') ht hu hv hw
      rw [hfirst, hsecond, step_bind_of_ok htu, step_bind_of_ok hvw, step_bind_of_ok hsv, huw]
      exact ⟨rfl, rfl⟩

/-- A step that binds a key hides an earlier one that has bound it to another text. -/
theorem step_bind_bind (around : Surroundings) (session : Session) (key text more : String)
    {reply : Reply} (h : (session.step around (.bind key more)).outcome.result = .ok reply) :
    (session.step around (.bind key text)).session.step around (.bind key more) =
      session.step around (.bind key more) := by
  rcases Settings.bindKey_cases key text with ⟨fault, hfail⟩ | ⟨b, hb, hkey, value, -, hbind⟩
  · rw [step_bind_of_fail (hfail session.draft)]
  · rcases Settings.bindKey_cases key more with
      ⟨fault, hfail⟩ | ⟨b', hb', hkey', value', -, hbind'⟩
    · rw [step_bind_of_fail (hfail session.draft)] at h
      cases h
    · obtain rfl : b = b' := by
        have hk := Binding.ofKey?_key hb
        rw [hkey, ← hkey', Binding.ofKey?_key hb'] at hk
        exact (Option.some.inj hk).symm
      obtain ⟨t, ht, hst⟩ := hbind session.draft
      obtain ⟨u, hu, htu⟩ := hbind' t
      obtain ⟨v, hv, hsv⟩ := hbind' session.draft
      have huv : u = v :=
        Settings.assign_assign (Binding.field_ne_configPath hb) ht hu hv
      rw [step_bind_of_ok hst, step_bind_of_ok htu, step_bind_of_ok hsv, huv]

/-- A key is bound exactly, with one write or none. It is refused if it is none of the table, letter
for letter; its text is refused if it has to be a numeral and is none, untrimmed as it is, or if it
has to name a log level and does not. A refusal names the key, changes nothing and reports nothing.
Otherwise the field of the key has the value of the text, in the form in which it is kept, the other
fields are as they were, and one detail is reported. So keys can be bound in any order, and a later
text of a key hides an earlier one. -/
theorem step_bind (around : Surroundings) (session : Session) (key text : String) :
    let bound := session.step around (.bind key text)
    (bound.outcome.result = .error (.config (.unknownKey key)) ↔
      key ∉ bindings.map Binding.key) ∧
    ((∃ cause, bound.outcome.result = .error (.config (.badParameter key cause))) ↔
      ∃ binding ∈ bindings, binding.key = key ∧
        (binding.coercion = .integer ∧ Number.parse? text = none ∨
          key = "logLevel" ∧ text ∉ ["debug", "info"])) ∧
    (∀ fault, bound.outcome.result = .error fault →
      (fault = .config (.unknownKey key) ∨ ∃ cause, fault = .config (.badParameter key cause)) ∧
      bound.session = session ∧ bound.outcome.events = []) ∧
    (∀ reply, bound.outcome.result = .ok reply →
      ∃ binding ∈ bindings, binding.key = key ∧ ∃ value, binding.coercion.read text = .ok value ∧
        bound.session.config = session.config ∧
        bound.session.draft.get binding.field = Settings.kept binding.field value ∧
        (∀ field ≠ binding.field, bound.session.draft.get field = session.draft.get field) ∧
        bound.outcome.events = [.bound key binding.field value] ∧
        bound.outcome.events.map Event.severity = [.debug]) ∧
    (∀ other more, key ≠ other →
      let second := session.step around (.bind other more)
      (bound.session.step around (.bind other more)).session =
          (second.session.step around (.bind key text)).session ∧
        (bound.session.step around (.bind other more)).outcome = second.outcome) ∧
    ∀ more reply, (session.step around (.bind key more)).outcome.result = .ok reply →
      bound.session.step around (.bind key more) = session.step around (.bind key more) := by
  intro bound
  refine ⟨?_, ?_, fun fault hfault => ?_, fun reply hreply => ?_,
    fun other more hne => step_bind_comm around session hne text more,
    fun more reply hmore => step_bind_bind around session key text more hmore⟩
  · simp [bound, step_bind_eq_error_iff, Settings.bindKey_eq_unknownKey_iff]
  · simp [bound, step_bind_eq_error_iff, Settings.exists_bindKey_eq_badParameter_iff]
  · obtain ⟨cause, rfl, hcause⟩ := step_bind_eq_error_iff.1 hfault
    have hfail : session.draft.bindKey key text = .fail cause :=
      Logged.ext (Settings.events_bindKey_of_error hcause) hcause
    have hstep : bound = ⟨session, [], .error (.config cause)⟩ := step_bind_of_fail hfail
    refine ⟨?_, by rw [hstep], by rw [hstep]⟩
    rw [Settings.bindKey_eq_error_iff] at hcause
    split at hcause
    · exact .inl (congrArg _ hcause)
    · obtain ⟨refusal, -, rfl⟩ := hcause
      exact .inr ⟨refusal, rfl⟩
  · rcases Settings.bindKey_cases key text with ⟨fault, hfail⟩ | ⟨b, hb, hkey, value, hr, hbind⟩
    · have hstep : bound = ⟨session, [], .error (.config fault)⟩ :=
        step_bind_of_fail (hfail session.draft)
      rw [hstep] at hreply
      cases hreply
    · obtain ⟨t, ht, hst⟩ := hbind session.draft
      have hstep : bound = ⟨{ session with draft := t }, [.bound key b.field value], .ok .done⟩ :=
        step_bind_of_ok hst
      refine ⟨b, hb, hkey, value, hr, ?_⟩
      rw [hstep]
      exact ⟨rfl, Settings.get_assign_self ht, fun field hf => Settings.get_assign_of_ne ht hf, rfl,
        rfl⟩

/-- The settings of the command line, the lists and the port have no key, and neither has another
spelling of one. -/
example : ∀ key ∈ ["numRestarts", "forkedStatusFile", "port", "endpoints", "Host", "maxfiles"],
    key ∉ bindings.map Binding.key := by
  decide

end Session

end LayeredConfig

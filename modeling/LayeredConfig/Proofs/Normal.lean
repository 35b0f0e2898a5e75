import LayeredConfig.Proofs.Path
import LayeredConfig.Settings.Assignment

/-! Normal settings: those whose host and file have the form in which assignments keep them. Every
assignment leaves normal settings normal, and a configuration is built from normal settings without
a rejection and without a change, since each field takes its own value once more. -/

namespace LayeredConfig

open Storage (Path)

/-! ### Values and texts -/

theorem LogLevel.ofText?_text (level : LogLevel) : ofText? level.text = some level := by
  cases level <;> rfl

theorem LogLevel.text_injective {first second : LogLevel} (h : first.text = second.text) :
    first = second := by
  have := ofText?_text first
  rw [h, ofText?_text] at this
  exact (Option.some.inj this).symm

theorem LogLevel.ofText?_eq_none_iff {s : String} :
    ofText? s = none ↔ s ≠ "debug" ∧ s ≠ "info" := by
  unfold ofText?
  split
  · simp_all
  · split <;> simp_all

theorem Field.mem_all (field : Field) : field ∈ all := by
  cases field <;> decide

theorem Value.ofText?_injective {first second : Option String}
    (h : ofText? first = ofText? second) : first = second := by
  cases first <;> cases second <;> simp_all [ofText?]

namespace Settings

/-- Settings whose host and file have the form in which assignments keep them. -/
structure IsNormal (s : Settings) : Prop where
  host_ne : s.host ≠ some "*"
  path_clean : ∀ path, s.configPath = some path → path.IsClean

theorem isNormal_defaults (instanceId : String) : (defaults instanceId).IsNormal :=
  ⟨by simp [defaults, defaultHost], by simp [defaults]⟩

theorem normalizeHost_ne (host : String) : normalizeHost host ≠ "*" := by
  unfold normalizeHost
  split
  · decide
  · assumption

theorem normalizeHost_of_ne {host : String} (h : host ≠ "*") : normalizeHost host = host :=
  if_neg h

theorem kept_of_ne {field : Field} (hhost : field ≠ .host) (hpath : field ≠ .configPath)
    (value : Value) : kept field value = value := by
  unfold kept
  split
  · exact absurd rfl hhost
  · exact absurd rfl hpath
  · rfl

/-- Changes that leave the host and the file alone keep settings normal. -/
theorem IsNormal.of_eq {s t : Settings} (h : s.IsNormal) (hhost : t.host = s.host)
    (hpath : t.configPath = s.configPath) : t.IsNormal :=
  ⟨hhost ▸ h.host_ne, hpath ▸ h.path_clean⟩

theorem configPath_assign_of_ne {s t : Settings} {field : Field} {value : Value}
    (h : s.assign field value = .ok t) (hne : field ≠ .configPath) :
    t.configPath = s.configPath := by
  cases field <;> cases value <;> simp only [assign, reduceCtorEq, Except.ok.injEq] at h <;>
    first
    | (subst h; first | rfl | exact absurd rfl hne)
    | (split at h <;> simp only [reduceCtorEq, Except.ok.injEq] at h
       subst h; rfl)

theorem host_assign_of_ne {s t : Settings} {field : Field} {value : Value}
    (h : s.assign field value = .ok t) (hne : field ≠ .host) : t.host = s.host :=
  Value.ofText?_injective (get_assign_of_ne h hne.symm)

/-- An assignment gives the host no form but the normal one. -/
theorem host_ne_of_assign {s t : Settings} {value : Value} (h : s.assign .host value = .ok t) :
    t.host ≠ some "*" := by
  cases value <;> simp only [assign, reduceCtorEq, Except.ok.injEq] at h <;> subst h
  · simp
  · simpa using normalizeHost_ne _

theorem isClean_of_assign {s t : Settings} {value : Value}
    (h : s.assign .configPath value = .ok t) {path : Path} (hp : t.configPath = some path) :
    path.IsClean := by
  cases value <;> simp only [assign, reduceCtorEq, Except.ok.injEq] at h <;> subst h
  · cases hp
  · cases hp
    exact Path.isClean_ofText _

theorem IsNormal.assign {s t : Settings} {field : Field} {value : Value} (h : s.IsNormal)
    (ha : s.assign field value = .ok t) : t.IsNormal := by
  constructor
  · by_cases hf : field = .host
    · subst hf
      exact host_ne_of_assign ha
    · rw [host_assign_of_ne ha hf]
      exact h.host_ne
  · intro path hp
    by_cases hf : field = .configPath
    · subst hf
      exact isClean_of_assign ha hp
    · rw [configPath_assign_of_ne ha hf] at hp
      exact h.path_clean path hp

theorem IsNormal.assignAs {s t : Settings} {holder : Holder} {field : Field} {value : Value}
    (h : s.IsNormal) (ha : s.assignAs holder field value = .ok t) : t.IsNormal := by
  unfold Settings.assignAs at ha
  cases hs : s.assign field value with
  | error cause => rw [hs] at ha; cases ha
  | ok next => rw [hs] at ha; cases ha; exact h.assign hs

/-- Fields that are given one after another leave settings normal. -/
theorem IsNormal.foldlM_assignAs {holder : Holder} {fields : List (Field × Value)} {s t : Settings}
    (h : s.IsNormal)
    (hf : fields.foldlM (fun s entry => s.assignAs holder entry.1 entry.2) s = .ok t) :
    t.IsNormal := by
  induction fields generalizing s with
  | nil => cases hf; exact h
  | cons entry fields ih =>
    rw [List.foldlM_cons] at hf
    cases hs : s.assignAs holder entry.1 entry.2 with
    | error rejection => rw [hs] at hf; cases hf
    | ok next => rw [hs] at hf; exact ih (h.assignAs hs) hf

theorem isNormal_of_ofFields {holder : Holder} {instanceId : String}
    {fields : List (Field × Value)} {s : Settings}
    (h : ofFields holder instanceId fields = .ok s) : s.IsNormal :=
  (isNormal_defaults instanceId).foldlM_assignAs h

theorem IsNormal.extend {s : Settings} (h : s.IsNormal) (field : Field) (items : List String) :
    (s.extend field items).IsNormal := by
  unfold Settings.extend
  split
  · exact h.of_eq rfl rfl
  · exact h.of_eq rfl rfl
  · exact h

/-! ### Building -/

/-- Settings with one file agree if their fields do. -/
theorem ext_get {s t : Settings} (hpath : s.configPath = t.configPath)
    (h : ∀ field, s.get field = t.get field) : s = t := by
  have hlevel : s.logLevel = t.logLevel := Option.map_injective
    (fun _ _ => LogLevel.text_injective) (Value.ofText?_injective (h .logLevel))
  cases s
  cases t
  simp only [Settings.mk.injEq]
  exact ⟨Value.ofText?_injective (h .host), Value.integer.inj (h .port),
    Value.ofText?_injective (h .portText), Value.text.inj (h .instanceId),
    Value.integer.inj (h .taskTimeout), Value.integer.inj (h .taskPulse),
    Value.integer.inj (h .pingTimeout), Value.integer.inj (h .pingPulse),
    Value.integer.inj (h .startupTimeout), Value.integer.inj (h .maxRestarts),
    Value.integer.inj (h .maxFiles), Value.ofText?_injective (h .statusFile),
    Value.integer.inj (h .restartCount), Value.flag.inj (h .unsecureFeatures),
    Value.flag.inj (h .stackTraces), Value.flag.inj (h .noFork), Value.items.inj (h .endpoints),
    Value.items.inj (h .workerArguments), Value.text.inj (h .tempFileStem),
    Value.text.inj (h .digest), Value.integer.inj (h .digestMarkLimit),
    Value.text.inj (h .corsOrigin), hlevel, hpath⟩

/-- Normal settings agree if their fields do. -/
theorem IsNormal.eq_of_get {s t : Settings} (hs : s.IsNormal) (ht : t.IsNormal)
    (h : ∀ field, s.get field = t.get field) : s = t := by
  refine ext_get ?_ h
  have htext := Value.ofText?_injective (h .configPath)
  cases hsp : s.configPath with
  | none => rw [hsp] at htext; cases htp : t.configPath <;> simp_all
  | some p =>
    cases htp : t.configPath with
    | none => simp [hsp, htp] at htext
    | some q =>
      have hpq : p.text = q.text := by simpa [hsp, htp] using htext
      rw [← Path.ofText_text (hs.path_clean p hsp), ← Path.ofText_text (ht.path_clean q htp), hpq]

/-- The settings in the form in which assignments keep them. -/
def normalized (s : Settings) : Settings :=
  { s with
    host := s.host.map normalizeHost
    configPath := s.configPath.map fun path => .ofText path.text }

theorem isNormal_normalized (s : Settings) : s.normalized.IsNormal := by
  constructor
  · intro h
    obtain ⟨host, -, hhost⟩ := Option.map_eq_some_iff.1 h
    exact normalizeHost_ne host hhost
  · intro path h
    obtain ⟨given, -, rfl⟩ := Option.map_eq_some_iff.1 h
    exact Path.isClean_ofText _

/-- A field has the value that it keeps of its own one. -/
theorem get_normalized (s : Settings) (field : Field) :
    s.normalized.get field = kept field (s.get field) := by
  cases field <;> try rfl
  · cases hh : s.host <;> simp [normalized, get, hh, kept, Value.ofText?]
  · cases hp : s.configPath <;> simp [normalized, get, hp, kept, Value.ofText?]

theorem IsNormal.normalized_eq {s : Settings} (h : s.IsNormal) : s.normalized = s := by
  have hhost : s.host.map normalizeHost = s.host := by
    cases hh : s.host with
    | none => rfl
    | some host =>
      have hne : host ≠ "*" := fun e => h.host_ne (by rw [hh, e])
      rw [Option.map_some, normalizeHost_of_ne hne]
  have hpath : (s.configPath.map fun path => Path.ofText path.text) = s.configPath := by
    cases hp : s.configPath with
    | none => rfl
    | some path => rw [Option.map_some, Path.ofText_text (h.path_clean path hp)]
  rw [Settings.normalized, hhost, hpath]

/-- Every field takes a value that it has in some settings. -/
theorem exists_assign_get (s t : Settings) (field : Field) :
    ∃ u, s.assign field (t.get field) = .ok u := by
  cases field
  case host => cases hh : t.host <;> simp [get, hh, Value.ofText?, assign]
  case portText => cases hh : t.portText <;> simp [get, hh, Value.ofText?, assign]
  case statusFile => cases hh : t.statusFile <;> simp [get, hh, Value.ofText?, assign]
  case configPath => cases hh : t.configPath <;> simp [get, hh, Value.ofText?, assign]
  case logLevel =>
    cases hh : t.logLevel <;> simp [get, hh, Value.ofText?, assign, LogLevel.ofText?_text]
  all_goals exact ⟨_, rfl⟩

/-- Fields that are given the values they have in some settings keep these afterwards. -/
theorem exists_foldlM_get (t : Settings) (holder : Holder) (fields : List Field) (s : Settings) :
    ∃ u, (fields.map fun field => (field, t.get field)).foldlM
        (fun s entry => s.assignAs holder entry.1 entry.2) s = .ok u ∧
      ∀ field, field ∈ fields ∨ s.get field = kept field (t.get field) →
        u.get field = kept field (t.get field) := by
  induction fields generalizing s with
  | nil => exact ⟨s, rfl, by simp⟩
  | cons first fields ih =>
    obtain ⟨next, hnext⟩ := exists_assign_get s t first
    obtain ⟨u, hu, hget⟩ := ih next
    refine ⟨u, ?_, fun field hfield => hget field ?_⟩
    · have hfirst : s.assignAs holder first (t.get first) = .ok next := by
        rw [Settings.assignAs, hnext]
        rfl
      rw [List.map_cons, List.foldlM_cons, hfirst]
      exact hu
    · by_cases hf : field = first
      · subst hf
        exact .inr (get_assign_self hnext)
      · rw [get_assign_of_ne hnext hf]
        simpa [hf] using hfield

/-- A configuration is built from any settings, in the form in which assignments keep them. -/
theorem build_eq_normalized (s : Settings) : s.build = .ok ⟨s.normalized⟩ := by
  obtain ⟨u, hu, hget⟩ := exists_foldlM_get s .config Field.all (defaults s.instanceId)
  have hnormal : u.IsNormal := (isNormal_defaults _).foldlM_assignAs hu
  have heq : u = s.normalized := hnormal.eq_of_get s.isNormal_normalized fun field => by
    rw [hget field (.inl field.mem_all), get_normalized]
  rw [build, ofFields, dump, hu, heq]
  rfl

/-- A configuration is built from normal settings as they are. -/
theorem IsNormal.build_eq {s : Settings} (h : s.IsNormal) : s.build = .ok ⟨s⟩ := by
  rw [build_eq_normalized, h.normalized_eq]

end Settings

end LayeredConfig

import LayeredConfig.Proofs.Failures

/-! Documents with the same names. What a document says is told by the names of its elements and
their texts. Where two documents say the same as far as all names can be read, they are loaded with
the same result and the same events, unless a name that cannot be read ends the loading. -/

namespace LayeredConfig

open Xml (Node)

namespace Logged

variable {ε α β : Type}

theorem bind_congr_of_ok {first : Logged ε α} {next other : α → Logged ε β}
    (h : ∀ value, first.result = .ok value → next value = other value) :
    first >>= next = first >>= other := by
  rcases first with ⟨events, fault | value⟩
  · rfl
  · rw [bind_eq, bind_eq, andThen_ok, andThen_ok, h value rfl]

end Logged

/-- Whether a computation does not end at a name that cannot be read. -/
def Logged.IsReadable {α : Type} (computation : Logged ConfigFault α) : Prop :=
  ∀ name, computation.result ≠ .error (.invalidName name)

theorem Logged.IsReadable.of_bind {α β : Type} {first : Logged ConfigFault α}
    {next : α → Logged ConfigFault β} (h : (first >>= next).IsReadable) : first.IsReadable :=
  fun name hname => h name (Logged.result_bind_eq_error.2 (.inl hname))

theorem Logged.IsReadable.next {α β : Type} {first : Logged ConfigFault α}
    {next : α → Logged ConfigFault β} (h : (first >>= next).IsReadable) {value : α}
    (hvalue : first.result = .ok value) : (next value).IsReadable :=
  fun name hname => h name (Logged.result_bind_eq_error.2 (.inr ⟨value, hvalue, hname⟩))

namespace Entry

/-- Whether an entry leaves all settings as they are, without an event. -/
def IsIdle (entry : Entry) : Prop :=
  ∀ s : Settings, s.enter entry = pure s

theorem isIdle_setting (key : String) : (setting key "").IsIdle := by
  intro s
  rw [Settings.enter, if_pos rfl]

theorem isIdle_endpoints : (endpoints []).IsIdle := by
  intro s
  simp [Settings.enter, Settings.extend]

theorem isIdle_workerArguments : (workerArguments []).IsIdle := by
  intro s
  simp [Settings.enter, Settings.extend]

/-- Whether entries agree up to the first name that cannot be read in either of them. Entries that
are idle do not count. -/
inductive Agree : List Entry → List Entry → Prop
  | nil : Agree [] []
  | cons (entry : Entry) {first second : List Entry} :
    Agree first second → Agree (entry :: first) (entry :: second)
  | idle {entry : Entry} {first second : List Entry} :
    entry.IsIdle → Agree first second → Agree (entry :: first) second
  | misnamed (name : String) (first second : List Entry) : Agree (misnamed name :: first) second
  | otherMisnamed (name : String) (first second : List Entry) :
    Agree first (.misnamed name :: second)

namespace Agree

theorem refl (entries : List Entry) : Agree entries entries := by
  induction entries with
  | nil => exact .nil
  | cons entry entries ih => exact .cons entry ih

theorem append {first second first' second' : List Entry} (h : Agree first second)
    (h' : Agree first' second') : Agree (first ++ first') (second ++ second') := by
  induction h with
  | nil => exact h'
  | cons entry _ ih => exact .cons entry ih
  | idle hidle _ ih => exact .idle hidle ih
  | misnamed name first second => exact .misnamed name _ _
  | otherMisnamed name first second => exact .otherMisnamed name _ _

theorem flatMap {α : Type} {f g : α → List Entry} (h : ∀ x, Agree (f x) (g x)) (l : List α) :
    Agree (l.flatMap f) (l.flatMap g) := by
  induction l with
  | nil => exact .nil
  | cons x l ih => exact (h x).append ih

/-- Entries that agree do the same to settings, unless a name ends one of the runs. -/
theorem enterAll_eq {first second : List Entry} (h : Agree first second) {s : Settings}
    (hfirst : (s.enterAll first).IsReadable) (hsecond : (s.enterAll second).IsReadable) :
    s.enterAll first = s.enterAll second := by
  induction h generalizing s with
  | nil => rfl
  | cons entry _ ih =>
    rw [Settings.enterAll_cons] at hfirst hsecond ⊢
    rw [Settings.enterAll_cons]
    exact Logged.bind_congr_of_ok fun t ht => ih (hfirst.next ht) (hsecond.next ht)
  | idle hidle _ ih =>
    rw [Settings.enterAll_cons, hidle, pure_bind] at hfirst ⊢
    exact ih hfirst hsecond
  | misnamed name first second => exact absurd rfl (hfirst name)
  | otherMisnamed name first second => exact absurd rfl (hsecond name)

end Agree

end Entry

namespace Settings

open Entry (Agree)

theorem isReadable_enterAll {instanceId : String} {root : Node}
    (h : (ofTree instanceId root).IsReadable) (hm : Entry.misnamed? root = none)
    (hn : root.localName? = some "properties") :
    ((defaults instanceId).enterAll (Entry.ofRoot root)).IsReadable := by
  simp only [ofTree, hm, hn, if_true] at h
  exact h.of_bind

/-- The name of the root can be read unless it ends the load. -/
theorem misnamed?_eq_none {instanceId : String} {root : Node}
    (h : (ofTree instanceId root).IsReadable) : Entry.misnamed? root = none := by
  cases hm : Entry.misnamed? root with
  | none => rfl
  | some name => exact absurd (by simp [ofTree, hm]) (h name)

/-- Trees with the same name are loaded alike if their entries do the same, unless a name that
cannot be read ends one of the loads. -/
theorem ofTree_eq_of_enterAll {instanceId : String} {first second : Node}
    (hn : first.localName? = second.localName?)
    (h : ∀ s : Settings, (s.enterAll (Entry.ofRoot first)).IsReadable →
      (s.enterAll (Entry.ofRoot second)).IsReadable →
        s.enterAll (Entry.ofRoot first) = s.enterAll (Entry.ofRoot second))
    (hfirst : (ofTree instanceId first).IsReadable)
    (hsecond : (ofTree instanceId second).IsReadable) :
    ofTree instanceId first = ofTree instanceId second := by
  have hmf := misnamed?_eq_none hfirst
  have hms := misnamed?_eq_none hsecond
  by_cases hp : first.localName? = some "properties"
  · have heq := h _ (isReadable_enterAll hfirst hmf hp) (isReadable_enterAll hsecond hms (hn ▸ hp))
    simp only [ofTree, hmf, hms, hp, hn ▸ hp, heq]
  · simp only [ofTree, hmf, hms, ← hn, if_neg hp]

theorem isReadable_ofTree_iff {instanceId : String} (other : String) {root : Node} :
    (ofTree instanceId root).IsReadable ↔ (ofTree other root).IsReadable := by
  simp only [Logged.IsReadable, ne_eq, ofTree_eq_error_iff_treeFault?]

end Settings

end LayeredConfig

import LayeredConfig.Settings.Event

/-!
Computations that report events on their way to a result or a fault. What was reported before a
fault stays reported.
-/

namespace LayeredConfig

/-- The events of a computation, in order, and how it ended. -/
structure Logged (ε α : Type) where
  events : List Event
  result : Except ε α

namespace Logged

variable {ε α β : Type}

def report (event : Event) : Logged ε Unit :=
  ⟨[event], .ok ()⟩

def fail (fault : ε) : Logged ε α :=
  ⟨[], .error fault⟩

def ofExcept (result : Except ε α) : Logged ε α :=
  ⟨[], result⟩

/-- One computation after another: the events of both, or those of the first if it fails. -/
def andThen (first : Logged ε α) (next : α → Logged ε β) : Logged ε β :=
  match first.result with
  | .ok value => ⟨first.events ++ (next value).events, (next value).result⟩
  | .error fault => ⟨first.events, .error fault⟩

instance : Monad (Logged ε) where
  pure value := ⟨[], .ok value⟩
  bind := andThen

/-! ### Laws -/

@[ext] theorem ext {first second : Logged ε α} (he : first.events = second.events)
    (hr : first.result = second.result) : first = second := by
  cases first; cases second; simp_all

theorem pure_eq (value : α) : (pure value : Logged ε α) = ⟨[], .ok value⟩ := rfl

theorem bind_eq (first : Logged ε α) (next : α → Logged ε β) :
    first >>= next = first.andThen next := rfl

@[simp] theorem andThen_ok (events : List Event) (value : α) (next : α → Logged ε β) :
    andThen ⟨events, .ok value⟩ next = ⟨events ++ (next value).events, (next value).result⟩ := rfl

@[simp] theorem andThen_error (events : List Event) (fault : ε) (next : α → Logged ε β) :
    andThen ⟨events, .error fault⟩ next = ⟨events, .error fault⟩ := rfl

theorem id_map_eq (first : Logged ε α) : id <$> first = first := by
  rcases first with ⟨events, fault | value⟩ <;> simp [Functor.map, andThen]

theorem andThen_assoc {γ : Type} (first : Logged ε α) (next : α → Logged ε β)
    (last : β → Logged ε γ) :
    (first.andThen next).andThen last = first.andThen fun value => (next value).andThen last := by
  rcases first with ⟨events, fault | value⟩
  · rfl
  · rw [andThen_ok, andThen_ok]
    rcases next value with ⟨more, fault | result⟩ <;> simp

instance : LawfulMonad (Logged ε) :=
  LawfulMonad.mk' _ id_map_eq (fun _ _ => rfl) andThen_assoc

/-! ### Results -/

@[simp] theorem result_pure (value : α) : (pure value : Logged ε α).result = .ok value := rfl

@[simp] theorem result_fail (fault : ε) : (fail fault : Logged ε α).result = .error fault := rfl

@[simp] theorem result_report_bind (event : Event) (next : Unit → Logged ε α) :
    (report event >>= next).result = (next ()).result := rfl

theorem result_bind_eq_ok {first : Logged ε α} {next : α → Logged ε β} {value : β} :
    (first >>= next).result = .ok value ↔
      ∃ between, first.result = .ok between ∧ (next between).result = .ok value := by
  rcases first with ⟨events, fault | between⟩ <;> simp [bind_eq]

theorem result_bind_eq_error {first : Logged ε α} {next : α → Logged ε β} {fault : ε} :
    (first >>= next).result = .error fault ↔
      first.result = .error fault ∨
        ∃ between, first.result = .ok between ∧ (next between).result = .error fault := by
  rcases first with ⟨events, fault | between⟩ <;> simp [bind_eq]

/-! ### Events -/

@[simp] theorem events_pure (value : α) : (pure value : Logged ε α).events = [] := rfl

@[simp] theorem events_fail (fault : ε) : (fail fault : Logged ε α).events = [] := rfl

@[simp] theorem events_report_bind (event : Event) (next : Unit → Logged ε α) :
    (report event >>= next).events = event :: (next ()).events := rfl

theorem events_bind_of_ok {first : Logged ε α} {next : α → Logged ε β} {value : α}
    (h : first.result = .ok value) :
    (first >>= next).events = first.events ++ (next value).events := by
  obtain ⟨events, result⟩ := first
  cases h
  rfl

theorem events_bind_of_error {first : Logged ε α} {next : α → Logged ε β} {fault : ε}
    (h : first.result = .error fault) : (first >>= next).events = first.events := by
  obtain ⟨events, result⟩ := first
  cases h
  rfl

end Logged

end LayeredConfig

import LayeredConfig.Proofs.Log
import LayeredConfig.Proofs.Sessions

/-! Reconciliation is a projection. It touches nothing but the port, gives it the number of its text
where the text is a numeral, and does so again without a change. Whatever is assigned to other
fields in between, an earlier reconciliation makes no difference to a later one: neither to whether
it fails, which it does for want of a host only, nor to what it reports and leaves. -/

namespace LayeredConfig

namespace Settings

/-! ### Reconciled settings -/

/-- Whether settings are left, and events reported, as the text of the port tells. A numeral becomes
the port; any other text leaves the port as it was, and is reported unless it is blank. -/
structure IsReconciliation (s left : Settings) (events : List Event) : Prop where
  rest_eq : left = { s with port := left.port }
  port_eq : ∀ text n, s.portText = some text → Number.parse? text = some n → left.port = n
  port_kept : (∀ text, s.portText = some text →
    Text.trim text = "" ∨ Number.parse? text = none) → left.port = s.port
  reported : ∀ text, s.portText = some text → Text.trim text ≠ "" → Number.parse? text = none →
    events = [.portLeftAsText text]
  unreported : (∀ text, s.portText = some text →
    Text.trim text = "" ∨ Number.parse? text ≠ none) → events = []

theorem isReconciliation_reconciled (s : Settings) :
    s.IsReconciliation s.reconciled (keptPort s.portText) := by
  refine ⟨rfl, fun text n ht hn => ?_, fun h => ?_, fun text ht hblank hn => ?_, fun h => ?_⟩
  · simp [reconciled, ht, hn]
  · cases ht : s.portText with
    | none => simp [reconciled, ht]
    | some text =>
      have hn : Number.parse? text = none :=
        (h text ht).elim (fun he => Number.parse?_of_isBlankText (Text.isBlankText_iff.2 he)) id
      simp [reconciled, ht, hn]
  · rw [Ne, ← Text.isBlankText_iff, Bool.not_eq_true] at hblank
    simp [keptPort, ht, Option.filter, hblank, hn]
  · cases ht : s.portText with
    | none => rfl
    | some text =>
      rcases h text ht with hblank | hn
      · simp [keptPort, Option.filter, Text.isBlankText_iff.2 hblank]
      · simp [keptPort, Option.filter, hn]

theorem reconciled_reconciled (s : Settings) : s.reconciled.reconciled = s.reconciled := by
  unfold reconciled
  cases s.portText.bind Number.parse? <;> rfl

/-! ### Assignments to other fields -/

theorem assign_reconciled (s : Settings) {field : Field} (value : Value) (hport : field ≠ .port)
    (htext : field ≠ .portText) :
    s.reconciled.assign field value = (s.assign field value).map reconciled := by
  cases field <;> cases value <;>
    first | rfl | exact absurd rfl hport | exact absurd rfl htext | skip
  simp only [assign]
  split <;> rfl

theorem bindKey_reconciled (s : Settings) (key text : String) :
    s.reconciled.bindKey key text = reconciled <$> s.bindKey key text :=
  bindKey_map reconciled (fun _ hb value => s.assign_reconciled value
    (Binding.field_ne hb (by decide)) (Binding.field_ne hb (by decide))) key text

theorem extend_reconciled (s : Settings) (field : Field) (items : List String) :
    s.reconciled.extend field items = (s.extend field items).reconciled := by
  cases field <;> rfl

end Settings

/-! ### Sessions -/

/-- Whether an operation assigns to a field that is neither the port nor its text: by the name of
the field, by a key, or by items that are appended to it. -/
def Operation.SparesPort : Operation → Prop
  | .set field _ => field ≠ .port ∧ field ≠ .portText
  | .bind .. | .extend .. => True
  | _ => False

namespace Session

/-- The session whose settings have the port that their port text asks for. -/
def settled (session : Session) : Session :=
  { session with draft := session.draft.reconciled }

theorem settled_settled (session : Session) : session.settled.settled = session.settled := by
  simp only [settled, Settings.reconciled_reconciled]

/-! ### Validation -/

theorem step_validate_of_none (around : Surroundings) {session : Session}
    (h : session.draft.host = none) :
    session.step around .validate = ⟨session, [], .error (.config .missingHost)⟩ := by
  simp only [step, Settings.reconcile, h]
  rfl

theorem step_validate_of_host (around : Surroundings) {session : Session}
    (h : session.draft.host ≠ none) :
    session.step around .validate =
      ⟨session.settled, keptPort session.draft.portText, .ok .done⟩ := by
  simp only [step, Settings.reconcile_of_host h]
  rfl

/-- What is settled is validated with the same outcome, and leaves the same unless it fails. -/
theorem step_validate_settled (around : Surroundings) (session : Session) :
    (session.settled.step around .validate).outcome = (session.step around .validate).outcome ∧
      ∀ reply, (session.step around .validate).outcome.result = .ok reply →
        (session.settled.step around .validate).session =
          (session.step around .validate).session := by
  by_cases h : session.draft.host = none
  · have hsettled : session.settled.draft.host = none := h
    rw [step_validate_of_none around h, step_validate_of_none around hsettled]
    exact ⟨rfl, fun reply hreply => by cases hreply⟩
  · have hsettled : session.settled.draft.host ≠ none := h
    rw [step_validate_of_host around h, step_validate_of_host around hsettled, settled_settled]
    exact ⟨rfl, fun _ _ => rfl⟩

/-! ### Assignments after a validation -/

/-- Before an assignment to another field or after it, settling a session leaves the same. -/
theorem step_settled (around : Surroundings) (session : Session) {operation : Operation}
    (h : operation.SparesPort) :
    (session.settled.step around operation).session =
      (session.step around operation).session.settled := by
  cases operation with
  | bind key text =>
    simp only [step, settled, Settings.bindKey_reconciled]
    rcases session.draft.bindKey key text with ⟨events, fault | t⟩ <;> rfl
  | set field value =>
    simp only [step, settled, Settings.assignAs, session.draft.assign_reconciled value h.1 h.2]
    cases session.draft.assign field value <;> rfl
  | extend field items =>
    simp only [step, settled, Settings.extend_reconciled]
  | _ => exact h.elim

theorem run_settled (session : Session) {steps : List (Surroundings × Operation)}
    (h : ∀ step ∈ steps, step.2.SparesPort) :
    session.settled.run steps = (session.run steps).settled := by
  induction steps generalizing session with
  | nil => rfl
  | cons step steps ih =>
    rw [List.forall_mem_cons] at h
    calc session.settled.run (step :: steps)
        = (session.settled.step step.1 step.2).session.run steps := rfl
      _ = (session.step step.1 step.2).session.settled.run steps := by
        rw [step_settled step.1 session h.1]
      _ = ((session.step step.1 step.2).session.run steps).settled := ih _ h.2

/-- Whatever a session has come to, validation fails exactly for want of a host, and then leaves all
as it was. Otherwise it leaves what the text of the port tells. Repeated, it ends and leaves the
same. An additional validation ahead of assignments to other fields than the port and its text,
whether it fails or not, changes neither the outcome of the validation after them nor, if that
succeeds, what it leaves. -/
theorem step_validate (around : Surroundings) (session : Session) :
    let validated := session.step around .validate
    (validated.outcome.result = .error (.config .missingHost) ↔ session.draft.host = none) ∧
    (session.draft.host = none → validated.session = session ∧ validated.outcome.events = []) ∧
    (session.draft.host ≠ none → validated.outcome.result = .ok .done ∧
      validated.session.config = session.config ∧
      session.draft.IsReconciliation validated.session.draft validated.outcome.events) ∧
    (∀ later, validated.session.step later .validate = validated) ∧
    ∀ (steps : List (Surroundings × Operation)) (later : Surroundings),
      (∀ step ∈ steps, step.2.SparesPort) →
      let once := (session.run steps).step later .validate
      let twice := (validated.session.run steps).step later .validate
      twice.outcome = once.outcome ∧
        ∀ reply, once.outcome.result = .ok reply → twice.session = once.session := by
  intro validated
  by_cases h : session.draft.host = none
  · have hvalidated : validated = ⟨session, [], .error (.config .missingHost)⟩ :=
      step_validate_of_none around h
    -- Nothing has changed, so that the additional validation is none.
    rw [hvalidated]
    exact ⟨iff_of_true rfl h, fun _ => ⟨rfl, rfl⟩, fun hhost => absurd h hhost,
      fun later => step_validate_of_none later h, fun _ _ _ => ⟨rfl, fun _ _ => rfl⟩⟩
  · have hvalidated : validated =
        ⟨session.settled, keptPort session.draft.portText, .ok .done⟩ :=
      step_validate_of_host around h
    have hsettled : session.settled.draft.host ≠ none := h
    -- It has settled the session, which could as well be done after the assignments.
    rw [hvalidated]
    refine ⟨iff_of_false nofun h, fun hnone => absurd hnone h,
      fun _ => ⟨rfl, rfl, session.draft.isReconciliation_reconciled⟩, fun later => ?_,
      fun steps later hsteps => ?_⟩
    · rw [step_validate_of_host later hsettled, settled_settled]
      rfl
    · simp only [run_settled session hsteps]
      exact step_validate_settled later (session.run steps)

/-- Settings that have lost their host, validated in vain before they get one again and once more
after that: the numeral becomes the port all the same. -/
theorem step_validate_before_host :
    let around : Surroundings := ⟨fun _ => .error .notFound, ⟨.root, []⟩, "w"⟩
    let draft := { Settings.defaults "w" with host := none, portText := some "+8080" }
    let session : Session := ⟨draft, none⟩
    let steps : List (Surroundings × Operation) :=
      [(around, .set .host (.text "*")), (around, .bind "logLevel" "warn")]
    let validated := session.step around .validate
    let twice := (validated.session.run steps).step around .validate
    validated.outcome.result = .error (.config .missingHost) ∧
      (∀ step ∈ steps, step.2.SparesPort) ∧ twice.outcome.result = .ok .done ∧
      twice.session.draft = { draft with host := some "0.0.0.0", port := 8080 } := by
  intro around draft session steps validated twice
  obtain ⟨hfails, -, -, -, hagain⟩ := step_validate around session
  have hsteps : ∀ step ∈ steps, step.2.SparesPort := by simp [steps, Operation.SparesPort]
  have hhost : (session.run steps).draft.host ≠ none := by decide +kernel
  have honce := step_validate_of_host around hhost
  obtain ⟨houtcome, hsession⟩ := hagain steps around hsteps
  rw [honce] at houtcome hsession
  refine ⟨hfails.2 rfl, hsteps, congrArg Logged.result houtcome, ?_⟩
  rw [hsession .done rfl]
  decide +kernel

end Session

end LayeredConfig

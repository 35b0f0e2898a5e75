import LayeredConfig.Proofs.Failures
import LayeredConfig.Proofs.Writing

/-! Documents for given settings. A document states settings by one element for each, in any order
and with blanks between them; what a document can state is every value of a key, every text of the
port and every list of texts. Such a document is loaded into the settings that it states. -/

namespace LayeredConfig

open Xml

/-! ### What is stated -/

/-- What one element of a server section states. -/
inductive Statement where
  | setting (binding : Binding) (value : Value)
  | port (text : String)
  | endpoints (items : List String)
  | workerArguments (items : List String)

def Value.spelled : Value → String
  | .text content => content
  | .integer number => Number.render number
  | .flag true => "true"
  | .flag false => "false"
  | .absent | .items _ => ""

/-- Whether a text is trimmed and has only characters that a document may have. -/
structure IsPlain (text : String) : Prop where
  trimmed : Text.trimChars text.toList = text.toList
  legal : ∀ c ∈ text.toList, isLegal c = true

instance (text : String) : Decidable (IsPlain text) :=
  decidable_of_iff (Text.trimChars text.toList = text.toList ∧ text.toList.all isLegal = true)
    ⟨fun h => ⟨h.1, List.all_eq_true.1 h.2⟩, fun h => ⟨h.1, List.all_eq_true.2 h.2⟩⟩

namespace Statement

def name : Statement → String
  | .setting binding _ => binding.key
  | .port _ => "port"
  | .endpoints _ => "endpoints"
  | .workerArguments _ => "forkedJVMArgs"

def field : Statement → Field
  | .setting binding _ => binding.field
  | .port _ => .portText
  | .endpoints _ => .endpoints
  | .workerArguments _ => .workerArguments

def value : Statement → Value
  | .setting _ value => value
  | .port text => .text text
  | .endpoints items | .workerArguments items => .items items

/-- What can be stated: of a key a text that is not blank, an integer that is not too long or a
flag, and any texts of the port and of items. Of the hosts the wildcard and of the levels what is
none cannot be stated. -/
inductive IsExpressible : Statement → Prop
  | text {binding : Binding} {content : String} : binding ∈ bindings → binding.coercion = .text →
    IsPlain content → content ≠ "" → (binding.field = .host → content ≠ "*") →
      (binding.field = .logLevel → content = "debug" ∨ content = "info") →
        IsExpressible (.setting binding (.text content))
  | integer {binding : Binding} {number : Int} : binding ∈ bindings → binding.coercion = .integer →
    Number.IsPrintable number → IsExpressible (.setting binding (.integer number))
  | flag {binding : Binding} (on : Bool) : binding ∈ bindings → binding.coercion = .flag →
    IsExpressible (.setting binding (.flag on))
  | port {text : String} : IsPlain text → IsExpressible (.port text)
  | endpoints {items : List String} : (∀ item ∈ items, IsPlain item) →
    IsExpressible (.endpoints items)
  | workerArguments {items : List String} : (∀ item ∈ items, IsPlain item) →
    IsExpressible (.workerArguments items)

/-- Whether characters write the content of the element. -/
def Writes : Statement → List Char → Prop
  | .setting _ value => WritesText value.spelled.toList
  | .port text => WritesText text.toList
  | .endpoints items => WritesRow (fun _ => "endpoint") (fun item => WritesText item.toList) items
  | .workerArguments items => WritesRow (fun _ => "arg") (fun item => WritesText item.toList) items

/-- Whether characters write a document with one server section, which has one element for each
statement, in their order. -/
def WritesDocument (statements : List Statement) : List Char → Prop :=
  WritesRow (fun _ => "properties") (WritesRow (fun _ => "server") (WritesRow name Writes))
    [[statements]]

end Statement

/-- Whether settings are those that statements make of the built-in ones of an instance. -/
structure Settings.AreStated (s : Settings) (instanceId : String) (statements : List Statement) :
    Prop where
  /-- Each field that is stated has the value that is stated. -/
  stated : ∀ statement ∈ statements, s.get statement.field = statement.value
  /-- The other fields are built in. -/
  unstated : ∀ field ≠ .port, (∀ statement ∈ statements, statement.field ≠ field) →
    s.get field = (Settings.defaults instanceId).get field
  /-- The port is what its text denotes, if that is a numeral. -/
  port : s.port = (s.portText.bind Number.parse?).getD Settings.defaultPort

/-! ### Texts of values -/

theorem Number.mem_render {n : Int} {c : Char} (h : c ∈ (render n).toList) :
    c = '-' ∨ isDigit c = true := by
  have hdigit : ∀ c ∈ Nat.toDigits 10 n.natAbs, isDigit c = true := fun c => isDigit_of_mem_toDigits
  by_cases hn : n < 0
  · simp only [render, hn, if_true, String.toList_ofList] at h
    exact (List.mem_cons.1 h).imp_right (hdigit c)
  · simp only [render, hn, if_false, String.toList_ofList] at h
    exact .inr (hdigit c h)

theorem isPlain_render (n : Int) : IsPlain (Number.render n) := by
  have hlegal : ∀ c, Number.isDigit c = true → isLegal c = true := by
    intro c hc
    have hrange : 48 ≤ c.toNat ∧ c.toNat ≤ 57 := by simpa [Number.isDigit] using hc
    simp only [isLegal, inRanges, List.any_cons, Bool.or_eq_true, Bool.and_eq_true,
      decide_eq_true_eq]
    omega
  constructor
  · refine Text.trimChars_of_not_isBlank fun c hc => ?_
    rcases Number.mem_render hc with rfl | hd
    · decide
    · exact Number.isBlank_of_isDigit hd
  · intro c hc
    rcases Number.mem_render hc with rfl | hd
    · decide
    · exact hlegal c hd

namespace Statement.IsExpressible

theorem mem_bindings {binding : Binding} {value : Value}
    (h : (Statement.setting binding value).IsExpressible) : binding ∈ bindings := by
  cases h <;> assumption

/-- The text of a value is plain, and is read as the value. -/
theorem read_spelled {binding : Binding} {value : Value}
    (h : (Statement.setting binding value).IsExpressible) :
    IsPlain value.spelled ∧ value.spelled ≠ "" ∧
      binding.coercion.read value.spelled = .ok value := by
  cases h with
  | text _ hc hplain hne _ _ =>
    rw [hc]
    exact ⟨hplain, hne, rfl⟩
  | @integer _ n _ hc hn =>
    have hparse := Number.parse?_eq_some_iff.1 (Number.parse?_render hn)
    refine ⟨isPlain_render n, fun hempty => ?_, ?_⟩
    · rw [Value.spelled] at hempty
      rw [hempty] at hparse
      cases hparse
    · rw [hc, Coercion.read, Value.spelled, hparse]
      rfl
  | flag on _ hc =>
    have hread : Number.parseFlag (Value.flag on).spelled = on := by
      cases on <;> decide +kernel
    rw [hc, Coercion.read, hread]
    cases on
    · exact ⟨by decide, by decide, rfl⟩
    · exact ⟨by decide, by decide, rfl⟩

theorem spelled_mem {binding : Binding} {value : Value}
    (h : (Statement.setting binding value).IsExpressible) (hl : binding.field = .logLevel) :
    value.spelled ∈ ["debug", "info"] := by
  have htext : ∀ b ∈ bindings, b.field = .logLevel → b.coercion = .text := by decide
  have hcoercion := htext binding h.mem_bindings hl
  cases h with
  | text _ _ _ _ _ hlevel => simpa [Value.spelled] using hlevel hl
  | integer _ hc => simp [hc] at hcoercion
  | flag _ _ hc => simp [hc] at hcoercion

/-- The field keeps the value as it is. -/
theorem kept_eq {binding : Binding} {value : Value}
    (h : (Statement.setting binding value).IsExpressible) :
    Settings.kept binding.field value = value := by
  by_cases hf : binding.field = .host
  · cases h with
    | text _ _ _ _ hhost _ => simp [hf, Settings.kept, Settings.normalizeHost_of_ne (hhost hf)]
    | integer => simp [Settings.kept]
    | flag => simp [Settings.kept]
  · exact Settings.kept_of_ne hf (Binding.field_ne h.mem_bindings (by decide)) value

end Statement.IsExpressible

/-! ### Elements of statements -/

namespace Statement

/-- Whether nodes are the content of the element. -/
def Shows : Statement → List Node → Prop
  | .setting _ value => ShowsText value.spelled.toList
  | .port text => ShowsText text.toList
  | .endpoints items => ShowsRow (fun _ => "endpoint") (fun item => ShowsText item.toList) items
  | .workerArguments items => ShowsRow (fun _ => "arg") (fun item => ShowsText item.toList) items

/-- The entry that the element makes. -/
def entry : Statement → Entry
  | .setting binding value => .setting binding.key value.spelled
  | .port text => .port text
  | .endpoints items => .endpoints items
  | .workerArguments items => .workerArguments items

theorem Writes.drop {statement : Statement} {content left : List Char}
    (h : statement.Writes content) (hd : DropsReturns content left) : statement.Writes left := by
  cases statement with
  | setting => exact WritesText.drop h hd
  | port => exact WritesText.drop h hd
  | endpoints => exact WritesRow.drop (fun _ _ => by decide) (fun _ _ _ _ => .drop) h hd
  | workerArguments => exact WritesRow.drop (fun _ _ => by decide) (fun _ _ _ _ => .drop) h hd

theorem Shows.dropRemarks_eq {statement : Statement} {nodes : List Node}
    (h : statement.Shows nodes) : Node.dropRemarks nodes = nodes := by
  cases statement with
  | setting => exact ShowsText.dropRemarks_eq h
  | port => exact ShowsText.dropRemarks_eq h
  | endpoints => exact ShowsRow.dropRemarks_eq (fun _ _ _ => ShowsText.dropRemarks_eq) h
  | workerArguments => exact ShowsRow.dropRemarks_eq (fun _ _ _ => ShowsText.dropRemarks_eq) h

theorem readsAs_plain {text : String} {content : List Char} (hplain : IsPlain text)
    (h : WritesText text.toList content) : Reader.ReadsAs (ShowsText text.toList) 0 content :=
  Reader.readsAs_text h hplain.legal hplain.trimmed

theorem readsAs_items {item : String} {items : List String} {content : List Char}
    (hname : Reader.IsTagName item) (hplain : ∀ text ∈ items, IsPlain text)
    (h : WritesRow (fun _ => item) (fun text => WritesText text.toList) items content) :
    Reader.ReadsAs (ShowsRow (fun _ => item) (fun text => ShowsText text.toList) items) 1 content :=
  Reader.readsAs_row (fun _ _ => hname) (fun text ht _ => readsAs_plain (hplain text ht)) h

theorem Writes.readsAs {statement : Statement} {content : List Char}
    (he : statement.IsExpressible) (h : statement.Writes content) :
    Reader.ReadsAs statement.Shows 1 content := by
  cases statement with
  | setting binding value => exact (readsAs_plain he.read_spelled.1 h).mono (by decide)
  | port text =>
    cases he with
    | port hplain => exact (readsAs_plain hplain h).mono (by decide)
  | endpoints items =>
    cases he with
    | endpoints hplain => exact readsAs_items (by decide) hplain h
  | workerArguments items =>
    cases he with
    | workerArguments hplain => exact readsAs_items (by decide) hplain h

theorem IsExpressible.isTagName {statement : Statement} (h : statement.IsExpressible) :
    Reader.IsTagName statement.name := by
  cases statement with
  | setting binding value =>
    have hall : ∀ b ∈ bindings, Reader.IsTagName b.key := by decide
    exact hall binding h.mem_bindings
  | port text => exact (by decide : Reader.IsTagName "port")
  | endpoints items => exact (by decide : Reader.IsTagName "endpoints")
  | workerArguments items => exact (by decide : Reader.IsTagName "forkedJVMArgs")

/-! ### Entries of statements -/

theorem misnamed?_of_isTagName {name : String} (h : Reader.IsTagName name)
    (attributes : List Attribute) (children : List Node) :
    Entry.misnamed? (.element ⟨none, name⟩ none attributes children) = none := by
  have hplain : (name.toList.any fun c => c == ':' || c == '}') = false := by
    rw [List.any_eq_false]
    intro c hc
    have hpart := h.isNamePart c hc
    rw [Bool.or_eq_true, beq_iff_eq, beq_iff_eq, not_or]
    constructor <;> rintro rfl <;> revert hpart <;> decide
  rw [Entry.misnamed?, Node.universalName?, Option.filter_some, hplain]
  rfl

theorem textOf_of_showsText {text : String} {name : String} {content : List Node}
    (h : ShowsText text.toList content) :
    Entry.textOf (.element ⟨none, name⟩ none [] content) = text := by
  rw [Entry.textOf, Node.textInside, h.2, String.ofList_toList]

theorem ofItems_of_showsRow (entry : List String → Entry) (list : String) {item : String}
    {items : List String} {content : List Node} (hname : Reader.IsTagName item)
    (h : ShowsRow (fun _ => item) (fun text => ShowsText text.toList) items content) :
    Entry.ofItems entry item (.element ⟨none, list⟩ none [] content) = entry items := by
  have hnamed : content.findSome? Entry.misnamed? = none := by
    refine List.findSome?_eq_none_iff.2 (h.forall_mem (fun _ => rfl) ?_)
    rintro _ _ _ ⟨_⟩
    exact misnamed?_of_isTagName hname _ _
  have htexts : (content.filter fun child => child.localName? == some item).map Entry.textOf =
      items := by
    rw [← List.filterMap_eq_map, List.filterMap_filter]
    refine (h.filterMap_eq (g := id) (fun _ => rfl) ?_).trans items.map_id
    rintro text _ _ ⟨hcontent⟩
    simp [Node.localName?, textOf_of_showsText hcontent]
  simp only [Entry.ofItems, Node.children, hnamed, htexts]

/-- The element of a statement makes the entry of the statement. -/
theorem ofNode?_of_shows {statement : Statement} {node : Node} (he : statement.IsExpressible)
    (h : ShowsElement statement.name statement.Shows node) :
    Entry.ofNode? node = some statement.entry := by
  obtain ⟨hcontent⟩ := h
  have hnamed := misnamed?_of_isTagName he.isTagName []
  cases statement with
  | setting binding value =>
    have hkey := Entry.key_not_mem_unbindable he.mem_bindings
    simp only [Entry.unbindable, List.mem_cons, List.not_mem_nil, or_false, not_or] at hkey
    simp only [name] at hnamed
    simp only [Entry.ofNode?, name, hnamed, Node.localName?, entry, hkey, if_false,
      textOf_of_showsText hcontent]
  | port text =>
    simp only [name] at hnamed
    simp [Entry.ofNode?, hnamed, Node.localName?, name, entry, textOf_of_showsText hcontent]
  | endpoints items =>
    have hitems := ofItems_of_showsRow .endpoints "endpoints"
      (by decide : Reader.IsTagName "endpoint") hcontent
    simp only [name] at hnamed
    simp [Entry.ofNode?, hnamed, Node.localName?, name, entry, hitems]
  | workerArguments items =>
    have hitems := ofItems_of_showsRow .workerArguments "forkedJVMArgs"
      (by decide : Reader.IsTagName "arg") hcontent
    simp only [name] at hnamed
    simp [Entry.ofNode?, hnamed, Node.localName?, name, entry, hitems]

/-- A document makes the entries of its statements, in their order. -/
theorem ofRoot_of_shows {statements : List Statement} {root : Node}
    (he : ∀ statement ∈ statements, statement.IsExpressible)
    (h : ShowsElement "properties" (ShowsRow (fun _ => "server") (ShowsRow name Shows) [statements])
      root) : Entry.misnamed? root = none ∧ root.localName? = some "properties" ∧
        Entry.ofRoot root = statements.map entry := by
  obtain ⟨hcontent⟩ := h
  refine ⟨misnamed?_of_isTagName (by decide) _ _, rfl, ?_⟩
  rw [Entry.ofRoot, Node.children]
  refine (hcontent.flatMap_eq (g := fun statements => statements.map entry) (fun _ => rfl)
    ?_).trans (by simp)
  intro server hserver node hnode
  obtain rfl := List.mem_singleton.1 hserver
  obtain ⟨hrow⟩ := hnode
  rw [Entry.ofSection, misnamed?_of_isTagName (by decide)]
  simp only [Node.localName?, Node.children, if_true]
  exact hrow.filterMap_eq (fun _ => rfl) fun statement hs node => ofNode?_of_shows (he statement hs)

/-- The octets of a document of statements are read as a tree of the statements. -/
theorem exists_readGuarded {statements : List Statement} {document : String}
    (he : ∀ statement ∈ statements, statement.IsExpressible)
    (h : WritesDocument statements document.toList) :
    ∃ root, readGuarded (octetsOf document) = .ok root ∧ ShowsElement "properties"
      (ShowsRow (fun _ => "server") (ShowsRow name Shows) [statements]) root := by
  have hserver : ∀ content, WritesRow name Writes statements content →
      Reader.ReadsAs (ShowsRow name Shows statements) 2 content :=
    fun content => Reader.readsAs_row (fun statement hs => (he statement hs).isTagName)
      fun statement hs _ => Writes.readsAs (he statement hs)
  have hdrop : ∀ content left, WritesRow name Writes statements content →
      DropsReturns content left → WritesRow name Writes statements left :=
    fun _ _ => WritesRow.drop (fun statement hs => (he statement hs).isTagName)
      fun _ _ _ _ => Writes.drop
  exact Xml.exists_readGuarded (ShowsRow (fun _ => "server") (ShowsRow name Shows)) 3 rfl
    (fun _ _ => WritesRow.drop (fun _ _ => by decide) (by simpa using hdrop))
    (fun _ => Reader.readsAs_row (fun _ _ => by decide) (by simpa using hserver))
    (by decide)
    (fun _ => ShowsRow.dropRemarks_eq fun _ _ _ => ShowsRow.dropRemarks_eq fun _ _ _ =>
      Shows.dropRemarks_eq)
    h

/-- Whatever is stated can be written, since every text can. -/
theorem exists_writesDocument (statements : List Statement) :
    ∃ document : String, WritesDocument statements document.toList := by
  have hstatement : ∀ statement : Statement, ∃ content, statement.Writes content := by
    intro statement
    cases statement with
    | setting binding value => exact exists_writesText _
    | port text => exact exists_writesText _
    | endpoints items => exact exists_writesRow _ (fun _ => exists_writesText _) items
    | workerArguments items => exact exists_writesRow _ (fun _ => exists_writesText _) items
  obtain ⟨cs, hcs⟩ := exists_writesRow (fun _ => "properties")
    (exists_writesRow (fun _ => "server") (exists_writesRow name hstatement))
    [[statements]]
  exact ⟨String.ofList cs, by rwa [String.toList_ofList]⟩

/-! ### Values after the entries -/

variable {statement other : Statement} {field : Field}

theorem IsExpressible.fault?_entry (h : statement.IsExpressible) :
    statement.entry.fault? = none := by
  cases statement with
  | port text => rfl
  | endpoints items => rfl
  | workerArguments items => rfl
  | setting binding value =>
    obtain ⟨-, hne, hread⟩ := h.read_spelled
    have hnumeral : ¬(binding.coercion = .integer ∧ ¬ Number.IsNumeral value.spelled) := by
      intro hc
      rw [Coercion.read_eq_error_iff.2 ⟨hc, rfl⟩] at hread
      cases hread
    have hlevel : ¬(binding.field = .logLevel ∧ value.spelled ∉ ["debug", "info"]) :=
      fun hl => hl.2 (h.spelled_mem hl.1)
    have hrefusal : binding.refusal? value.spelled = none := by
      rw [Binding.refusal?, if_neg hnumeral, if_neg hlevel]
    rw [entry, Entry.fault?_setting hne, Binding.ofKey?_key h.mem_bindings]
    simp [hrefusal]

/-- A scalar field has the value that is stated. -/
theorem IsExpressible.value?_entry (h : statement.IsExpressible) (he : statement.field ≠ .endpoints)
    (hw : statement.field ≠ .workerArguments) :
    statement.entry.value? statement.field = some statement.value := by
  cases statement with
  | port text => rfl
  | endpoints items => exact absurd rfl he
  | workerArguments items => exact absurd rfl hw
  | setting binding value =>
    obtain ⟨-, hne, hread⟩ := h.read_spelled
    rw [entry, field, Entry.value?_setting h.mem_bindings, if_pos ⟨rfl, hne⟩, Entry.valueUnder,
      hread]
    simp [Except.toOption, h.kept_eq, Statement.value]

theorem IsExpressible.value?_entry_of_ne (h : statement.IsExpressible)
    (hne : statement.field ≠ field) : statement.entry.value? field = none := by
  cases statement with
  | port text => exact Entry.value?_of_ne rfl hne.symm
  | endpoints items => rfl
  | workerArguments items => rfl
  | setting binding value =>
    obtain ⟨-, htext, hread⟩ := h.read_spelled
    have hassigned : (setting binding value).entry.assignment? = some (binding.field, value) := by
      simp [entry, Entry.assignment?, htext, Binding.ofKey?_key h.mem_bindings, hread,
        Except.toOption]
    exact Entry.value?_of_ne hassigned hne.symm

theorem items_entry_of_ne (hne : statement.field ≠ field) : statement.entry.items field = [] := by
  cases statement <;> cases field <;> first | rfl | exact absurd rfl hne

/-- Where no field is stated twice, the statements before and after one are of other fields. -/
theorem exists_split {statements : List Statement}
    (hdistinct : (statements.map Statement.field).Nodup) (h : statement ∈ statements) :
    ∃ before after, statements = before ++ statement :: after ∧
      ∀ other ∈ before ++ after, other.field ≠ statement.field := by
  obtain ⟨before, after, rfl⟩ := List.append_of_mem h
  refine ⟨before, after, rfl, fun other hother heq => ?_⟩
  have hperm : ((before ++ statement :: after).map Statement.field).Perm
      ((statement :: (before ++ after)).map Statement.field) := List.perm_middle.map _
  have hnodup := hperm.nodup_iff.1 hdistinct
  rw [List.map_cons, List.nodup_cons] at hnodup
  exact hnodup.1 (heq ▸ List.mem_map_of_mem hother)

theorem value_eq_items (h : statement.field = .endpoints ∨ statement.field = .workerArguments)
    (he : statement.IsExpressible) :
    statement.value = .items (statement.entry.items statement.field) := by
  cases statement with
  | endpoints items => rfl
  | workerArguments items => rfl
  | port text => rcases h with h | h <;> cases h
  | setting binding value =>
    have hends : binding.field ≠ .endpoints := Binding.field_ne he.mem_bindings (by decide)
    have hwork : binding.field ≠ .workerArguments := Binding.field_ne he.mem_bindings (by decide)
    exact absurd h (not_or.2 ⟨hends, hwork⟩)

end Statement

namespace Settings

section Stated
variable {s t : Settings} {statements : List Statement}
  (he : ∀ statement ∈ statements, statement.IsExpressible)
  (h : (s.enterAll (statements.map Statement.entry)).result = .ok t)
include he

theorem filterMap_value?_of_ne {field : Field} (hne : ∀ other ∈ statements, other.field ≠ field) :
    (statements.map Statement.entry).filterMap (Entry.value? field) = [] := by
  rw [List.filterMap_map, List.filterMap_eq_nil_iff]
  exact fun other ho => (he other ho).value?_entry_of_ne (hne other ho)

omit he in
theorem flatMap_items_of_ne {field : Field} (hne : ∀ other ∈ statements, other.field ≠ field) :
    (statements.map Statement.entry).flatMap (Entry.items field) = [] := by
  rw [List.flatMap_map, List.flatMap_eq_nil_iff]
  exact fun other ho => Statement.items_entry_of_ne (hne other ho)

include h

/-- A field that is stated once has the value that is stated, if the lists were empty. -/
theorem get_stated (hdistinct : (statements.map Statement.field).Nodup) {statement : Statement}
    (hs : statement ∈ statements)
    (hempty : ∀ field, field = .endpoints ∨ field = .workerArguments → s.get field = .items []) :
    t.get statement.field = statement.value := by
  have hstatement := he statement hs
  obtain ⟨before, after, rfl, hother⟩ := Statement.exists_split hdistinct hs
  have hbefore : ∀ other ∈ before, other.field ≠ statement.field :=
    fun other ho => hother other (List.mem_append_left _ ho)
  have hafter : ∀ other ∈ after, other.field ≠ statement.field :=
    fun other ho => hother other (List.mem_append_right _ ho)
  by_cases hf : statement.field = .endpoints ∨ statement.field = .workerArguments
  · rw [items_enterAll hf h (hempty _ hf), List.map_append, List.map_cons, List.flatMap_append,
      List.flatMap_cons, flatMap_items_of_ne hbefore, flatMap_items_of_ne hafter,
      Statement.value_eq_items hf hstatement]
    simp
  · obtain ⟨hends, hwork⟩ := not_or.1 hf
    have hbefore' := filterMap_value?_of_ne (fun other ho => he other (by simp [ho])) hbefore
    have hafter' := filterMap_value?_of_ne (fun other ho => he other (by simp [ho])) hafter
    rw [get_enterAll h hends hwork, List.map_append, List.map_cons, List.filterMap_append,
      List.filterMap_cons, hstatement.value?_entry hends hwork, hbefore', hafter']
    rfl

/-- A field that is not stated stays as it is. -/
theorem get_unstated {field : Field} (hne : ∀ statement ∈ statements, statement.field ≠ field)
    (hempty : ∀ field, field = .endpoints ∨ field = .workerArguments → s.get field = .items []) :
    t.get field = s.get field := by
  by_cases hf : field = .endpoints ∨ field = .workerArguments
  · rw [items_enterAll hf h (hempty _ hf), flatMap_items_of_ne hne, hempty _ hf, List.append_nil]
  · obtain ⟨hends, hwork⟩ := not_or.1 hf
    rw [get_enterAll h hends hwork, filterMap_value?_of_ne he hne]
    rfl

omit h in
theorem exists_enterAll_stated (s : Settings) :
    ∃ t, (s.enterAll (statements.map Statement.entry)).result = .ok t := by
  cases hr : (s.enterAll (statements.map Statement.entry)).result with
  | ok t => exact ⟨t, rfl⟩
  | error fault =>
    have hfault := enterAll_eq_error_iff.1 hr
    rw [List.findSome?_map] at hfault
    obtain ⟨statement, hs, hentry⟩ := List.exists_of_findSome?_eq_some hfault
    rw [Function.comp_apply, (he statement hs).fault?_entry] at hentry
    cases hentry

end Stated

/-! ### Documents of statements -/

/-- A tree that makes the entries of statements is loaded into what they state. -/
theorem exists_ofTree_stated {statements : List Statement} {root : Node} (instanceId : String)
    (he : ∀ statement ∈ statements, statement.IsExpressible)
    (hdistinct : (statements.map Statement.field).Nodup)
    (hroot : Entry.misnamed? root = none ∧ root.localName? = some "properties" ∧
      Entry.ofRoot root = statements.map Statement.entry) :
    ∃ s, (ofTree instanceId root).result = .ok s ∧ s.AreStated instanceId statements := by
  obtain ⟨hnamed, hname, hentries⟩ := hroot
  obtain ⟨t, ht⟩ := exists_enterAll_stated he (defaults instanceId)
  have hempty : ∀ field, field = .endpoints ∨ field = .workerArguments →
      (defaults instanceId).get field = .items [] := by
    rintro field (rfl | rfl) <;> rfl
  have hportless : ∀ statement ∈ statements, statement.field ≠ .port := by
    intro statement hs
    cases statement with
    | setting binding value => exact Binding.field_ne (he _ hs).mem_bindings (by decide)
    | port text => simp [Statement.field]
    | endpoints items => simp [Statement.field]
    | workerArguments items => simp [Statement.field]
  refine ⟨t.reconciled, ofTree_eq_ok_iff.2 ⟨hnamed, hname, t, by rw [hentries]; exact ht, rfl⟩, ?_⟩
  refine ⟨fun statement hs => ?_, fun field hf hne => ?_, ?_⟩
  · rw [get_reconciled t (hportless statement hs)]
    exact get_stated he ht hdistinct hs hempty
  · rw [get_reconciled t hf]
    exact get_unstated he ht hne hempty
  · have hport : t.port = defaultPort :=
      Value.integer.inj (get_unstated he ht hportless hempty)
    rw [reconciled, hport]

/-- The statements of a host with a character of markup, of an empty item and of a port. -/
def someStatements : List Statement :=
  [.setting ⟨"host", .host, .text⟩ (.text "a<b"), .endpoints [""], .port "0123"]

def someDocument : String :=
  "<properties>\r\n<server><host> a&lt;b</host>\t<endpoints><endpoint/></endpoints>" ++
    "<port>0&#x31;23</port></server></properties>\n"

end Settings

end LayeredConfig

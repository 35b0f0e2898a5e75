import LayeredConfig.Proofs.Entries

/-! The elements of a file and its entries. In a document whose entries have no fault every element
of a server section says what its local name and its text are, and the values that the entries give
a field are the texts of the elements with the key of that field. -/

namespace LayeredConfig

open Xml (Node)

namespace Entry

/-- The elements inside the server sections of a root, in the order of the document. -/
def elements (root : Node) : List Node :=
  (root.children.filter (·.localName? == some "server")).flatMap fun server =>
    server.children.filter (·.localName?.isSome)

/-- The texts of the nodes that have a local name, in order. -/
def textsNamed (name : String) (nodes : List Node) : List String :=
  (nodes.filter (·.localName? == some name)).map textOf

/-- The last text under a key that is not blank. -/
def lastText? (key : String) (nodes : List Node) : Option String :=
  ((textsNamed key nodes).filter (· != "")).getLast?

/-- The items of all lists of a name, in order. -/
def itemsNamed (list item : String) (nodes : List Node) : List String :=
  (nodes.filter (·.localName? == some list)).flatMap fun node => textsNamed item node.children

/-! ### Names -/

theorem misnamed?_of_localName? {node : Node} (h : node.localName? = none) :
    misnamed? node = none := by
  cases node <;> first | rfl | cases h

theorem ofNode?_of_localName? {node : Node} (h : node.localName? = none) : ofNode? node = none := by
  rw [ofNode?, misnamed?_of_localName? h, h]

theorem ofNode?_of_misnamed? {node : Node} {name : String} (h : misnamed? node = some name) :
    ofNode? node = some (.misnamed name) := by
  rw [ofNode?, h]

theorem ofSection_of_misnamed? {node : Node} {name : String} (h : misnamed? node = some name) :
    ofSection node = [.misnamed name] := by
  rw [ofSection, h]

/-- Sections whose names are names say what their elements say. -/
theorem flatMap_ofSection {nodes : List Node} (h : ∀ node ∈ nodes, misnamed? node = none) :
    nodes.flatMap ofSection =
      ((nodes.filter (·.localName? == some "server")).flatMap fun server =>
        server.children.filter (·.localName?.isSome)).filterMap ofNode? := by
  induction nodes with
  | nil => rfl
  | cons node nodes ih =>
    have hnode : ofSection node =
        if node.localName? = some "server" then node.children.filterMap ofNode? else [] := by
      rw [ofSection, h node (by simp)]
    rw [List.flatMap_cons, hnode, ih fun other hm => h other (List.mem_cons_of_mem _ hm)]
    by_cases hs : node.localName? = some "server"
    · have hchildren : node.children.filterMap ofNode? =
          (node.children.filter (·.localName?.isSome)).filterMap ofNode? := by
        rw [List.filterMap_filter]
        refine List.filterMap_congr fun x _ => ?_
        cases hx : x.localName? with
        | none => simp [ofNode?_of_localName? hx]
        | some name => simp
      simp [hs, hchildren, List.filterMap_append]
    · simp [hs]

section Faultless
variable {root : Node} (h : (ofRoot root).findSome? fault? = none)
include h

theorem fault?_of_mem {entry : Entry} (hm : entry ∈ ofRoot root) : entry.fault? = none :=
  List.findSome?_eq_none_iff.1 h entry hm

theorem misnamed?_of_mem_children {node : Node} (hm : node ∈ root.children) :
    misnamed? node = none := by
  cases hn : misnamed? node with
  | none => rfl
  | some name =>
    have hmem : Entry.misnamed name ∈ ofRoot root := by
      refine List.mem_flatMap.2 ⟨node, hm, ?_⟩
      rw [ofSection_of_misnamed? hn]
      exact List.mem_singleton_self _
    cases fault?_of_mem h hmem

theorem ofRoot_eq_filterMap : ofRoot root = (elements root).filterMap ofNode? :=
  flatMap_ofSection fun _ hm => misnamed?_of_mem_children h hm

theorem misnamed?_of_mem_elements {x : Node} (hx : x ∈ elements root) : misnamed? x = none := by
  cases hn : misnamed? x with
  | none => rfl
  | some name =>
    have hmem : Entry.misnamed name ∈ ofRoot root := by
      rw [ofRoot_eq_filterMap h]
      exact List.mem_filterMap.2 ⟨x, hx, ofNode?_of_misnamed? hn⟩
    cases fault?_of_mem h hmem

end Faultless

def unbindable : List String := ["endpoints", "forkedJVMArgs", "port"]

theorem key_not_mem_unbindable {binding : Binding} (h : binding ∈ bindings) :
    binding.key ∉ unbindable := by
  have hall : ∀ b ∈ bindings, b.key ∉ unbindable := by decide
  exact hall binding h

/-- What a node says that is not misnamed. -/
theorem ofNode?_cases {x : Node} (hm : misnamed? x = none) :
    (x.localName? = none ∧ ofNode? x = none) ∨
    (x.localName? = some "endpoints" ∧ ofNode? x = some (ofItems .endpoints "endpoint" x)) ∨
    (x.localName? = some "forkedJVMArgs" ∧ ofNode? x = some (ofItems .workerArguments "arg" x)) ∨
    (x.localName? = some "port" ∧ ofNode? x = some (.port (textOf x))) ∨
    ∃ key, x.localName? = some key ∧ key ∉ unbindable ∧
      ofNode? x = some (.setting key (textOf x)) := by
  cases hn : x.localName? with
  | none => exact .inl ⟨rfl, ofNode?_of_localName? hn⟩
  | some key =>
    by_cases he : key = "endpoints"
    · subst he
      exact .inr (.inl ⟨rfl, by simp [ofNode?, hm, hn]⟩)
    by_cases hw : key = "forkedJVMArgs"
    · subst hw
      exact .inr (.inr (.inl ⟨rfl, by simp [ofNode?, hm, hn]⟩))
    by_cases hp : key = "port"
    · subst hp
      exact .inr (.inr (.inr (.inl ⟨rfl, by simp [ofNode?, hm, hn]⟩)))
    · exact .inr (.inr (.inr (.inr ⟨key, rfl, by simp [unbindable, he, hw, hp],
        by simp [ofNode?, hm, hn, he, hw, hp]⟩)))

/-! ### Values -/

theorem value?_ofItems (entry : List String → Entry) (field : Field) (name : String) (node : Node)
    (h : ∀ items, (entry items).assignment? = none) :
    (ofItems entry name node).value? field = none := by
  unfold ofItems
  split
  · rfl
  · simp [value?, h]

def valueUnder (binding : Binding) (text : String) : Option Value :=
  (binding.coercion.read text).toOption.map (Settings.kept binding.field)

theorem value?_setting {binding : Binding} (hb : binding ∈ bindings) (key text : String) :
    (Entry.setting key text).value? binding.field =
      if key = binding.key ∧ text ≠ "" then valueUnder binding text else none := by
  by_cases ht : text = ""
  · simp [value?, assignment?, ht]
  · by_cases hk : key = binding.key
    · subst hk
      cases hr : binding.coercion.read text <;>
        simp [value?, assignment?, ht, Binding.ofKey?_key hb, hr, valueUnder, Except.toOption,
          Option.filter]
    · have hother : ∀ other, Binding.ofKey? key = some other → other.field ≠ binding.field := by
        intro other ho he
        obtain ⟨hmem, rfl⟩ := Binding.mem_of_ofKey? ho
        exact hk (congrArg Binding.key (Binding.eq_of_field hmem hb he))
      cases ho : Binding.ofKey? key with
      | none => simp [value?, assignment?, ht, hk, ho]
      | some other =>
        cases hr : other.coercion.read text <;>
          simp [value?, assignment?, ht, hk, ho, hr, Except.toOption, Option.filter,
            hother other ho]

/-- An element gives the field of a binding a value if it has the key and a text. -/
theorem value?_ofNode? {binding : Binding} (hb : binding ∈ bindings) {x : Node}
    (hm : misnamed? x = none) :
    (ofNode? x).bind (value? binding.field) =
      if x.localName? = some binding.key ∧ textOf x ≠ "" then valueUnder binding (textOf x)
      else none := by
  have hk := key_not_mem_unbindable hb
  have hport : binding.field ≠ .portText := Binding.field_ne hb (by decide)
  simp only [unbindable, List.mem_cons, List.not_mem_nil, or_false, not_or] at hk
  rcases ofNode?_cases hm with ⟨hn, hx⟩ | ⟨hn, hx⟩ | ⟨hn, hx⟩ | ⟨hn, hx⟩ | ⟨key, hn, -, hx⟩
  · simp [hn, hx]
  · simp [hn, hx, Ne.symm hk.1, value?_ofItems .endpoints binding.field "endpoint" x fun _ => rfl]
  · simp [hn, hx, Ne.symm hk.2.1,
      value?_ofItems .workerArguments binding.field "arg" x fun _ => rfl]
  · rw [hx, Option.bind_some, value?_of_ne rfl hport]
    simp [hn, Ne.symm hk.2.2]
  · rw [hx, Option.bind_some, value?_setting hb]
    simp [hn]

/-- A list without a fault has all texts of its items. -/
theorem ofItems_eq {entry : List String → Entry} {item : String} {x : Node}
    (h : (ofItems entry item x).fault? = none) :
    ofItems entry item x = entry (textsNamed item x.children) := by
  unfold ofItems at h ⊢
  cases hm : x.children.findSome? misnamed? with
  | none => rfl
  | some name =>
    rw [hm] at h
    cases h

/-- A bound key with a text that is taken has a value. -/
theorem exists_read_of_fault? {binding : Binding} (hb : binding ∈ bindings) {text : String}
    (ht : text ≠ "") (h : (Entry.setting binding.key text).fault? = none) :
    ∃ value, binding.coercion.read text = .ok value := by
  cases hr : ((Settings.defaults "").enter (.setting binding.key text)).result with
  | error fault => rw [Settings.enter_eq_error_iff.1 hr] at h; cases h
  | ok t =>
    rw [Settings.enter, if_neg ht, Settings.bindKey_eq_ok_iff] at hr
    obtain ⟨other, value, ho, hread, -⟩ := hr
    rw [Binding.ofKey?_key hb] at ho
    cases ho
    exact ⟨value, hread⟩

section Faultless
variable {root : Node} (h : (ofRoot root).findSome? fault? = none)
include h

theorem fault?_of_mem_elements {x : Node} (hx : x ∈ elements root) {entry : Entry}
    (he : ofNode? x = some entry) : entry.fault? = none :=
  fault?_of_mem h (by rw [ofRoot_eq_filterMap h]; exact List.mem_filterMap.2 ⟨x, hx, he⟩)

/-- The entries give the field of a binding the values of the texts under its key. -/
theorem filterMap_value? {binding : Binding} (hb : binding ∈ bindings) :
    (ofRoot root).filterMap (value? binding.field) =
      ((textsNamed binding.key (elements root)).filter (· != "")).filterMap
        (valueUnder binding) := by
  rw [ofRoot_eq_filterMap h, List.filterMap_filterMap, List.filterMap_filter, textsNamed,
    List.filterMap_map, List.filterMap_filter]
  refine List.filterMap_congr fun x hx => ?_
  rw [value?_ofNode? hb (misnamed?_of_mem_elements h hx)]
  by_cases hn : x.localName? = some binding.key <;> simp [hn]

theorem filterMap_value?_portText :
    (ofRoot root).filterMap (value? .portText) =
      (textsNamed "port" (elements root)).map .text := by
  rw [ofRoot_eq_filterMap h, List.filterMap_filterMap, textsNamed, List.map_map,
    ← List.filterMap_eq_map, List.filterMap_filter]
  refine List.filterMap_congr fun x hx => ?_
  rcases ofNode?_cases (misnamed?_of_mem_elements h hx) with
    ⟨hn, hx⟩ | ⟨hn, hx⟩ | ⟨hn, hx⟩ | ⟨hn, hx⟩ | ⟨key, hn, hk, hx⟩
  · simp [hn, hx]
  · simp [hn, hx, value?_ofItems .endpoints .portText "endpoint" x fun _ => rfl]
  · simp [hn, hx, value?_ofItems .workerArguments .portText "arg" x fun _ => rfl]
  · rw [hx, Option.bind_some, value?_of_assignment? rfl]
    simp [hn, Settings.kept]
  · have hp : key ≠ "port" := fun e => hk (by simp [unbindable, e])
    rw [hx, Option.bind_some, value?_setting_of_keyless (by decide)]
    simp [hn, hp]

theorem filterMap_value?_of_unwritten {field : Field} (hf : field ∈ Field.unwritten) :
    (ofRoot root).filterMap (value? field) = [] := by
  rw [List.filterMap_eq_nil_iff]
  intro entry hm
  cases entry with
  | setting key text => exact value?_setting_of_keyless (List.mem_append_left _ hf) key text
  | port text =>
    refine value?_of_ne rfl ?_
    rintro rfl
    exact absurd hf (by decide)
  | misnamed name => cases fault?_of_mem h hm
  | endpoints items => rfl
  | workerArguments items => rfl

/-- A list gets the items of all elements that have its name. -/
theorem flatMap_items {field : Field} {list item : String}
    (hl : (field, list, item) = (.endpoints, "endpoints", "endpoint") ∨
      (field, list, item) = (.workerArguments, "forkedJVMArgs", "arg")) :
    (ofRoot root).flatMap (items field) = itemsNamed list item (elements root) := by
  have hmem : ∀ x ∈ elements root, misnamed? x = none ∧
      ∀ entry, ofNode? x = some entry → entry.fault? = none := fun x hx =>
    ⟨misnamed?_of_mem_elements h hx, fun _ he => fault?_of_mem_elements h hx he⟩
  rw [ofRoot_eq_filterMap h]
  generalize elements root = nodes at hmem
  induction nodes with
  | nil => rfl
  | cons x nodes ih =>
    obtain ⟨hm, hf⟩ := hmem x (by simp)
    have hrest := ih fun y hy => hmem y (List.mem_cons_of_mem _ hy)
    rcases ofNode?_cases hm with ⟨hn, hx⟩ | ⟨hn, hx⟩ | ⟨hn, hx⟩ | ⟨hn, hx⟩ | ⟨key, hn, hk, hx⟩
    · simpa [itemsNamed, hn, hx] using hrest
    · have hitems := ofItems_eq (hf _ hx)
      rcases hl with hl | hl <;> cases hl <;> simpa [itemsNamed, hn, hx, hitems, items] using hrest
    · have hitems := ofItems_eq (hf _ hx)
      rcases hl with hl | hl <;> cases hl <;> simpa [itemsNamed, hn, hx, hitems, items] using hrest
    · rcases hl with hl | hl <;> cases hl <;> simpa [itemsNamed, hn, hx, items] using hrest
    · simp only [unbindable, List.mem_cons, List.not_mem_nil, or_false, not_or] at hk
      rcases hl with hl | hl <;> cases hl <;>
        simpa [itemsNamed, hn, hx, items, hk.1, hk.2.1] using hrest

/-- Every text under a key that is not blank has a value. -/
theorem exists_read {binding : Binding} (hb : binding ∈ bindings) {text : String}
    (ht : text ∈ (textsNamed binding.key (elements root)).filter (· != "")) :
    ∃ value, binding.coercion.read text = .ok value := by
  obtain ⟨hmem, hne⟩ := List.mem_filter.1 ht
  obtain ⟨x, hx, rfl⟩ := List.mem_map.1 hmem
  obtain ⟨hx, hkey⟩ := List.mem_filter.1 hx
  have hn : x.localName? = some binding.key := by simpa using hkey
  have hk := key_not_mem_unbindable hb
  rcases ofNode?_cases (misnamed?_of_mem_elements h hx) with
    ⟨hn', -⟩ | ⟨hn', -⟩ | ⟨hn', -⟩ | ⟨hn', -⟩ | ⟨key, hn', -, he⟩
  · simp [hn] at hn'
  · exact absurd (by simp [unbindable, Option.some.inj (hn.symm.trans hn')]) hk
  · exact absurd (by simp [unbindable, Option.some.inj (hn.symm.trans hn')]) hk
  · exact absurd (by simp [unbindable, Option.some.inj (hn.symm.trans hn')]) hk
  · cases Option.some.inj (hn.symm.trans hn')
    exact exists_read_of_fault? hb (by simpa using hne) (fault?_of_mem_elements h hx he)

end Faultless

end Entry

/-! ### Fields after the entries of a document -/

namespace Settings

open Entry (elements textsNamed lastText? itemsNamed)

section Entered
variable {s t : Settings} {root : Node} (h : (s.enterAll (Entry.ofRoot root)).result = .ok t)
include h

/-- The field of a key has the value of the last text under the key, if there is one. -/
theorem get_bound {binding : Binding} (hb : binding ∈ bindings) :
    match lastText? binding.key (elements root) with
    | none => t.get binding.field = s.get binding.field
    | some text => ∃ value, binding.coercion.read text = .ok value ∧
        t.get binding.field = kept binding.field value := by
  have hfault := findSome?_fault?_of_enterAll h
  rw [get_enterAll h (Binding.field_ne hb (by decide)) (Binding.field_ne hb (by decide)),
    Entry.filterMap_value? hfault hb]
  have hread := fun text => @Entry.exists_read root hfault binding hb text
  unfold lastText?
  generalize (textsNamed binding.key (elements root)).filter (· != "") = texts at hread ⊢
  rcases List.eq_nil_or_concat texts with rfl | ⟨init, text, rfl⟩
  · rfl
  · obtain ⟨value, hvalue⟩ := hread text (by simp)
    have hunder : Entry.valueUnder binding text = some (kept binding.field value) := by
      simp [Entry.valueUnder, hvalue, Except.toOption]
    rw [List.concat_eq_append, List.getLast?_concat]
    refine ⟨value, hvalue, ?_⟩
    simp [List.filterMap_append, hunder]

/-- The text of the port is that of the last port, blank or not. -/
theorem portText_entered :
    t.portText = (textsNamed "port" (elements root)).getLast?.or s.portText := by
  apply Value.ofText?_injective
  change t.get .portText = _
  rw [get_enterAll h (by decide) (by decide),
    Entry.filterMap_value?_portText (findSome?_fault?_of_enterAll h), List.getLast?_map]
  cases (textsNamed "port" (elements root)).getLast? <;> rfl

theorem endpoints_entered :
    t.endpoints = s.endpoints ++ itemsNamed "endpoints" "endpoint" (elements root) := by
  have hitems := items_enterAll (.inl rfl : Field.endpoints = .endpoints ∨ _) h rfl
  rw [Entry.flatMap_items (findSome?_fault?_of_enterAll h) (.inl rfl)] at hitems
  exact Value.items.inj hitems

theorem workerArguments_entered :
    t.workerArguments =
      s.workerArguments ++ itemsNamed "forkedJVMArgs" "arg" (elements root) := by
  have hitems := items_enterAll (.inr rfl : _ ∨ Field.workerArguments = .workerArguments) h rfl
  rw [Entry.flatMap_items (findSome?_fault?_of_enterAll h) (.inr rfl)] at hitems
  exact Value.items.inj hitems

/-- A document leaves the fields alone that only options write. -/
theorem get_unwritten (field : Field) (hf : field ∈ Field.unwritten) :
    t.get field = s.get field := by
  have hlist : field ≠ .endpoints ∧ field ≠ .workerArguments := by
    constructor <;> rintro rfl <;> exact absurd hf (by decide)
  rw [get_enterAll h hlist.1 hlist.2,
    Entry.filterMap_value?_of_unwritten (findSome?_fault?_of_enterAll h) hf]
  rfl

end Entered

end Settings

end LayeredConfig

import LayeredConfig.Proofs.Failures

/-! The order of a document. Elements with different local names may change places, and move from
one server section to another, without a change in what is loaded: distinct names write distinct
fields, no element fails on account of another one, and the port is reconciled at the end. What is
not moved along are the names of the sections. One that cannot be read ends the loading, although
nothing is wrong with the elements. -/

namespace LayeredConfig

open Xml (Node)
open Entry (elements misnamed? textsNamed lastText? itemsNamed)

namespace Entry

/-- Whether a node is the root of a configuration file. -/
def IsDocument (root : Node) : Prop :=
  misnamed? root = none ∧ root.localName? = some "properties"

/-- Whether the names of all children of a root can be read. -/
def HasNamedSections (root : Node) : Prop :=
  ∀ node ∈ root.children, misnamed? node = none

/-- Whether elements are rearrangements of each other that keep the order of those with one local
name. -/
structure IsRearrangement (first second : List Node) : Prop where
  perm : first.Perm second
  filter_eq : ∀ name, first.filter (·.localName? == some name) =
    second.filter (·.localName? == some name)

namespace IsRearrangement

variable {first second : List Node}

theorem textsNamed_eq (h : IsRearrangement first second) (name : String) :
    textsNamed name first = textsNamed name second := by
  rw [textsNamed, textsNamed, h.filter_eq]

theorem lastText?_eq (h : IsRearrangement first second) (key : String) :
    lastText? key first = lastText? key second := by
  rw [lastText?, lastText?, h.textsNamed_eq]

theorem itemsNamed_eq (h : IsRearrangement first second) (list item : String) :
    itemsNamed list item first = itemsNamed list item second := by
  rw [itemsNamed, itemsNamed, h.filter_eq]

end IsRearrangement

end Entry

open Entry (IsDocument HasNamedSections IsRearrangement)

/-! ### Success -/

theorem sectionFault?_eq_none_iff {node : Node} :
    sectionFault? node = none ↔ misnamed? node = none ∧
      (node.localName? = some "server" → ∀ x ∈ node.children, elementFault? x = none) := by
  unfold sectionFault? nameFault?
  by_cases hs : node.localName? = some "server" <;> simp [hs]

/-- Only elements can be at fault. -/
theorem elementFault?_of_localName? {x : Node} (h : x.localName? = none) :
    elementFault? x = none := by
  simp [elementFault?, nameFault?, settingFault?, h, Entry.misnamed?_of_localName? h]

/-- A document is without fault if the names of its sections can be read and its elements are
without fault, wherever they stand. -/
theorem treeFault?_eq_none_iff {root : Node} (h : IsDocument root) :
    treeFault? root = none ↔
      HasNamedSections root ∧ ∀ x ∈ elements root, elementFault? x = none := by
  have hchildren : treeFault? root = none ↔ ∀ node ∈ root.children, sectionFault? node = none := by
    simp [treeFault?, nameFault?, h.1, h.2]
  have helements : (∀ x ∈ elements root, elementFault? x = none) ↔ ∀ node ∈ root.children,
      node.localName? = some "server" → ∀ x ∈ node.children, elementFault? x = none := by
    constructor
    · intro hall node hnode hserver x hx
      cases hn : x.localName? with
      | none => exact elementFault?_of_localName? hn
      | some name =>
        refine hall x (List.mem_flatMap.2 ⟨node, ?_, ?_⟩)
        · exact List.mem_filter.2 ⟨hnode, by simpa using hserver⟩
        · exact List.mem_filter.2 ⟨hx, by simp [hn]⟩
    · intro hall x hx
      obtain ⟨node, hnode, hx⟩ := List.mem_flatMap.1 hx
      obtain ⟨hnode, hserver⟩ := List.mem_filter.1 hnode
      exact hall node hnode (by simpa using hserver) x (List.mem_filter.1 hx).1
  rw [hchildren, helements]
  simp only [sectionFault?_eq_none_iff]
  exact ⟨fun hall => ⟨fun node hnode => (hall node hnode).1, fun node hnode => (hall node hnode).2⟩,
    fun hall node hnode => ⟨hall.1 node hnode, hall.2 node hnode⟩⟩

theorem Settings.isOk_ofTree_iff {instanceId : String} {root : Node} (h : IsDocument root) :
    (∃ t, (ofTree instanceId root).result = .ok t) ↔
      HasNamedSections root ∧ ∀ x ∈ elements root, elementFault? x = none := by
  rw [← treeFault?_eq_none_iff h]
  cases hr : (ofTree instanceId root).result with
  | error fault => simp [ofTree_eq_error_iff_treeFault?.1 hr]
  | ok t =>
    refine iff_of_true ⟨t, rfl⟩ (Option.eq_none_iff_forall_ne_some.2 fun fault hf => ?_)
    rw [ofTree_eq_error_iff_treeFault?.2 hf] at hr
    cases hr

/-! ### Fields -/

theorem Field.mem_keyless_or (field : Field) :
    field ∈ keyless ∨ ∃ binding ∈ bindings, binding.field = field := by
  cases field <;> decide

namespace Settings

/-- Rearranged elements leave the same in every field. -/
theorem enterAll_rearranged {s t u : Settings} {first second : Node} (hs : s.IsNormal)
    (hr : IsRearrangement (elements first) (elements second))
    (ht : (s.enterAll (Entry.ofRoot first)).result = .ok t)
    (hu : (s.enterAll (Entry.ofRoot second)).result = .ok u) : t = u := by
  refine (hs.enterAll ht).eq_of_get (hs.enterAll hu) fun field => ?_
  rcases field.mem_keyless_or with hkeyless | ⟨binding, hb, rfl⟩
  · simp only [Field.keyless, List.mem_append, List.mem_cons, List.not_mem_nil, or_false]
      at hkeyless
    rcases hkeyless with hunwritten | rfl | rfl | rfl
    · rw [get_unwritten ht field hunwritten, get_unwritten hu field hunwritten]
    · simp only [get, portText_entered ht, portText_entered hu, hr.textsNamed_eq]
    · simp only [get, endpoints_entered ht, endpoints_entered hu, hr.itemsNamed_eq]
    · simp only [get, workerArguments_entered ht, workerArguments_entered hu, hr.itemsNamed_eq]
  · have hfirst := get_bound ht hb
    have hsecond := get_bound hu hb
    rw [hr.lastText?_eq] at hfirst
    cases hl : lastText? binding.key (elements second) with
    | none =>
      rw [hl] at hfirst hsecond
      exact hfirst.trans hsecond.symm
    | some text =>
      rw [hl] at hfirst hsecond
      obtain ⟨value, hv, hfirst⟩ := hfirst
      obtain ⟨other, ho, hsecond⟩ := hsecond
      obtain rfl : value = other := Except.ok.inj (hv.symm.trans ho)
      exact hfirst.trans hsecond.symm

theorem ofTree_eq_of_rearranged {instanceId : String} {first second : Node} {t u : Settings}
    (hr : IsRearrangement (elements first) (elements second))
    (ht : (ofTree instanceId first).result = .ok t)
    (hu : (ofTree instanceId second).result = .ok u) : t = u := by
  obtain ⟨-, -, entered, hentered, rfl⟩ := ofTree_eq_ok_iff.1 ht
  obtain ⟨-, -, other, hother, rfl⟩ := ofTree_eq_ok_iff.1 hu
  rw [enterAll_rearranged (isNormal_defaults instanceId) hr hentered hother]

theorem result_ofTree_withIdentity (first second : String) (root : Node) :
    (ofTree second root).result.toOption =
      (ofTree first root).result.toOption.map (·.withIdentity second) := by
  rw [ofTree_withIdentity first second]
  rcases ofTree first root with ⟨events, fault | t⟩ <;> rfl

/-- Rearranged documents are loaded alike if both are loaded or neither. -/
theorem ofTree_agree_iff {first second : Node}
    (hr : IsRearrangement (elements first) (elements second)) :
    (∀ instanceId other, (ofTree other second).result.toOption =
        (ofTree instanceId first).result.toOption.map (·.withIdentity other)) ↔
      ((∃ t, (ofTree "" first).result = .ok t) ↔ ∃ t, (ofTree "" second).result = .ok t) := by
  constructor
  · intro h
    have hone := h "" ""
    cases hf : (ofTree "" first).result <;> cases hs : (ofTree "" second).result <;>
      simp [hf, hs, Except.toOption] at hone ⊢
  · intro h instanceId other
    rw [result_ofTree_withIdentity "" other second,
      result_ofTree_withIdentity "" instanceId first, Option.map_map]
    cases hf : (ofTree "" first).result with
    | error fault =>
      cases hs : (ofTree "" second).result with
      | error cause => rfl
      | ok u => simp [hf, hs] at h
    | ok t =>
      cases hs : (ofTree "" second).result with
      | error cause => simp [hf, hs] at h
      | ok u =>
        rw [ofTree_eq_of_rearranged hr hf hs]
        rfl

/-- Of two documents whose elements are rearranged either both are loaded, and then to the same
settings but for the identity, or neither. This is so exactly if the names of the sections can be
read in both of them or in neither, or if an element is at fault anyway. -/
theorem ofTree_rearranged {first second : Node} (hfirst : IsDocument first)
    (hsecond : IsDocument second) (hr : IsRearrangement (elements first) (elements second)) :
    (∀ instanceId other, (ofTree other second).result.toOption =
        (ofTree instanceId first).result.toOption.map (·.withIdentity other)) ↔
      ((HasNamedSections first ↔ HasNamedSections second) ∨
        ∃ x ∈ elements first, elementFault? x ≠ none) := by
  have hfaultless : (∀ x ∈ elements first, elementFault? x = none) ↔
      ∀ x ∈ elements second, elementFault? x = none :=
    forall_congr' fun x => by rw [hr.perm.mem_iff]
  rw [ofTree_agree_iff hr, isOk_ofTree_iff hfirst, isOk_ofTree_iff hsecond, ← hfaultless]
  by_cases hall : ∀ x ∈ elements first, elementFault? x = none
  · have hnone : ¬ ∃ x ∈ elements first, elementFault? x ≠ none := by
      rintro ⟨x, hx, hne⟩
      exact hne (hall x hx)
    rw [and_iff_left hall, and_iff_left hall, or_iff_left hnone]
  · have hsome : ∃ x ∈ elements first, elementFault? x ≠ none := by
      simpa using hall
    simp only [hall, hsome, and_false, or_true]

/-- Settings that are moved into a section of their own, with the two hosts in their order. -/
theorem ofTree_rearranged_two_sections :
    let setting (name text : String) : Node := .element ⟨none, name⟩ none [] [.text text]
    let server (settings : List Node) : Node := .element ⟨none, "server"⟩ none [] settings
    let root (sections : List Node) : Node := .element ⟨none, "properties"⟩ none [] sections
    let first := root [server [setting "host" "a", setting "port" "1", setting "host" "b"]]
    let second := root [server [setting "port" "1"],
      server [setting "host" "a", setting "host" "b"]]
    IsDocument first ∧ IsDocument second ∧ IsRearrangement (elements first) (elements second) ∧
      (ofTree "v" first).result = .ok { defaults "v" with
        host := some "b", port := 1, portText := some "1" } ∧
      (ofTree "w" second).result.toOption =
        (ofTree "v" first).result.toOption.map (·.withIdentity "w") := by
  intro setting server root first second
  have hfirst : IsDocument first := ⟨rfl, rfl⟩
  have hsecond : IsDocument second := ⟨rfl, rfl⟩
  have hr : IsRearrangement (elements first) (elements second) :=
    ⟨.swap .., fun name => by
      by_cases hh : "host" = name
      · subst hh
        rfl
      · simp [first, second, root, server, setting, elements, Node.children, Node.localName?,
          List.filter_cons, hh]⟩
  refine ⟨hfirst, hsecond, hr, by decide +kernel, ?_⟩
  refine (ofTree_rearranged hfirst hsecond hr).2 (.inl (iff_of_true ?_ ?_)) "v" "w"
  · intro node hnode
    rw [List.mem_singleton.1 hnode]
    rfl
  · intro node hnode
    rcases List.mem_pair.1 hnode with rfl | rfl <;> rfl

/-- A section with an undeclared qualifier keeps a document from being loaded, although its
elements are those of an empty document: there are none. -/
theorem ofTree_misnamed_section : ∃ first second : Node,
    Xml.readGuarded "<properties/>".toUTF8.toList = .ok first ∧
      Xml.readGuarded "<properties><p:x/><?xmlfoo?></properties>".toUTF8.toList = .ok second ∧
      IsDocument first ∧ IsDocument second ∧ IsRearrangement (elements first) (elements second) ∧
      (ofTree "w" first).result = .ok (defaults "w") ∧
      (ofTree "w" second).result = .error (.invalidName "p:x") := by
  -- Nodes cannot be compared, so each tree is described by what the statement says of it.
  let described (root : Node) :=
    (misnamed? root, root.localName?, (elements root).length, (ofTree "w" root).result)
  have hempty : (Xml.readGuarded "<properties/>".toUTF8.toList).map described =
      .ok (none, some "properties", 0, .ok (defaults "w")) := by decide +kernel
  have hmisnamed :
      (Xml.readGuarded "<properties><p:x/><?xmlfoo?></properties>".toUTF8.toList).map described =
        .ok (none, some "properties", 0, .error (.invalidName "p:x")) := by decide +kernel
  obtain ⟨first, hf, hfirst⟩ := exists_of_map_eq_ok hempty
  obtain ⟨second, hs, hsecond⟩ := exists_of_map_eq_ok hmisnamed
  simp only [described, Prod.mk.injEq, List.length_eq_zero_iff] at hfirst hsecond
  obtain ⟨hfm, hfn, hfe, hfr⟩ := hfirst
  obtain ⟨hsm, hsn, hse, hsr⟩ := hsecond
  refine ⟨first, second, hf, hs, ⟨hfm, hfn⟩, ⟨hsm, hsn⟩, ?_, hfr, hsr⟩
  rw [hfe, hse]
  exact ⟨.refl _, fun _ => rfl⟩

end Settings

end LayeredConfig

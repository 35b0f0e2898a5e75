import LayeredConfig.Proofs.Names
import Mathlib.Data.List.TakeWhile
import Mathlib.Tactic.SplitIfs

/-! The gist of a document: its elements by their names as they are written, and the texts inside
them. Prefixes that are declared differently, attributes, and references in the place of their
characters make no other gist. Of the gist, the texts directly in the root, in its children and in
lists do not count. Documents with the same gist, as far as it counts, say the same up to the first
name that cannot be read. -/

namespace LayeredConfig.Xml

/-- An element by its name as it is written, the text inside it, and the elements in it. -/
structure Gist where
  name : String
  text : List Char
  children : List Gist

namespace Gist

/-! ### What counts -/

def lastPart (name : String) : String :=
  String.ofList (name.toList.reverse.takeWhile (· != ':')).reverse

def isListName (name : String) : Bool :=
  lastPart name == "endpoints" || lastPart name == "forkedJVMArgs"

def isList (g : Gist) : Bool :=
  isListName g.name

def withoutText (g : Gist) : Gist :=
  { g with text := [] }

/-- What counts of an element in a section: the text unless it is a list. -/
def ofEntry (g : Gist) : Gist :=
  if g.isList then g.withoutText else g

def ofSection (g : Gist) : Gist :=
  ⟨g.name, [], g.children.map ofEntry⟩

def ofRoot (g : Gist) : Gist :=
  ⟨g.name, [], g.children.map ofSection⟩

/-- What counts of an element that is inside so many others. -/
def core : Nat → Gist → Gist
  | 0 => ofRoot
  | 1 => ofSection
  | 2 => ofEntry
  | _ => id

theorem name_ofEntry (g : Gist) : g.ofEntry.name = g.name := by
  rw [ofEntry]
  split <;> rfl

theorem children_ofEntry (g : Gist) : g.ofEntry.children = g.children := by
  rw [ofEntry]
  split <;> rfl

theorem text_eq_of_ofEntry_eq {g g' : Gist} (hlist : g'.isList = false)
    (h : g.ofEntry = g'.ofEntry) : g.text = g'.text := by
  have hname : g.name = g'.name := by rw [← name_ofEntry g, h, name_ofEntry]
  have hlist' : g.isList = false := by rw [isList, hname]; exact hlist
  rw [ofEntry, ofEntry, hlist, hlist'] at h
  exact congrArg text h

theorem name_ofRoot (g : Gist) : g.ofRoot.name = g.name := rfl

theorem name_core (depth : Nat) (g : Gist) : (core depth g).name = g.name := by
  match depth with
  | 0 => rfl
  | 1 => rfl
  | 2 =>
    rw [core, ofEntry]
    split <;> rfl
  | _ + 3 => rfl

end Gist

namespace Node

mutual

/-- The gist of an element; other nodes have none. -/
def gist? : Node → Option Gist
  | .element name _ _ children => some ⟨name.text, textOfAll children, gistsOf children⟩
  | _ => none

def gistsOf : List Node → List Gist
  | [] => []
  | node :: nodes => (gist? node).toList ++ gistsOf nodes

end

theorem exists_of_gist? {node : Node} {g : Gist} (hg : node.gist? = some g) :
    ∃ name namespaceName attributes children,
      node = .element name namespaceName attributes children ∧
        g = ⟨name.text, textOfAll children, gistsOf children⟩ := by
  cases node with
  | element name namespaceName attributes children =>
    cases hg
    exact ⟨name, namespaceName, attributes, children, rfl, rfl⟩
  | text content => cases hg
  | comment content => cases hg
  | instruction target data => cases hg
  | reference name => cases hg

theorem textInside_of_gist? {node : Node} {g : Gist} (hg : node.gist? = some g) :
    node.textInside = g.text := by
  obtain ⟨name, namespaceName, attributes, children, rfl, rfl⟩ := exists_of_gist? hg
  rfl

theorem gistsOf_children {node : Node} {g : Gist} (hg : node.gist? = some g) :
    gistsOf node.children = g.children := by
  obtain ⟨name, namespaceName, attributes, children, rfl, rfl⟩ := exists_of_gist? hg
  rfl

theorem gistsOf_eq_filterMap (nodes : List Node) : gistsOf nodes = nodes.filterMap gist? := by
  induction nodes with
  | nil => rfl
  | cons node nodes ih => cases hg : gist? node <;> simp [gistsOf, hg, ih]

theorem gistsOf_append (first second : List Node) :
    gistsOf (first ++ second) = gistsOf first ++ gistsOf second := by
  simp only [gistsOf_eq_filterMap, List.filterMap_append]

mutual

/-- Remarks make no difference to the text inside a node and to its gist. -/
theorem withoutRemarks_eq : (node : Node) →
    node.withoutRemarks.textInside = node.textInside ∧ node.withoutRemarks.gist? = node.gist?
  | .element name _ _ children => by
    obtain ⟨htext, hgists⟩ := dropRemarks_eq children
    simp [withoutRemarks, textInside, gist?, htext, hgists]
  | .text _ | .comment _ | .instruction _ _ | .reference _ => ⟨rfl, rfl⟩

theorem dropRemarks_eq : (nodes : List Node) →
    textOfAll (dropRemarks nodes) = textOfAll nodes ∧ gistsOf (dropRemarks nodes) = gistsOf nodes
  | [] => ⟨rfl, rfl⟩
  | node :: nodes => by
    obtain ⟨htext, hgists⟩ := dropRemarks_eq nodes
    obtain ⟨htext', hgist'⟩ := withoutRemarks_eq node
    rw [dropRemarks]
    split
    · next hremark =>
      cases node with
      | comment content => exact ⟨htext, hgists⟩
      | instruction target data => exact ⟨htext, hgists⟩
      | element name namespaceName attributes children => cases hremark
      | text content => cases hremark
      | reference name => cases hremark
    · simp [textOfAll, gistsOf, htext, hgists, htext', hgist']

end

end Node

end LayeredConfig.Xml

namespace LayeredConfig

open Xml (Attribute Node Gist QualifiedName)

namespace Entry

/-! ### Names -/

theorem lastPart_text {name : QualifiedName} (h : ':' ∉ name.localPart.toList) :
    Gist.lastPart name.text = name.localPart := by
  have hne : ∀ c ∈ name.localPart.toList.reverse, (c != ':') = true := by
    intro c hc
    rw [bne_iff_ne]
    rintro rfl
    exact h (List.mem_reverse.1 hc)
  unfold Gist.lastPart QualifiedName.text
  cases name.qualifier with
  | none => rw [List.takeWhile_eq_self_iff.2 hne, List.reverse_reverse, String.ofList_toList]
  | some qualifier =>
    have hchars : (qualifier ++ ":" ++ name.localPart).toList.reverse =
        name.localPart.toList.reverse ++ ':' :: qualifier.toList.reverse := by simp
    rw [hchars, List.takeWhile_append_of_pos hne]
    simp

/-- What a name can be read off of has no closing brace in its namespace. -/
theorem not_mem_of_misnamed?_eq_none {name : QualifiedName} {namespaceName : String}
    {attributes : List Attribute} {children : List Node}
    (hm : misnamed? (.element name (some namespaceName) attributes children) = none) :
    '}' ∉ namespaceName.toList := by
  intro hc
  obtain ⟨front, back, hsplit, hfront⟩ := List.eq_append_cons_of_mem hc
  have hne : ∀ c ∈ '{' :: front, (c != '}') = true := by
    intro c hc
    rcases List.mem_cons.1 hc with rfl | hc
    · decide
    · exact bne_iff_ne.2 fun e => hfront (e ▸ hc)
  simp only [misnamed?, Node.universalName?, Option.filter_eq_none_iff] at hm
  have hlist : '{' :: namespaceName.toList ++ '}' :: name.localPart.toList =
      ('{' :: front) ++ '}' :: (back ++ '}' :: name.localPart.toList) := by simp [hsplit]
  rw [hlist, List.dropWhile_append_of_pos hne] at hm
  have hname : ∀ c ∈ back ++ '}' :: name.localPart.toList, c ≠ ':' ∧ c ≠ '}' := by
    simpa using hm _ rfl
  exact (hname '}' (by simp)).2 rfl

/-- A name that can be read is what follows the last colon as it is written. -/
theorem localName?_of_gist? {node : Node} {g : Gist} (hg : node.gist? = some g)
    (hm : misnamed? node = none) : node.localName? = some (Gist.lastPart g.name) := by
  obtain ⟨name, namespaceName, attributes, children, rfl, rfl⟩ := Node.exists_of_gist? hg
  have huniversal : (Node.element name namespaceName attributes children).universalName? =
      some name.localPart := by
    cases namespaceName with
    | none => rfl
    | some namespaceName =>
      exact Node.universalName?_of_not_mem (not_mem_of_misnamed?_eq_none hm) _ _ _
  have hplain : ':' ∉ name.localPart.toList := by
    intro hc
    rw [misnamed?, huniversal, Option.filter_eq_none_iff] at hm
    have hname : ∀ c ∈ name.localPart.toList, c ≠ ':' ∧ c ≠ '}' := by simpa using hm _ rfl
    exact (hname ':' hc).1 rfl
  rw [lastPart_text hplain, Node.localName?]

theorem misnamed?_of_gist? {node : Node} (hg : node.gist? = none) : misnamed? node = none := by
  cases node with
  | element name namespaceName attributes children => cases hg
  | text content => rfl
  | comment content => rfl
  | instruction target data => rfl
  | reference name => rfl

theorem localName?_of_gist?_eq_none {node : Node} (hg : node.gist? = none) :
    node.localName? = none := by
  cases node with
  | element name namespaceName attributes children => cases hg
  | text content => rfl
  | comment content => rfl
  | instruction target data => rfl
  | reference name => rfl

/-! ### Texts and children -/

theorem textOf_of_gist? {node : Node} {g : Gist} (hg : node.gist? = some g) :
    textOf node = String.ofList (Text.trimChars g.text) := by
  rw [textOf, Node.textInside_of_gist? hg]

/-- The texts of the nodes of a name are those of their gists. -/
theorem texts_eq {nodes : List Node} (hm : ∀ node ∈ nodes, misnamed? node = none)
    (name : String) :
    (nodes.filter fun node => node.localName? == some name).map textOf =
      ((Node.gistsOf nodes).filter fun g => Gist.lastPart g.name == name).map
        fun g => String.ofList (Text.trimChars g.text) := by
  induction nodes with
  | nil => rfl
  | cons node nodes ih =>
    rw [List.forall_mem_cons] at hm
    cases hg : node.gist? with
    | none =>
      have hn : (node.localName? == some name) = false := by
        rw [localName?_of_gist?_eq_none hg]
        rfl
      simp [Node.gistsOf, hg, hn, ih hm.2]
    | some g =>
      rw [Node.gistsOf, hg, Option.toList_some, List.singleton_append, List.filter_cons,
        List.filter_cons, localName?_of_gist? hg hm.1, Option.some_beq_some]
      split
      · rw [List.map_cons, List.map_cons, ih hm.2, textOf_of_gist? hg]
      · exact ih hm.2

/-! ### Names that cannot be read -/

/-- The names of an element and of the elements in it, as far as they cannot be read. -/
structure Names where
  unreadable : Option String
  children : List Names

mutual

def names? : Node → Option Names
  | .element name namespaceName attributes children =>
    some ⟨misnamed? (.element name namespaceName attributes children), namesOf children⟩
  | _ => none

def namesOf : List Node → List Names
  | [] => []
  | node :: nodes => (names? node).toList ++ namesOf nodes

end

theorem names?_of_gist? {node : Node} {g : Gist} (hg : node.gist? = some g) :
    names? node = some ⟨misnamed? node, namesOf node.children⟩ := by
  obtain ⟨name, namespaceName, attributes, children, rfl, rfl⟩ := Node.exists_of_gist? hg
  rfl

theorem names?_of_gist?_eq_none {node : Node} (hg : node.gist? = none) : names? node = none := by
  cases node with
  | element name namespaceName attributes children => cases hg
  | text content => rfl
  | comment content => rfl
  | instruction target data => rfl
  | reference name => rfl

/-- Which of some elements has the first name that cannot be read is told by their names. -/
theorem findSome?_misnamed?_eq (nodes : List Node) :
    nodes.findSome? misnamed? = (namesOf nodes).findSome? Names.unreadable := by
  induction nodes with
  | nil => rfl
  | cons node nodes ih =>
    cases hg : node.gist? with
    | none =>
      simp [namesOf, names?_of_gist?_eq_none hg, misnamed?_of_gist? hg, ih]
    | some g =>
      simp [namesOf, names?_of_gist? hg, List.findSome?_cons, ih]

/-- The gists of elements, as far as they count, with their names. -/
theorem filterMap_gist?_names? (core : Gist → Gist) (nodes : List Node) :
    (nodes.filterMap fun node => (node.gist?.map core).bind fun g => (names? node).map (g, ·)) =
      ((Node.gistsOf nodes).map core).zip (namesOf nodes) := by
  induction nodes with
  | nil => rfl
  | cons node nodes ih =>
    cases hg : node.gist? with
    | none => simp [Node.gistsOf, namesOf, hg, names?_of_gist?_eq_none hg, ih]
    | some g => simp [Node.gistsOf, namesOf, hg, names?_of_gist? hg, ih]

/-! ### Nodes that say the same -/

/-- Whether a relation holds of the same entries, and of entries that follow related ones. -/
structure IsCongruence (R : List Entry → List Entry → Prop) : Prop where
  refl (entries : List Entry) : R entries entries
  append {first second first' second' : List Entry} :
    R first second → R first' second' → R (first ++ first') (second ++ second')

theorem isCongruence_agree : IsCongruence Agree :=
  ⟨Agree.refl, Agree.append⟩

theorem isCongruence_eq : IsCongruence Eq :=
  ⟨fun _ => rfl, fun h h' => by rw [h, h']⟩

section
variable {R : List Entry → List Entry → Prop} (hR : IsCongruence R)
include hR

/-- Nodes that come to the same in a view say the same if what is in view does. -/
theorem rel_flatMap {α : Type} {view : Node → Option α} {f : Node → List Entry}
    (hnone : ∀ node, view node = none → f node = [])
    (hsome : ∀ {node other : Node} {a : α}, view node = some a → view other = some a →
      R (f node) (f other)) {first second : List Node}
    (h : first.filterMap view = second.filterMap view) :
    R (first.flatMap f) (second.flatMap f) := by
  have hnone' : ∀ {nodes : List Node}, (∀ node ∈ nodes, view node = none) →
      nodes.flatMap f = [] := fun hn =>
    List.flatMap_eq_nil_iff.2 fun node hnode => hnone node (hn node hnode)
  induction first generalizing second with
  | nil =>
    rw [hnone' (List.filterMap_eq_nil_iff.1 h.symm)]
    exact hR.refl []
  | cons node nodes ih =>
    cases hview : view node with
    | none =>
      rw [List.filterMap_cons_none hview] at h
      rw [List.flatMap_cons, hnone node hview]
      exact ih h
    | some a =>
      rw [List.filterMap_cons_some hview, eq_comm, List.filterMap_eq_cons_iff] at h
      obtain ⟨front, other, back, rfl, hfront, hother, hback⟩ := h
      rw [List.flatMap_append, hnone' hfront, List.nil_append, List.flatMap_cons, List.flatMap_cons]
      exact hR.append (hsome hview hother) (ih hback.symm)

/-- What elements in a section say whose names can be read. -/
theorem rel_ofNode? {first second : Node} {g g' : Gist} (hg : first.gist? = some g)
    (hg' : second.gist? = some g') (h : g.ofEntry = g'.ofEntry) (hm : misnamed? first = none)
    (hm' : misnamed? second = none)
    (hitems : ∀ entry name, R [ofItems entry name first] [ofItems entry name second]) :
    R (ofNode? first).toList (ofNode? second).toList := by
  have hname : g.name = g'.name := by rw [← Gist.name_ofEntry g, h, Gist.name_ofEntry]
  simp only [ofNode?, hm, hm', localName?_of_gist? hg hm, localName?_of_gist? hg' hm', hname]
  split_ifs with he hf hp
  · exact hitems _ _
  · exact hitems _ _
  · have htext := Gist.text_eq_of_ofEntry_eq (by simp [Gist.isList, Gist.isListName, he, hf]) h
    rw [textOf_of_gist? hg, textOf_of_gist? hg', htext]
    exact hR.refl _
  · have htext := Gist.text_eq_of_ofEntry_eq (by simp [Gist.isList, Gist.isListName, he, hf]) h
    rw [textOf_of_gist? hg, textOf_of_gist? hg', htext]
    exact hR.refl _

/-- What children of a root say whose names can be read. -/
theorem rel_ofSection {first second : Node} {g g' : Gist} (hg : first.gist? = some g)
    (hg' : second.gist? = some g') (hname : g.name = g'.name) (hm : misnamed? first = none)
    (hm' : misnamed? second = none)
    (hchildren : R (first.children.flatMap fun node => (ofNode? node).toList)
      (second.children.flatMap fun node => (ofNode? node).toList)) :
    R (ofSection first) (ofSection second) := by
  simp only [ofSection, hm, hm', localName?_of_gist? hg hm, localName?_of_gist? hg' hm', hname,
    List.filterMap_eq_flatMap_toList]
  split
  · exact hchildren
  · exact hR.refl _

end

theorem toList_ofNode?_of_gist? {node : Node} (hg : node.gist? = none) :
    (ofNode? node).toList = [] := by
  rw [ofNode?, misnamed?_of_gist? hg, localName?_of_gist?_eq_none hg]
  rfl

theorem ofSection_of_gist? {node : Node} (hg : node.gist? = none) : ofSection node = [] := by
  rw [ofSection, misnamed?_of_gist? hg, localName?_of_gist?_eq_none hg]
  rfl

/-! ### Documents with the same names -/

section
variable {first second : Node} {g g' : Gist}

theorem flatMap_eq_of_names {f : Node → List Entry} {core : Gist → Gist}
    (hnone : ∀ {node : Node}, node.gist? = none → f node = [])
    (hsome : ∀ {node other : Node} {g g' : Gist}, node.gist? = some g → other.gist? = some g' →
      core g = core g' → names? node = names? other → f node = f other) {nodes others : List Node}
    (h : (Node.gistsOf nodes).map core = (Node.gistsOf others).map core)
    (hnames : namesOf nodes = namesOf others) : nodes.flatMap f = others.flatMap f := by
  let view (node : Node) : Option (Gist × Names) :=
    (node.gist?.map core).bind fun g => (names? node).map (g, ·)
  have hview : nodes.filterMap view = others.filterMap view := by
    rw [filterMap_gist?_names?, filterMap_gist?_names?, h, hnames]
  refine rel_flatMap isCongruence_eq (fun node hv => ?_) (fun {node other a} hv hv' => ?_) hview
  · cases hg : node.gist? with
    | none => exact hnone hg
    | some g => simp [view, hg, names?_of_gist? hg] at hv
  · cases hg : node.gist? with
    | none => simp [view, hg] at hv
    | some g =>
      cases hg' : other.gist? with
      | none => simp [view, hg'] at hv'
      | some g' =>
        simp only [view, hg, hg', names?_of_gist? hg, names?_of_gist? hg', Option.map_some,
          Option.bind_some] at hv hv'
        have heq := hv.trans hv'.symm
        injection heq with heq
        injection heq with hcore hn
        exact hsome hg hg' hcore (by rw [names?_of_gist? hg, names?_of_gist? hg', hn])

/-- Lists with the same elements and names in them say the same. -/
theorem ofItems_eq_of_names (entry : List String → Entry) (name : String)
    (h : Node.gistsOf first.children = Node.gistsOf second.children)
    (hnames : namesOf first.children = namesOf second.children) :
    ofItems entry name first = ofItems entry name second := by
  have hm : first.children.findSome? misnamed? = second.children.findSome? misnamed? := by
    rw [findSome?_misnamed?_eq, hnames, findSome?_misnamed?_eq]
  rw [ofItems, ofItems, ← hm]
  cases hfirst : first.children.findSome? misnamed? with
  | some name => rfl
  | none =>
    have hsecond := hm.symm.trans hfirst
    rw [List.findSome?_eq_none_iff] at hfirst hsecond
    simp only [texts_eq hfirst, texts_eq hsecond, h]

/-- Elements in a section with the same names say the same. -/
theorem ofNode?_eq_of_names (hg : first.gist? = some g) (hg' : second.gist? = some g')
    (h : g.ofEntry = g'.ofEntry) (hnames : names? first = names? second) :
    (ofNode? first).toList = (ofNode? second).toList := by
  rw [names?_of_gist? hg, names?_of_gist? hg'] at hnames
  injection hnames with hnames
  injection hnames with hm hchildren
  have hgists : Node.gistsOf first.children = Node.gistsOf second.children := by
    rw [Node.gistsOf_children hg, Node.gistsOf_children hg', ← Gist.children_ofEntry g, h,
      Gist.children_ofEntry]
  cases hfirst : misnamed? first with
  | some name => rw [ofNode?, ofNode?, ← hm, hfirst]
  | none =>
    exact rel_ofNode? isCongruence_eq hg hg' h hfirst (hm ▸ hfirst) fun entry name => by
      rw [ofItems_eq_of_names entry name hgists hchildren]

/-- Children of a root with the same names say the same. -/
theorem ofSection_eq_of_names (hg : first.gist? = some g) (hg' : second.gist? = some g')
    (h : g.ofSection = g'.ofSection) (hnames : names? first = names? second) :
    ofSection first = ofSection second := by
  rw [names?_of_gist? hg, names?_of_gist? hg'] at hnames
  injection hnames with hnames
  injection hnames with hm hchildren
  injection h with hname _ hgists
  cases hfirst : misnamed? first with
  | some name => rw [ofSection, ofSection, ← hm, hfirst]
  | none =>
    refine rel_ofSection isCongruence_eq hg hg' hname hfirst (hm ▸ hfirst) ?_
    refine flatMap_eq_of_names toList_ofNode?_of_gist? ofNode?_eq_of_names ?_ hchildren
    rw [Node.gistsOf_children hg, Node.gistsOf_children hg', hgists]

/-- Roots with the same names say the same. -/
theorem ofRoot_eq_of_names (hg : first.gist? = some g) (hg' : second.gist? = some g')
    (h : g.ofRoot = g'.ofRoot) (hnames : names? first = names? second) :
    ofRoot first = ofRoot second := by
  rw [names?_of_gist? hg, names?_of_gist? hg'] at hnames
  injection hnames with hnames
  injection hnames with _ hchildren
  injection h with _ _ hgists
  refine flatMap_eq_of_names ofSection_of_gist? ofSection_eq_of_names ?_ hchildren
  rw [Node.gistsOf_children hg, Node.gistsOf_children hg', hgists]

end

/-! ### Documents as far as their names can be read -/

section
variable {first second : Node} {g g' : Gist}

theorem agree_flatMap_of_gistsOf {f : Node → List Entry} {core : Gist → Gist}
    (hnone : ∀ {node : Node}, node.gist? = none → f node = [])
    (hsome : ∀ {node other : Node} {g g' : Gist}, node.gist? = some g → other.gist? = some g' →
      core g = core g' → Agree (f node) (f other)) {nodes others : List Node}
    (h : (Node.gistsOf nodes).map core = (Node.gistsOf others).map core) :
    Agree (nodes.flatMap f) (others.flatMap f) := by
  rw [Node.gistsOf_eq_filterMap, Node.gistsOf_eq_filterMap, List.map_filterMap,
    List.map_filterMap] at h
  refine rel_flatMap isCongruence_agree (fun node hv => ?_) (fun {node other a} hv hv' => ?_) h
  · exact hnone (Option.map_eq_none_iff.1 hv)
  · obtain ⟨g, hg, hcore⟩ := Option.map_eq_some_iff.1 hv
    obtain ⟨g', hg', hcore'⟩ := Option.map_eq_some_iff.1 hv'
    exact hsome hg hg' (hcore.trans hcore'.symm)

/-- Lists with the same elements in them. -/
theorem agree_ofItems_of_gistsOf (entry : List String → Entry) (name : String)
    (h : Node.gistsOf first.children = Node.gistsOf second.children) :
    Agree [ofItems entry name first] [ofItems entry name second] := by
  rw [ofItems, ofItems]
  cases hm : first.children.findSome? misnamed? with
  | some name => exact .misnamed ..
  | none =>
    cases hm' : second.children.findSome? misnamed? with
    | some name => exact .otherMisnamed ..
    | none =>
      rw [List.findSome?_eq_none_iff] at hm hm'
      simp only [texts_eq hm, texts_eq hm', h]
      exact .refl _

/-- Elements in a section. -/
theorem agree_ofNode?_of_gist? (hg : first.gist? = some g) (hg' : second.gist? = some g')
    (h : g.ofEntry = g'.ofEntry) : Agree (ofNode? first).toList (ofNode? second).toList := by
  cases hm : misnamed? first with
  | some name => rw [ofNode?, hm]; exact .misnamed ..
  | none =>
    cases hm' : misnamed? second with
    | some name => rw [ofNode?.eq_def second, hm']; exact .otherMisnamed ..
    | none =>
      refine rel_ofNode? isCongruence_agree hg hg' h hm hm' fun entry name =>
        agree_ofItems_of_gistsOf entry name ?_
      rw [Node.gistsOf_children hg, Node.gistsOf_children hg', ← Gist.children_ofEntry g, h,
        Gist.children_ofEntry]

/-- Children of a root. -/
theorem agree_ofSection_of_gist? (hg : first.gist? = some g) (hg' : second.gist? = some g')
    (h : g.ofSection = g'.ofSection) : Agree (ofSection first) (ofSection second) := by
  cases hm : misnamed? first with
  | some name => rw [ofSection, hm]; exact .misnamed ..
  | none =>
    cases hm' : misnamed? second with
    | some name => rw [ofSection.eq_def second, hm']; exact .otherMisnamed ..
    | none =>
      injection h with hname _ hgists
      refine rel_ofSection isCongruence_agree hg hg' hname hm hm' ?_
      refine agree_flatMap_of_gistsOf toList_ofNode?_of_gist? agree_ofNode?_of_gist? ?_
      rw [Node.gistsOf_children hg, Node.gistsOf_children hg', hgists]

/-- Roots. -/
theorem agree_ofRoot_of_gist? (hg : first.gist? = some g) (hg' : second.gist? = some g')
    (h : g.ofRoot = g'.ofRoot) : Agree (ofRoot first) (ofRoot second) := by
  injection h with _ _ hgists
  refine agree_flatMap_of_gistsOf ofSection_of_gist? agree_ofSection_of_gist? ?_
  rw [Node.gistsOf_children hg, Node.gistsOf_children hg', hgists]

end

end Entry

namespace Settings

variable {instanceId : String} {first second : Node}

/-- What is no element has no name to be expected. -/
theorem ofTree_of_gist?_eq_none (hg : first.gist? = none) :
    ofTree instanceId first = .fail (.unexpectedRoot none) := by
  rw [ofTree, Entry.misnamed?_of_gist? hg, Entry.localName?_of_gist?_eq_none hg]
  rfl

theorem localName?_eq_of_gist? {g g' : Gist} (hg : first.gist? = some g)
    (hg' : second.gist? = some g') (h : g.ofRoot = g'.ofRoot) (hm : Entry.misnamed? first = none)
    (hm' : Entry.misnamed? second = none) : first.localName? = second.localName? := by
  rw [Entry.localName?_of_gist? hg hm, Entry.localName?_of_gist? hg' hm', ← Gist.name_ofRoot g, h,
    Gist.name_ofRoot]

/-- Trees with the same gist, as far as it counts, are loaded alike if the same names in them cannot
be read. -/
theorem ofTree_eq_of_names (h : first.gist?.map Gist.ofRoot = second.gist?.map Gist.ofRoot)
    (hnames : Entry.names? first = Entry.names? second) :
    ofTree instanceId first = ofTree instanceId second := by
  cases hg : first.gist? with
  | none =>
    have hg' : second.gist? = none := by simpa [hg, eq_comm] using h
    rw [ofTree_of_gist?_eq_none hg, ofTree_of_gist?_eq_none hg']
  | some g =>
    rw [hg, Option.map_some, eq_comm, Option.map_eq_some_iff] at h
    obtain ⟨g', hg', h⟩ := h
    have hentries := Entry.ofRoot_eq_of_names hg hg' h.symm hnames
    rw [Entry.names?_of_gist? hg, Entry.names?_of_gist? hg'] at hnames
    injection hnames with hnames
    injection hnames with hm _
    cases hfirst : Entry.misnamed? first with
    | some name => rw [ofTree, ofTree, ← hm, hfirst]
    | none =>
      have hsecond := hm.symm.trans hfirst
      simp only [ofTree, hfirst, hsecond, hentries,
        localName?_eq_of_gist? hg hg' h.symm hfirst hsecond]

/-- Trees with the same gist, as far as it counts, are loaded alike unless a name that cannot be
read ends one of the loads. -/
theorem ofTree_eq_of_gist? (h : first.gist?.map Gist.ofRoot = second.gist?.map Gist.ofRoot)
    (hfirst : (ofTree instanceId first).IsReadable)
    (hsecond : (ofTree instanceId second).IsReadable) :
    ofTree instanceId first = ofTree instanceId second := by
  cases hg : first.gist? with
  | none =>
    have hg' : second.gist? = none := by simpa [hg, eq_comm] using h
    rw [ofTree_of_gist?_eq_none hg, ofTree_of_gist?_eq_none hg']
  | some g =>
    rw [hg, Option.map_some, eq_comm, Option.map_eq_some_iff] at h
    obtain ⟨g', hg', h⟩ := h
    have hname := localName?_eq_of_gist? hg hg' h.symm (misnamed?_eq_none hfirst)
      (misnamed?_eq_none hsecond)
    exact ofTree_eq_of_enterAll hname
      (fun _ => (Entry.agree_ofRoot_of_gist? hg hg' h.symm).enterAll_eq) hfirst hsecond

end Settings

end LayeredConfig

import LayeredConfig.Proofs.Names
import Mathlib.Logic.Relation

/-! Edits that do not matter. Of a document only a skeleton counts: the elements of its server
sections by their local names, in each of them the characters without the blanks at their ends, and
for a list those of its items. Any number of edits outside of this skeleton, undone or done, leaves
what is loaded, the fault if there is one, and the events, unless a name that cannot be read ends
one of the loads. -/

namespace LayeredConfig

open Xml (Node QualifiedName Attribute)
open Entry (textsNamed textOf unbindable)

namespace Edit

/-! ### Edits -/

/-- Whether a row of nodes has one node more than another one, and that is of a kind. -/
inductive Inserted (kind : Node → Prop) : List Node → List Node → Prop
  | intro (front back : List Node) {node : Node} :
    kind node → Inserted kind (front ++ back) (front ++ node :: back)

/-- Whether rows of nodes differ at one place only, where the nodes are related. -/
inductive AtOnePlace (related : Node → Node → Prop) : List Node → List Node → Prop
  | intro (front back : List Node) {node other : Node} :
    related node other → AtOnePlace related (front ++ node :: back) (front ++ other :: back)

/-- An edit of the content of an element. -/
inductive Inside (edit : List Node → List Node → Prop) : Node → Node → Prop
  | intro (name : QualifiedName) (namespaceName : Option String) (attributes : List Attribute)
    {content other : List Node} : edit content other →
      Inside edit (.element name namespaceName attributes content)
        (.element name namespaceName attributes other)

/-- An edit of the qualifier, the namespace and the attributes of an element. -/
inductive Renamed : Node → Node → Prop
  | intro (qualifier other : Option String) (localPart : String)
    (namespaceName otherNamespace : Option String) (attributes otherAttributes : List Attribute)
    (content : List Node) :
    Renamed (.element ⟨qualifier, localPart⟩ namespaceName attributes content)
      (.element ⟨other, localPart⟩ otherNamespace otherAttributes content)

/-- An edit of a content, at any depth, that keeps its characters: a remark more, a text divided in
two, nodes wrapped in an element, or another name for an element. -/
inductive OfText : List Node → List Node → Prop
  | remark {content other : List Node} : Inserted (·.isRemark) content other → OfText content other
  | divide (front back : List Node) (first second : String) :
    OfText (front ++ .text (first ++ second) :: back)
      (front ++ .text first :: .text second :: back)
  | wrap (front inner back : List Node) (name : QualifiedName) (namespaceName : Option String)
    (attributes : List Attribute) :
    OfText (front ++ inner ++ back) (front ++ .element name namespaceName attributes inner :: back)
  | rename {content other : List Node} : AtOnePlace Renamed content other → OfText content other
  | deeper (front back : List Node) (name : QualifiedName) (namespaceName : Option String)
    (attributes : List Attribute) {content other : List Node} : OfText content other →
      OfText (front ++ .element name namespaceName attributes content :: back)
        (front ++ .element name namespaceName attributes other :: back)

/-- An edit of a setting or of an item of a list, which keeps its text but for blanks at its
ends. -/
inductive OfValue : Node → Node → Prop
  | rename {node other : Node} : Renamed node other → OfValue node other
  | content {node other : Node} : Inside OfText node other → OfValue node other
  | before (name : QualifiedName) (namespaceName : Option String) (attributes : List Attribute)
    (content : List Node) {blanks : String} : Text.isBlankText blanks →
      OfValue (.element name namespaceName attributes content)
        (.element name namespaceName attributes (.text blanks :: content))
  | after (name : QualifiedName) (namespaceName : Option String) (attributes : List Attribute)
    (content : List Node) {blanks : String} : Text.isBlankText blanks →
      OfValue (.element name namespaceName attributes content)
        (.element name namespaceName attributes (content ++ [.text blanks]))

/-- An edit inside a list: of what is no item, be it an element, a remark or a text, or of an
item. -/
inductive OfList (item : String) : List Node → List Node → Prop
  | other {nodes others : List Node} : Inserted (·.localName? ≠ some item) nodes others →
    OfList item nodes others
  | item {nodes others : List Node} : AtOnePlace OfValue nodes others → OfList item nodes others

/-- Whether a node is a setting without text, or a list without items. -/
inductive IsEmpty (node : Node) : Prop
  | setting {key : String} : node.localName? = some key → key ∉ unbindable → textOf node = "" →
    IsEmpty node
  | endpoints : node.localName? = some "endpoints" → textsNamed "endpoint" node.children = [] →
    IsEmpty node
  | workerArguments : node.localName? = some "forkedJVMArgs" →
    textsNamed "arg" node.children = [] → IsEmpty node

/-- An edit inside a server section: of what is no element, of what is empty, of a list, or of a
setting. -/
inductive OfServer : List Node → List Node → Prop
  | mark {nodes others : List Node} : Inserted (·.localName? = none) nodes others →
    OfServer nodes others
  | empty {nodes others : List Node} : Inserted IsEmpty nodes others → OfServer nodes others
  | rename {nodes others : List Node} : AtOnePlace Renamed nodes others → OfServer nodes others
  | endpoints {nodes others : List Node} : AtOnePlace (fun node other =>
      node.localName? = some "endpoints" ∧ Inside (OfList "endpoint") node other) nodes others →
    OfServer nodes others
  | workerArguments {nodes others : List Node} : AtOnePlace (fun node other =>
      node.localName? = some "forkedJVMArgs" ∧ Inside (OfList "arg") node other) nodes others →
    OfServer nodes others
  | setting {nodes others : List Node} : AtOnePlace (fun node other =>
      node.localName? ≠ some "endpoints" ∧ node.localName? ≠ some "forkedJVMArgs" ∧
        OfValue node other) nodes others →
    OfServer nodes others

/-- An edit inside a root: of what is no server section, or of one. -/
inductive OfSections : List Node → List Node → Prop
  | other {nodes others : List Node} : Inserted (·.localName? ≠ some "server") nodes others →
    OfSections nodes others
  | rename {nodes others : List Node} : AtOnePlace Renamed nodes others → OfSections nodes others
  | server {nodes others : List Node} : AtOnePlace (Inside OfServer) nodes others →
    OfSections nodes others

end Edit

open Edit

/-- One edit of a document that does not matter. -/
inductive Edit : Node → Node → Prop
  | rename {root other : Node} : Renamed root other → Edit root other
  | sections {root other : Node} : Inside OfSections root other → Edit root other

/-! ### What is left of a document -/

namespace Entry

/-- What a node of a server section says by its local name and its text. -/
def skeletonOfNode (node : Node) : List Entry :=
  match node.localName? with
  | none => []
  | some name =>
    if name = "endpoints" then
      if textsNamed "endpoint" node.children = [] then []
      else [.endpoints (textsNamed "endpoint" node.children)]
    else if name = "forkedJVMArgs" then
      if textsNamed "arg" node.children = [] then []
      else [.workerArguments (textsNamed "arg" node.children)]
    else if name = "port" then [.port (textOf node)]
    else if textOf node = "" then [] else [.setting name (textOf node)]

def skeletonOfSection (node : Node) : List Entry :=
  if node.localName? = some "server" then node.children.flatMap skeletonOfNode else []

/-- What all that is below a root says by the local names and texts of its elements. -/
def skeleton (root : Node) : List Entry :=
  root.children.flatMap skeletonOfSection

end Entry

namespace Edit

open Entry (skeletonOfNode skeletonOfSection skeleton)

section Rows
variable {α : Type} {f : Node → List α} {nodes others : List Node}

theorem Inserted.flatMap_eq {kind : Node → Prop} (h : Inserted kind nodes others)
    (hf : ∀ node, kind node → f node = []) : nodes.flatMap f = others.flatMap f := by
  obtain ⟨front, back, hnode⟩ := h
  simp [hf _ hnode]

theorem AtOnePlace.flatMap_eq {related : Node → Node → Prop} (h : AtOnePlace related nodes others)
    (hf : ∀ node other, related node other → f node = f other) :
    nodes.flatMap f = others.flatMap f := by
  obtain ⟨front, back, hrelated⟩ := h
  simp [hf _ _ hrelated]

end Rows

theorem textOfAll_eq_flatMap (nodes : List Node) :
    Node.textOfAll nodes = nodes.flatMap Node.textInside := by
  induction nodes with
  | nil => rfl
  | cons node nodes ih => rw [Node.textOfAll, ih, List.flatMap_cons]

theorem textsNamed_eq_flatMap (name : String) (nodes : List Node) :
    textsNamed name nodes =
      nodes.flatMap fun node => if node.localName? = some name then [textOf node] else [] := by
  induction nodes with
  | nil => rfl
  | cons node nodes ih =>
    rw [List.flatMap_cons, ← ih]
    by_cases hn : node.localName? = some name <;> simp [textsNamed, hn]

theorem textInside_of_isRemark {node : Node} (h : node.isRemark) : node.textInside = [] := by
  cases node <;> first | rfl | cases h

/-! ### Invariance -/

theorem Renamed.localName?_eq {node other : Node} (h : Renamed node other) :
    node.localName? = other.localName? := by
  cases h
  rfl

theorem Renamed.children_eq {node other : Node} (h : Renamed node other) :
    node.children = other.children := by
  cases h
  rfl

theorem Renamed.textInside_eq {node other : Node} (h : Renamed node other) :
    node.textInside = other.textInside := by
  cases h
  rfl

theorem Inside.localName?_eq {edit : List Node → List Node → Prop} {node other : Node}
    (h : Inside edit node other) : node.localName? = other.localName? := by
  cases h
  rfl

theorem Inside.children {edit : List Node → List Node → Prop} {node other : Node}
    (h : Inside edit node other) : edit node.children other.children := by
  cases h
  assumption

theorem OfText.textOfAll_eq {content other : List Node} (h : OfText content other) :
    Node.textOfAll content = Node.textOfAll other := by
  induction h with
  | remark h =>
    rw [textOfAll_eq_flatMap, textOfAll_eq_flatMap]
    exact h.flatMap_eq fun _ => textInside_of_isRemark
  | divide front back first second => simp [Node.textOfAll_append, Node.textOfAll, Node.textInside]
  | wrap front inner back name namespaceName attributes =>
    simp [Node.textOfAll_append, Node.textOfAll, Node.textInside]
  | rename h =>
    rw [textOfAll_eq_flatMap, textOfAll_eq_flatMap]
    exact h.flatMap_eq fun _ _ => Renamed.textInside_eq
  | deeper front back name namespaceName attributes _ ih =>
    simp [Node.textOfAll_append, Node.textOfAll, Node.textInside, ih]

theorem OfValue.localName?_eq {node other : Node} (h : OfValue node other) :
    node.localName? = other.localName? := by
  cases h with
  | rename h => exact h.localName?_eq
  | content h => exact h.localName?_eq
  | before => rfl
  | after => rfl

theorem OfValue.textOf_eq {node other : Node} (h : OfValue node other) :
    textOf node = textOf other := by
  cases h with
  | rename h => rw [textOf, h.textInside_eq, textOf]
  | content h =>
    obtain ⟨name, namespaceName, attributes, h⟩ := h
    simp only [textOf, Node.textInside, h.textOfAll_eq]
  | before name namespaceName attributes content hblanks =>
    simp only [textOf, Node.textInside, Node.textOfAll]
    rw [Text.trimChars_blanks_append (List.all_eq_true.1 hblanks)]
  | after name namespaceName attributes content hblanks =>
    simp only [textOf, Node.textInside, Node.textOfAll_append, Node.textOfAll, List.append_nil]
    rw [Text.trimChars_append_blanks (List.all_eq_true.1 hblanks)]

theorem OfList.textsNamed_eq {item : String} {nodes others : List Node}
    (h : OfList item nodes others) : textsNamed item nodes = textsNamed item others := by
  rw [textsNamed_eq_flatMap, textsNamed_eq_flatMap]
  cases h with
  | other h => exact h.flatMap_eq fun _ hnode => if_neg hnode
  | item h => exact h.flatMap_eq fun _ _ hvalue => by rw [hvalue.localName?_eq, hvalue.textOf_eq]

theorem IsEmpty.skeletonOfNode_eq {node : Node} (h : IsEmpty node) : skeletonOfNode node = [] := by
  cases h with
  | setting hn hk ht =>
    simp only [unbindable, List.mem_cons, List.not_mem_nil, or_false, not_or] at hk
    simp [skeletonOfNode, hn, hk, ht]
  | endpoints hn hi => simp [skeletonOfNode, hn, hi]
  | workerArguments hn hi => simp [skeletonOfNode, hn, hi]

theorem skeletonOfNode_congr {node other : Node} (hn : node.localName? = other.localName?)
    (hc : node.children = other.children) (ht : textOf node = textOf other) :
    skeletonOfNode node = skeletonOfNode other := by
  unfold skeletonOfNode
  rw [hn, hc, ht]

theorem OfServer.flatMap_eq {nodes others : List Node} (h : OfServer nodes others) :
    nodes.flatMap skeletonOfNode = others.flatMap skeletonOfNode := by
  cases h with
  | mark h => exact h.flatMap_eq fun _ hn => by simp [skeletonOfNode, hn]
  | empty h => exact h.flatMap_eq fun _ => IsEmpty.skeletonOfNode_eq
  | rename h =>
    exact h.flatMap_eq fun _ _ hr => skeletonOfNode_congr hr.localName?_eq hr.children_eq
      (by rw [textOf, hr.textInside_eq, textOf])
  | endpoints h =>
    refine h.flatMap_eq fun _ _ ⟨hn, hi⟩ => ?_
    simp only [skeletonOfNode, ← hi.localName?_eq, hn, if_true, hi.children.textsNamed_eq]
  | workerArguments h =>
    refine h.flatMap_eq fun _ _ ⟨hn, hi⟩ => ?_
    simp [skeletonOfNode, ← hi.localName?_eq, hn, hi.children.textsNamed_eq]
  | setting h =>
    refine h.flatMap_eq fun node other ⟨he, hw, hv⟩ => ?_
    simp only [skeletonOfNode, ← hv.localName?_eq, hv.textOf_eq]
    cases hn : node.localName? with
    | none => rfl
    | some name =>
      have he' : name ≠ "endpoints" := fun e => he (e ▸ hn)
      have hw' : name ≠ "forkedJVMArgs" := fun e => hw (e ▸ hn)
      simp [he', hw']

theorem OfSections.flatMap_eq {nodes others : List Node} (h : OfSections nodes others) :
    nodes.flatMap skeletonOfSection = others.flatMap skeletonOfSection := by
  cases h with
  | other h => exact h.flatMap_eq fun _ hn => if_neg hn
  | rename h =>
    refine h.flatMap_eq fun _ _ hr => ?_
    rw [skeletonOfSection, hr.localName?_eq, hr.children_eq, skeletonOfSection]
  | server h =>
    refine h.flatMap_eq fun _ _ hi => ?_
    rw [skeletonOfSection, hi.localName?_eq, hi.children.flatMap_eq, skeletonOfSection]

/-- Edits leave the name of the root and the skeleton. -/
theorem skeleton_eq {first second : Node} (h : Relation.EqvGen Edit first second) :
    first.localName? = second.localName? ∧ skeleton first = skeleton second := by
  induction h with
  | rel root other h =>
    cases h with
    | rename h => exact ⟨h.localName?_eq, by rw [skeleton, h.children_eq, skeleton]⟩
    | sections h => exact ⟨h.localName?_eq, h.children.flatMap_eq⟩
  | refl root => exact ⟨rfl, rfl⟩
  | symm root other _ ih => exact ⟨ih.1.symm, ih.2.symm⟩
  | trans root between other _ _ ih ih' => exact ⟨ih.1.trans ih'.1, ih.2.trans ih'.2⟩

end Edit

/-! ### What is loaded -/

namespace Entry

theorem agree_ofItems {entry : List String → Entry} {item : String} (node : Node)
    (h : (entry []).IsIdle) :
    Agree [ofItems entry item node]
      (if textsNamed item node.children = [] then []
        else [entry (textsNamed item node.children)]) := by
  unfold ofItems
  cases node.children.findSome? misnamed? with
  | some name => exact .misnamed name _ _
  | none =>
    change Agree [entry (textsNamed item node.children)] _
    split
    · next hempty =>
      rw [hempty]
      exact .idle h .nil
    · exact .refl _

theorem agree_ofNode? (node : Node) : Agree (ofNode? node).toList (skeletonOfNode node) := by
  cases hm : misnamed? node with
  | some name =>
    rw [ofNode?_of_misnamed? hm]
    exact .misnamed name _ _
  | none =>
    rcases ofNode?_cases hm with
      ⟨hn, hx⟩ | ⟨hn, hx⟩ | ⟨hn, hx⟩ | ⟨hn, hx⟩ | ⟨key, hn, hk, hx⟩ <;>
      simp only [hx, skeletonOfNode, hn]
    · exact .nil
    · exact agree_ofItems node isIdle_endpoints
    · exact agree_ofItems node isIdle_workerArguments
    · exact .refl _
    · simp only [unbindable, List.mem_cons, List.not_mem_nil, or_false, not_or] at hk
      simp only [hk, if_false]
      split
      · next hempty =>
        rw [hempty]
        exact .idle (isIdle_setting key) .nil
      · exact .refl _

theorem agree_ofSection (node : Node) : Agree (ofSection node) (skeletonOfSection node) := by
  unfold ofSection skeletonOfSection
  cases misnamed? node with
  | some name => exact .misnamed name _ _
  | none =>
    simp only
    split
    · rw [List.filterMap_eq_flatMap_toList]
      exact .flatMap agree_ofNode? _
    · exact .nil

/-- A document says what its skeleton says, up to the first name that cannot be read. -/
theorem agree_ofRoot (root : Node) : Agree (ofRoot root) (skeleton root) :=
  .flatMap agree_ofSection _

/-- In a skeleton there is no name that cannot be read. -/
theorem misnamed_not_mem_skeleton (root : Node) (name : String) :
    misnamed name ∉ skeleton root := by
  intro hm
  obtain ⟨node, -, hm⟩ := List.mem_flatMap.1 hm
  unfold skeletonOfSection at hm
  split at hm
  · obtain ⟨x, -, hm⟩ := List.mem_flatMap.1 hm
    unfold skeletonOfNode at hm
    split at hm <;> (try split_ifs at hm) <;> simp at hm
  · cases hm

end Entry

namespace Settings

theorem isReadable_enterAll_of_not_mem {s : Settings} {entries : List Entry}
    (h : ∀ name, Entry.misnamed name ∉ entries) : (s.enterAll entries).IsReadable := by
  intro name hname
  obtain ⟨entry, hmem, hf⟩ := List.exists_of_findSome?_eq_some (enterAll_eq_error_iff.1 hname)
  cases entry with
  | misnamed other => exact h other hmem
  | setting key text =>
    by_cases ht : text = ""
    · subst ht
      cases hf
    · rw [Entry.fault?_setting ht] at hf
      split at hf
      · cases hf
      · simp at hf
  | endpoints items => cases hf
  | workerArguments items => cases hf
  | port text => cases hf

theorem enterAll_skeleton {s : Settings} {root : Node}
    (h : (s.enterAll (Entry.ofRoot root)).IsReadable) :
    s.enterAll (Entry.ofRoot root) = s.enterAll (Entry.skeleton root) :=
  (Entry.agree_ofRoot root).enterAll_eq h
    (isReadable_enterAll_of_not_mem (Entry.misnamed_not_mem_skeleton root))

/-- Documents that edits turn into each other are loaded with the same result, but for the identity,
and with the same events, unless a name that cannot be read ends one of the loads. -/
theorem ofTree_of_edits {first second : Node} (h : Relation.EqvGen Edit first second)
    {instanceId other : String} (hfirst : (ofTree instanceId first).IsReadable)
    (hsecond : (ofTree other second).IsReadable) :
    ofTree other second = (·.withIdentity other) <$> ofTree instanceId first := by
  obtain ⟨hn, hskeleton⟩ := Edit.skeleton_eq h
  have heq : ofTree instanceId first = ofTree instanceId second :=
    ofTree_eq_of_enterAll hn
      (fun s hf hs => by rw [enterAll_skeleton hf, enterAll_skeleton hs, hskeleton]) hfirst
      ((isReadable_ofTree_iff other).2 hsecond)
  rw [heq]
  exact ofTree_withIdentity instanceId other second

/-- A document with a host, and the same one with a qualified root, a section of another name, and
in the host a blank, a comment and an element around the text. -/
theorem ofTree_of_edits_of_host :
    let inner (name : String) (content : List Node) : Node := .element ⟨none, name⟩ none [] content
    let first := inner "properties" [inner "server" [inner "host" [.text "a"]]]
    let second := Node.element ⟨some "x", "properties"⟩ (some "urn:x") []
      [inner "server" [inner "host" [.text " ", inner "b" [.text "a"], .comment "c"]], inner "o" []]
    Relation.EqvGen Edit first second ∧ (ofTree "v" first).IsReadable ∧
      (ofTree "w" second).IsReadable ∧
      (ofTree "v" first).result = .ok { defaults "v" with host := some "a" } ∧
      ofTree "w" second = (·.withIdentity "w") <$> ofTree "v" first := by
  intro inner first second
  have hf : (ofTree "v" first).result = .ok { defaults "v" with host := some "a" } := by
    decide +kernel
  have hs : (ofTree "w" second).result = .ok { defaults "w" with host := some "a" } := by
    decide +kernel
  have hfirst : (ofTree "v" first).IsReadable := fun name => by rw [hf]; nofun
  have hsecond : (ofTree "w" second).IsReadable := fun name => by rw [hs]; nofun
  let document (content : List Node) : Node :=
    .element ⟨some "x", "properties"⟩ (some "urn:x") []
      [inner "server" [inner "host" content], inner "o" []]
  -- An edit of the host is one of the server section, and that one of the document.
  have hhost : ∀ content other, OfValue (inner "host" content) (inner "host" other) →
      Relation.EqvGen Edit (document content) (document other) := fun content other h =>
    .rel _ _ (.sections (.intro _ _ _ (.server (.intro [] _
      (.intro _ _ _ (.setting (.intro [] [] ⟨by simp [inner, Node.localName?],
        by simp [inner, Node.localName?], h⟩)))))))
  have hedits : Relation.EqvGen Edit first second := by
    refine .trans _ (.element ⟨some "x", "properties"⟩ (some "urn:x") []
      [inner "server" [inner "host" [.text "a"]]]) _ (.rel _ _ (.rename (.intro ..))) ?_
    refine .trans _ (document [.text "a"]) _ (.rel _ _ (.sections (.intro _ _ _
      (.other (.intro [inner "server" [inner "host" [.text "a"]]] [] ?_))))) ?_
    · simp [inner, Node.localName?]
    refine .trans _ (document [inner "b" [.text "a"]]) _ (hhost _ _ (.content (.intro _ _ _
      (.wrap [] [.text "a"] [] ⟨none, "b"⟩ none [])))) ?_
    refine .trans _ (document [inner "b" [.text "a"], .comment "c"]) _ (hhost _ _
      (.content (.intro _ _ _ (.remark (.intro [inner "b" [.text "a"]] [] rfl))))) ?_
    exact hhost _ _ (.before _ _ _ _ (by decide))
  exact ⟨hedits, hfirst, hsecond, hf, ofTree_of_edits hedits hfirst hsecond⟩

/-- A section that is added with an undeclared qualifier keeps a document from being loaded. -/
theorem ofTree_of_misnamed_edit :
    let root (sections : List Node) : Node := .element ⟨none, "properties"⟩ none [] sections
    let first := root []
    let second := root [.element ⟨none, "p:x"⟩ none [] []]
    Relation.EqvGen Edit first second ∧
      (ofTree "w" first).result = .ok (defaults "w") ∧
      (ofTree "w" second).result = .error (.invalidName "p:x") ∧
      (ofOctets "w" "" "<properties><p:x/><?xmlfoo?></properties>".toUTF8.toList).result =
        .error (.invalidName "p:x") := by
  intro root first second
  refine ⟨.rel _ _ (.sections (.intro _ _ _ (.other (.intro [] [] ?_)))), ?_, ?_, ?_⟩
  · simp [Node.localName?]
  · decide +kernel
  · decide +kernel
  · decide +kernel

end Settings

end LayeredConfig

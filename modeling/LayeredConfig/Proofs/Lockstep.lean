import LayeredConfig.Proofs.Gist
import LayeredConfig.Proofs.Results

/-! Two readings of one text. References are kept in place, and the readings know different things
of their documents, so that namespaces, values of attributes and findings come out differently. As
long as neither ends early they go through the same modes, open and close elements with the same
written names, and collect the same text: the gist of what they read is the same. -/

namespace LayeredConfig.Xml

open Reading (Ensures Both)

/-! ### The gist of open elements -/

namespace Gist

def add (g : Gist) (text : List Char) (children : List Gist) : Gist :=
  ⟨g.name, g.text ++ text, g.children ++ children⟩

/-- Whether the text directly in an element counts that is inside so many others. -/
def countsText (depth : Nat) (g : Gist) : Bool :=
  2 ≤ depth && !(depth == 2 && g.isList)

theorem ofEntry_add {g g' : Gist} {text text' : List Char} (h : g.ofEntry = g'.ofEntry)
    (htext : g.isList = false → text = text') (children : List Gist) :
    (g.add text children).ofEntry = (g'.add text' children).ofEntry := by
  have hname : g.name = g'.name := by rw [← name_ofEntry g, h, name_ofEntry]
  have hinside : g.children = g'.children := by rw [← children_ofEntry g, h, children_ofEntry]
  have hlist : ∀ (other : Gist) (t : List Char), (other.add t children).isList = other.isList :=
    fun _ _ => rfl
  have hsame : g.isList = g'.isList := by rw [isList, isList, hname]
  rw [ofEntry, ofEntry, hlist, hlist, ← hsame]
  split
  · rw [withoutText, withoutText, add, add, hname, hinside]
  · next hno =>
    have hplain : g.isList = false := Bool.eq_false_iff.2 hno
    rw [add, add, hname, hinside, text_eq_of_ofEntry_eq (hsame.symm.trans hplain) h,
      htext hplain]

/-- What counts of an element determines what counts of it with more in it. -/
theorem core_add {depth : Nat} {g g' : Gist} {text text' : List Char}
    {children children' : List Gist} (h : core depth g = core depth g')
    (htext : g.countsText depth = true → text = text')
    (hchildren : children.map (core (depth + 1)) = children'.map (core (depth + 1))) :
    core depth (g.add text children) = core depth (g'.add text' children') := by
  match depth with
  | 0 =>
    injection h with hname _ hmap
    simp only [core, ofRoot, add, List.map_append, hname, hmap] at hchildren ⊢
    rw [hchildren]
  | 1 =>
    injection h with hname _ hmap
    simp only [core, ofSection, add, List.map_append, hname, hmap] at hchildren ⊢
    rw [hchildren]
  | 2 =>
    have hmore : children = children' := by simpa [core] using hchildren
    rw [hmore]
    exact ofEntry_add h (fun hlist => htext (by simp [countsText, hlist])) children'
  | _ + 3 =>
    have hsame : g = g' := h
    have hmore : children = children' := by simpa [core] using hchildren
    rw [hsame, hmore, htext (by simp [countsText])]

theorem core_of_le {depth : Nat} (h : 3 ≤ depth) (g : Gist) : core depth g = g := by
  match depth with
  | _ + 3 => rfl

/-- What counts of the innermost of some elements and of those around it. -/
def cores : List Gist → List Gist
  | [] => []
  | g :: gs => core gs.length g :: cores gs

theorem length_cores (gs : List Gist) : (cores gs).length = gs.length := by
  induction gs with
  | nil => rfl
  | cons g gs ih => simp [cores, ih]

def addInside (text : List Char) (children : List Gist) : List Gist → List Gist
  | [] => []
  | g :: gs => g.add text children :: gs

theorem addInside_nil (gs : List Gist) : addInside [] [] gs = gs := by
  match gs with
  | [] => rfl
  | ⟨name, text, children⟩ :: gs => simp [addInside, add]

theorem cores_addInside {gs gs' : List Gist} {text text' : List Char}
    {children children' : List Gist} (h : cores gs = cores gs')
    (htext : ∀ g rest, gs = g :: rest → g.countsText rest.length = true → text = text')
    (hchildren : children.map (core gs.length) = children'.map (core gs.length)) :
    cores (addInside text children gs) = cores (addInside text' children' gs') := by
  have hlength : gs.length = gs'.length := by rw [← length_cores, h, length_cores]
  match gs, gs' with
  | [], [] => rfl
  | g :: rest, g' :: rest' =>
    injection h with hcore hrest
    have hlength' : rest.length = rest'.length := Nat.succ.inj hlength
    rw [← hlength'] at hcore
    simp only [addInside, cores, ← hlength', hrest,
      core_add hcore (htext g rest rfl) hchildren]

end Gist

namespace Reader

/-- The gist of an open element with text pending in it. -/
def gistOf (e : OpenElement) (pending : List Char) : Gist :=
  ⟨e.name.text, Node.textOfAll e.children.reverse ++ pending.reverse,
    Node.gistsOf e.children.reverse⟩

def gists (r : Reader) : List Gist :=
  match r.elements with
  | [] => []
  | e :: es => gistOf e r.pending :: es.map (gistOf · [])

theorem length_gists (r : Reader) : r.gists.length = r.elements.length := by
  unfold gists
  split <;> simp_all

theorem gists_of_pending {r : Reader} (hr : r.pending = []) :
    r.gists = r.elements.map (gistOf · []) := by
  unfold gists
  cases r.elements <;> simp [hr]

theorem gists_close {r : Reader} (hr : r.pending = []) (es : List OpenElement) :
    gists { r with elements := es } = es.map (gistOf · []) :=
  gists_of_pending hr

theorem gists_open {r : Reader} (hr : r.pending = []) (e : OpenElement) (mode : Mode) :
    gists { r with elements := e :: r.elements, mode := mode } = gistOf e [] :: r.gists := by
  rw [gists_of_pending hr]
  simp [gists, hr]

theorem gists_prepend (r : Reader) (cs : List Char) (mode : Mode) :
    gists { r with pending := cs ++ r.pending, mode := mode } =
      Gist.addInside cs.reverse [] r.gists := by
  unfold gists
  cases r.elements <;> simp [Gist.addInside, Gist.add, gistOf]

theorem gists_addChild {r : Reader} (hr : r.pending = []) (node : Node) :
    (r.addChild node).gists = Gist.addInside node.textInside node.gist?.toList r.gists := by
  unfold gists addChild
  cases he : r.elements with
  | nil => simp [he, Gist.addInside]
  | cons e es =>
    simp [hr, Gist.addInside, Gist.add, gistOf,
      Node.textOfAll_append, Node.textOfAll, Node.gistsOf_append, Node.gistsOf]

theorem gists_flush (r : Reader) : r.flush.gists = r.gists := by
  unfold flush
  split
  · rfl
  · unfold addChild
    cases hr : r.elements with
    | nil => simp [gists, hr]
    | cons e es =>
      simp [gists, hr, gistOf, Node.textOfAll_append, Node.gistsOf_append, Node.textOfAll,
        Node.gistsOf, Node.textInside, Node.gist?]

/-- Where nodes are added nothing else of the reader changes. -/
theorem addChild_eq (r : Reader) (node : Node) :
    r.addChild node = { r with elements := (r.addChild node).elements } := by
  unfold addChild
  split <;> rfl

theorem flush_eq (r : Reader) :
    r.flush = { r with elements := r.flush.elements, pending := [] } := by
  unfold flush
  split
  · next h => rw [← List.isEmpty_iff.1 h]
  · rw [addChild_eq]

/-! ### Readers on one level -/

def gistOfRoot (root : Option Node) : Option (Option Gist) :=
  root.map fun node => node.gist?.map Gist.ofRoot

/-- Whether readers of documents have read the same, as far as it counts. -/
structure Level (r s : Reader) : Prop where
  cores_eq : Gist.cores r.gists = Gist.cores s.gists
  root_eq : gistOfRoot r.root = gistOfRoot s.root
  hasDoctype_eq : r.hasDoctype = s.hasDoctype
  outer_eq : r.position.outer = none
  outer_eq' : s.position.outer = none

namespace Level

variable {r s : Reader} (h : Level r s)
include h

theorem length_eq : r.elements.length = s.elements.length := by
  rw [← length_gists, ← length_gists, ← Gist.length_cores, h.cores_eq, Gist.length_cores]

theorem isEmpty_eq : r.elements.isEmpty = s.elements.isEmpty := by
  rw [Bool.eq_iff_iff, List.isEmpty_iff_length_eq_zero, List.isEmpty_iff_length_eq_zero,
    h.length_eq]

theorem isSome_eq : r.root.isSome = s.root.isSome := by
  have hroot := congrArg Option.isSome h.root_eq
  rwa [gistOfRoot, gistOfRoot, Option.isSome_map, Option.isSome_map] at hroot

theorem turn (mode mode' : Mode) : Level (r.turn mode) (s.turn mode') :=
  ⟨h.cores_eq, h.root_eq, h.hasDoctype_eq, h.outer_eq, h.outer_eq'⟩

theorem move (position position' : Position) (hr : position.outer = none)
    (hs : position'.outer = none) :
    Level { r with position := position } { s with position := position' } :=
  ⟨h.cores_eq, h.root_eq, h.hasDoctype_eq, hr, hs⟩

theorem prepend (cs : List Char) (mode mode' : Mode) :
    Level { r with pending := cs ++ r.pending, mode := mode }
      { s with pending := cs ++ s.pending, mode := mode' } := by
  refine ⟨?_, h.root_eq, h.hasDoctype_eq, h.outer_eq, h.outer_eq'⟩
  rw [gists_prepend, gists_prepend]
  exact Gist.cores_addInside h.cores_eq (fun _ _ _ _ => rfl) rfl

theorem flush : Level r.flush s.flush := by
  refine ⟨?_, ?_, ?_, ?_, ?_⟩
  · rw [gists_flush, gists_flush]
    exact h.cores_eq
  · rw [flush_eq r, flush_eq s]
    exact h.root_eq
  · rw [flush_eq r, flush_eq s]
    exact h.hasDoctype_eq
  · rw [flush_eq r]
    exact h.outer_eq
  · rw [flush_eq s]
    exact h.outer_eq'

/-- Nodes that count alike are added. -/
theorem addChild (hr : r.pending = []) (hs : s.pending = []) {node node' : Node}
    (htext : ∀ g rest, r.gists = g :: rest → g.countsText rest.length = true →
      node.textInside = node'.textInside)
    (hgist : node.gist?.toList.map (Gist.core r.gists.length) =
      node'.gist?.toList.map (Gist.core r.gists.length)) :
    Level (r.addChild node) (s.addChild node') := by
  refine ⟨?_, ?_, ?_, ?_, ?_⟩
  · rw [gists_addChild hr, gists_addChild hs]
    exact Gist.cores_addInside h.cores_eq htext hgist
  · rw [addChild_eq r, addChild_eq s]
    exact h.root_eq
  · rw [addChild_eq r, addChild_eq s]
    exact h.hasDoctype_eq
  · rw [addChild_eq r]
    exact h.outer_eq
  · rw [addChild_eq s]
    exact h.outer_eq'

end Level

/-- Readers on one level between which no text is pending. -/
structure Bare (r s : Reader) : Prop extends Level r s where
  pending_eq : r.pending = []
  pending_eq' : s.pending = []

end Reader

/-! ### Readers that are alike -/

namespace Mode

/-- Whether readers stand in the same piece of markup, as far as it counts. Of a tag the name
counts, and of an attribute's value what ends it. -/
inductive Alike : Mode → Mode → Prop
  | opening : Alike .opening .opening
  | bang (seen : List Char) : Alike (.bang seen) (.bang seen)
  | comment (state : CommentState) : Alike (.comment state) (.comment state)
  | characters (reversed : List Char) : Alike (.characters reversed) (.characters reversed)
  | target (reversed : List Char) : Alike (.target reversed) (.target reversed)
  | targetEnd (name : String) : Alike (.targetEnd name) (.targetEnd name)
  | instruction (name : String) (reversed : List Char) :
    Alike (.instruction name reversed) (.instruction name reversed)
  | tagName (reversed : List Char) : Alike (.tagName reversed) (.tagName reversed)
  | tag {first second : Tag} (h : first.name = second.name) (divided : Bool) :
    Alike (.tag first divided) (.tag second divided)
  | attributeName {first second : Tag} (h : first.name = second.name) (reversed : List Char) :
    Alike (.attributeName first reversed) (.attributeName second reversed)
  | attributeSign {first second : OpenAttribute} (h : first.tag.name = second.tag.name) :
    Alike (.attributeSign first) (.attributeSign second)
  | attributeMark {first second : OpenAttribute} (h : first.tag.name = second.tag.name) :
    Alike (.attributeMark first) (.attributeMark second)
  | attributeValue {first second : OpenAttribute} (h : first.tag.name = second.tag.name)
    (mark : Char) {state other : ValueState} (hs : state.reference = other.reference) :
    Alike (.attributeValue first mark state) (.attributeValue second mark other)
  | emptyTag {first second : Tag} (h : first.name = second.name) :
    Alike (.emptyTag first) (.emptyTag second)
  | endName (reversed : List Char) : Alike (.endName reversed) (.endName reversed)
  | endSpace (name : List Char) : Alike (.endSpace name) (.endSpace name)
  | doctype (start other : Position) (extent : DoctypeExtent) (reversed reversed' : List Char) :
    Alike (.doctype start extent reversed) (.doctype other extent reversed')

end Mode

namespace Reader

/-- Whether readers have read the same and stand in the same, as far as it counts. -/
inductive Alike (r s : Reader) : Prop
  | content (level : Level r s) {brackets brackets' : Nat} (mode_eq : r.mode = .content brackets)
    (mode_eq' : s.mode = .content brackets')
  | reference (level : Level r s) {state : ReferenceState} (mode_eq : r.mode = .reference state)
    (mode_eq' : s.mode = .reference state)
  | markup (bare : Bare r s) {mode mode' : Mode} (mode_eq : r.mode = mode)
    (mode_eq' : s.mode = mode') (modes : mode.Alike mode')
  | ended (level : Level r s) (mode_eq : r.mode = .ended) (mode_eq' : s.mode = .ended)

section
variable {r s : Reader}

theorem Level.toContent (h : Level r s) (brackets brackets' : Nat) :
    Alike (r.turn (.content brackets)) (s.turn (.content brackets')) :=
  .content (h.turn _ _) rfl rfl

theorem Level.addCharacter (h : Level r s) (c : Char) (brackets brackets' : Nat) :
    Alike ((r.addCharacter c).turn (.content brackets))
      ((s.addCharacter c).turn (.content brackets')) :=
  .content (h.prepend [c] _ _) rfl rfl

theorem Bare.toMarkup (h : Bare r s) {mode mode' : Mode} (modes : mode.Alike mode') :
    Alike (r.turn mode) (s.turn mode') :=
  .markup ⟨h.turn _ _, h.pending_eq, h.pending_eq'⟩ rfl rfl modes

theorem Level.flush_bare (h : Level r s) : Bare r.flush s.flush := by
  refine ⟨h.flush, ?_, ?_⟩
  · rw [flush_eq]
  · rw [flush_eq]

/-- A remark or a reference is added. -/
theorem Bare.addChild_bare (h : Bare r s) {node node' : Node}
    (htext : node.textInside = node'.textInside) (hgist : node.gist? = node'.gist?) :
    Bare (r.addChild node) (s.addChild node') := by
  refine ⟨h.addChild h.pending_eq h.pending_eq' (fun _ _ _ _ => htext) (by rw [hgist]), ?_, ?_⟩
  · rw [addChild_eq]
    exact h.pending_eq
  · rw [addChild_eq]
    exact h.pending_eq'

/-- A finished element is placed. -/
theorem Bare.addElement (h : Bare r s) {node node' : Node} {g g' : Gist} (hg : node.gist? = some g)
    (hg' : node'.gist? = some g')
    (hcore : Gist.core r.elements.length g = Gist.core r.elements.length g') :
    Alike (r.addElement node) (s.addElement node') := by
  have hlength := h.length_eq
  unfold Reader.addElement
  match hr : r.elements, hs : s.elements with
  | [], [] =>
    rw [hr] at hcore
    refine .content ⟨rfl, ?_, h.hasDoctype_eq, h.outer_eq, h.outer_eq'⟩ rfl rfl
    simp only [gistOfRoot, Option.map_some, hg, hg']
    rw [show g.ofRoot = g'.ofRoot from hcore]
  | _ :: _, _ :: _ =>
    refine (h.addChild h.pending_eq h.pending_eq' ?_ ?_).toContent 0 0
    · intro k rest hgists hcounts
      have hdepth : 3 ≤ r.elements.length := by
        have hlong : 2 ≤ rest.length := by
          rw [Gist.countsText, Bool.and_eq_true, decide_eq_true_eq] at hcounts
          exact hcounts.1
        rw [← length_gists, hgists, List.length_cons]
        omega
      rw [Gist.core_of_le hdepth, Gist.core_of_le hdepth] at hcore
      rw [Node.textInside_of_gist? hg, Node.textInside_of_gist? hg', hcore]
    · rw [hg, hg', length_gists]
      simp only [Option.toList_some, List.map_cons, List.map_nil, hcore]
  | [], _ :: _ => simp [hr, hs] at hlength
  | _ :: _, [] => simp [hr, hs] at hlength

/-- An element with the same written name is opened. -/
theorem Bare.open (h : Bare r s) {e e' : OpenElement} (hname : e.name.text = e'.name.text)
    (he : e.children = []) (he' : e'.children = []) :
    Alike { r with elements := e :: r.elements, mode := .content 0 }
      { s with elements := e' :: s.elements, mode := .content 0 } := by
  refine .content ⟨?_, h.root_eq, h.hasDoctype_eq, h.outer_eq, h.outer_eq'⟩ rfl rfl
  rw [gists_open h.pending_eq, gists_open h.pending_eq', Gist.cores, Gist.cores, h.cores_eq,
    length_gists, length_gists, h.length_eq, gistOf, gistOf, hname, he, he']

end

/-! ### Steps outside tags -/

section
variable {r s : Reader}

theorem both_leave (h : Level r s) : Both r.leave s.leave Alike := by
  have hleave : ∀ t : Reader, Ensures t.leave (· = t.turn .ended) := by
    intro t
    unfold leave
    refine .after fun x => ?_
    split
    · exact .pure rfl
    · exact .fail _ _
  refine .of_ensures (hleave r) (hleave s) ?_
  rintro _ _ rfl rfl
  exact .ended (h.turn _ _) rfl rfl

theorem both_readContent (h : Level r s) {brackets brackets' : Nat}
    (hr : r.mode = .content brackets) (hs : s.mode = .content brackets') (c : Char) :
    Both (r.readContent brackets c) (s.readContent brackets' c) Alike := by
  unfold readContent
  rw [← h.isEmpty_eq, ← h.isSome_eq]
  by_cases hlt : c = '<'
  · simp only [hlt, if_true]
    exact .pure (h.flush_bare.toMarkup .opening)
  simp only [if_neg hlt]
  by_cases houtside : r.elements.isEmpty = true
  · simp only [houtside, if_true]
    split
    · exact .pure (.content h hr hs)
    · split
      · exact both_leave h
      · exact .fail_left _ _ _
  simp only [if_neg houtside]
  split_ifs
  · exact .pure (.reference (h.turn _ _) rfl rfl)
  · exact .pure (h.addCharacter c _ _)
  · exact .fail_left _ _ _
  · exact .fail_left _ _ _
  · exact .fail_left _ _ _
  · exact .fail_right _ _ _
  · exact .pure (h.addCharacter c _ _)
  · exact .fail_left _ _ _
  · exact .fail_left _ _ _

theorem both_readOpening (h : Bare r s) (c : Char) :
    Both (r.readOpening c) (s.readOpening c) Alike := by
  unfold readOpening isOutside
  rw [← h.isEmpty_eq, ← h.isSome_eq, h.outer_eq, h.outer_eq']
  simp only [Option.isSome_none, Bool.false_eq_true, if_false]
  split_ifs
  · exact .pure (h.toMarkup (.bang []))
  · exact .pure (h.toMarkup (.target []))
  · exact both_leave h.toLevel
  · exact .fail_left _ _ _
  · exact .pure (h.toMarkup (.endName []))
  · exact both_leave h.toLevel
  · exact .pure (h.toMarkup (.tagName [c]))
  · exact .fail_left _ _ _

theorem both_readBang (h : Bare r s) (seen : List Char) (c : Char) :
    Both (r.readBang seen c) (s.readBang seen c) Alike := by
  unfold readBang
  rw [← h.isEmpty_eq, ← h.hasDoctype_eq, ← Option.not_isSome, ← Option.not_isSome, ← h.isSome_eq]
  dsimp only
  split_ifs
  · exact .pure (h.toMarkup (.comment _))
  · exact .pure (h.toMarkup (.characters []))
  · refine .pure (.markup ⟨⟨h.cores_eq, h.root_eq, rfl, h.outer_eq, h.outer_eq'⟩, h.pending_eq,
      h.pending_eq'⟩ rfl rfl (.doctype ..))
  · exact .pure (h.toMarkup (.bang _))
  · exact both_leave h.toLevel
  · exact .fail_left _ _ _

theorem both_readComment (h : Bare r s) (state : CommentState) (c : Char) :
    Both (r.readComment state c) (s.readComment state c) Alike := by
  unfold readComment
  refine (state.both_step _ _ c).bind ?_
  rintro next _ rfl
  cases next with
  | unfinished state => exact .pure (h.toMarkup (.comment state))
  | finished content => exact .pure ((h.addChild_bare rfl rfl).toContent 0 0)

theorem both_readCharacters (h : Bare r s) (reversed : List Char) (c : Char) :
    Both (r.readCharacters reversed c) (s.readCharacters reversed c) Alike := by
  unfold readCharacters
  split_ifs
  · exact .pure (.content (h.prepend _ _ _) rfl rfl)
  · exact .fail_left _ _ _
  · exact .pure (h.toMarkup (.characters _))
  · exact .fail_left _ _ _

theorem both_readTarget (h : Bare r s) (reversed : List Char) (c : Char) :
    Both (r.readTarget reversed c) (s.readTarget reversed c) Alike := by
  unfold readTarget
  by_cases hgoes : (if reversed.isEmpty then isColonNameStart c else isColonNamePart c) = true
  · simp only [hgoes, if_true]
    exact .pure (h.toMarkup (.target _))
  simp only [if_neg hgoes]
  by_cases hrefused : (reversed.isEmpty || decide (c = '\x00')) = true
  · simp only [hrefused, if_true]
    exact .fail_left _ _ _
  simp only [if_neg hrefused]
  refine .after fun _ _ => ?_
  split_ifs
  · exact .pure (h.toMarkup (.instruction _ _))
  · exact .pure (h.toMarkup (.targetEnd _))
  · exact .fail_left _ _ _

theorem both_addInstruction (h : Bare r s) (name : String) (data : List Char) :
    Alike (r.addInstruction name data) (s.addInstruction name data) :=
  (h.addChild_bare rfl rfl).toContent 0 0

theorem both_readInstruction (h : Bare r s) {name : String} {reversed : List Char}
    (hr : r.mode = .instruction name reversed) (hs : s.mode = .instruction name reversed)
    (c : Char) :
    Both (r.readInstruction name reversed c) (s.readInstruction name reversed c) Alike := by
  unfold readInstruction
  split_ifs
  · exact .pure (both_addInstruction h _ _)
  · exact .pure (.markup h hr hs (.instruction _ _))
  · exact .pure (h.toMarkup (.instruction _ _))
  · exact .fail_left _ _ _

/-- A reference that stays in its place becomes a node, whatever it refers to. -/
theorem ensures_refer (readEntity : EntityReader) (r : Reader) (name : String) :
    Ensures (r.refer readEntity name) (· = r.flush.addChild (.reference name)) := by
  unfold refer
  refine Ensures.readThe.bind ?_
  rintro _ rfl
  refine .after fun found => ?_
  cases found with
  | none => exact .pure rfl
  | some e =>
    dsimp only
    split
    · exact .after fun _ => .after fun _ => .after fun _ => .pure rfl
    · exact .after fun _ => .after fun _ => .after fun _ => .pure rfl

theorem both_readReference (readEntity : EntityReader) (h : Level r s) (state : ReferenceState)
    (c : Char) :
    Both (r.readReference readEntity state c) (s.readReference readEntity state c) Alike := by
  unfold readReference
  refine (state.both_step _ _ c).bind ?_
  rintro next _ rfl
  cases next with
  | unfinished state => exact .pure (.reference (h.turn _ _) rfl rfl)
  | finished piece =>
    cases piece with
    | character d => exact .pure (h.addCharacter d 0 0)
    | reference name =>
      have hafter := h.move (r.position.next c) (s.position.next c) h.outer_eq h.outer_eq'
      refine .bind (.of_ensures (ensures_refer _ _ _) (ensures_refer _ _ _) fun _ _ => And.intro) ?_
      rintro _ _ ⟨rfl, rfl⟩
      exact .pure ((hafter.flush_bare.addChild_bare rfl rfl).toContent 0 0)

end

/-! ### Steps inside tags -/

section
variable {r s : Reader}

theorem both_openElement (h : Bare r s) {tag other : Tag} (hname : tag.name = other.name) :
    Both (r.openElement tag) (s.openElement other) Alike := by
  unfold openElement
  refine .bind (.of_ensures (tag.ensures_finish _ _) (other.ensures_finish _ _)
    fun _ _ => And.intro) fun first second ⟨hfirst, hsecond⟩ => ?_
  refine .after fun _ _ => .pure ?_
  exact h.open (hfirst.trans ((congrArg _ hname).trans hsecond.symm)) rfl rfl

theorem both_addEmptyElement (h : Bare r s) {tag other : Tag} (hname : tag.name = other.name) :
    Both (r.addEmptyElement tag) (s.addEmptyElement other) Alike := by
  unfold addEmptyElement
  refine .bind (.of_ensures (tag.ensures_finish _ _) (other.ensures_finish _ _)
    fun _ _ => And.intro) fun first second ⟨hfirst, hsecond⟩ => ?_
  refine .after fun _ _ => .pure (h.addElement rfl rfl ?_)
  rw [hfirst, hsecond, hname]

theorem both_closeElement (h : Bare r s) (name : List Char) :
    Both (r.closeElement name) (s.closeElement name) Alike := by
  have hcores := h.cores_eq
  rw [gists_of_pending h.pending_eq, gists_of_pending h.pending_eq'] at hcores
  have hlength := h.length_eq
  unfold closeElement
  match hr : r.elements, hs : s.elements with
  | [], _ => exact .fail_left _ _ _
  | _ :: _, [] => exact .fail_right _ _ _
  | e :: es, e' :: es' =>
    rw [hr, hs] at hcores hlength
    injection hcores with hcore hrest
    rw [List.length_map, List.length_map, ← Nat.succ.inj hlength] at hcore
    have hbare : Bare { r with elements := es } { s with elements := es' } := by
      refine ⟨⟨?_, h.root_eq, h.hasDoctype_eq, h.outer_eq, h.outer_eq'⟩, h.pending_eq,
        h.pending_eq'⟩
      rwa [gists_close h.pending_eq, gists_close h.pending_eq']
    have hgist : ∀ o : OpenElement, (Node.element o.name o.namespaceName o.attributes
        o.children.reverse).gist? = some (gistOf o []) := by
      intro o
      rw [gistOf, List.reverse_nil, List.append_nil, Node.gist?]
    dsimp only
    split_ifs
    · exact .pure (hbare.addElement (hgist e) (hgist e') hcore)
    · exact .fail_right _ _ _
    · exact .fail_left _ _ _
    · exact .fail_left _ _ _

theorem both_readName (reversed : List Char) :
    Both (readName reversed) (readName reversed) Eq := by
  have hname : Ensures (readName reversed) (· = QualifiedName.ofChars reversed.reverse) := by
    unfold readName QualifiedName.ofChars
    dsimp only
    split
    · next name hname =>
      rw [hname]
      split_ifs
      · exact .after fun _ => .pure rfl
      · exact .pure rfl
    · split_ifs
      · exact .after fun _ => .after fun _ => .pure rfl
      · exact .after fun _ => .pure rfl
  exact .of_ensures hname hname fun _ _ hfirst hsecond => hfirst.trans hsecond.symm

theorem both_readTag (h : Bare r s) {tag other : Tag} (hname : tag.name = other.name)
    (divided : Bool) (c : Char) :
    Both (r.readTag tag divided c) (s.readTag other divided c) Alike := by
  unfold readTag
  split_ifs
  · exact .pure (h.toMarkup (.tag hname true))
  · exact both_openElement h hname
  · exact .pure (h.toMarkup (.emptyTag hname))
  · exact .pure (h.toMarkup (.attributeName hname [c]))
  · exact .fail_left _ _ _

theorem both_readTagName (h : Bare r s) (reversed : List Char) (c : Char) :
    Both (r.readTagName reversed c) (s.readTagName reversed c) Alike := by
  unfold readTagName
  split_ifs
  · exact .pure (h.toMarkup (.tagName _))
  · exact .fail_left _ _ _
  · exact (both_readName reversed).bind fun name _ hname => by
      subst hname
      exact both_readTag h rfl false c

theorem both_readAttributeSign (h : Bare r s) {first second : OpenAttribute}
    (hname : first.tag.name = second.tag.name) (c : Char) :
    Both (r.readAttributeSign first c) (s.readAttributeSign second c) Alike := by
  unfold readAttributeSign
  split_ifs
  · exact .pure (h.toMarkup (.attributeSign hname))
  · exact .pure (h.toMarkup (.attributeMark hname))
  · exact .fail_left _ _ _

theorem both_readAttributeName (h : Bare r s) {tag other : Tag} (hname : tag.name = other.name)
    (reversed : List Char) (c : Char) :
    Both (r.readAttributeName tag reversed c) (s.readAttributeName other reversed c) Alike := by
  unfold readAttributeName
  split_ifs
  · exact .pure (h.toMarkup (.attributeName hname _))
  · exact .fail_left _ _ _
  · exact .after fun _ _ => both_readAttributeSign h hname c

theorem both_readAttributeMark (h : Bare r s) {first second : OpenAttribute}
    (hname : first.tag.name = second.tag.name) (hr : r.mode = .attributeMark first)
    (hs : s.mode = .attributeMark second) (c : Char) :
    Both (r.readAttributeMark first c) (s.readAttributeMark second c) Alike := by
  unfold readAttributeMark
  split_ifs
  · exact .pure (.markup h hr hs (.attributeMark hname))
  · exact .pure (h.toMarkup (.attributeValue hname c rfl))
  · exact .fail_left _ _ _

theorem both_addAttribute (h : Bare r s) {first second : OpenAttribute}
    (hname : first.tag.name = second.tag.name) (pieces other : List Piece) :
    Both (r.addAttribute first pieces) (s.addAttribute second other) Alike := by
  unfold addAttribute
  refine .after fun _ _ => ?_
  dsimp only
  refine .bind (.of_ensures (first.tag.ensures_add _ _) (second.tag.ensures_add _ _)
    fun _ _ => And.intro) fun tag tag' ⟨htag, htag'⟩ => ?_
  exact .pure (h.toMarkup (.tag (htag.trans (hname.trans htag'.symm)) false))

/-- What ends a value does not depend on what stands in it. -/
theorem both_valueStep {state other : ValueState} (hs : state.reference = other.reference)
    (site site' : Site) (resolve resolve' : String → Reading (List Piece)) (c : Char) :
    Both (state.step site resolve c) (other.step site' resolve' c)
      fun next next' => next.reference = next'.reference := by
  unfold ValueState.step
  rw [← hs]
  cases state.reference with
  | none =>
    dsimp only
    split_ifs
    · exact .pure rfl
    · exact .fail_left _ _ _
    · exact .pure rfl
    · exact .pure rfl
  | some reference =>
    refine (reference.both_step _ _ c).bind ?_
    rintro next _ rfl
    cases next with
    | unfinished next => exact .pure rfl
    | finished piece =>
      cases piece with
      | character d => exact .pure rfl
      | reference name => exact .after fun _ _ => .pure rfl

theorem both_readAttributeValue (h : Bare r s) {first second : OpenAttribute}
    (hname : first.tag.name = second.tag.name) (mark : Char) {state other : ValueState}
    (hs : state.reference = other.reference) (c : Char) :
    Both (r.readAttributeValue first mark state c) (s.readAttributeValue second mark other c)
      Alike := by
  unfold readAttributeValue
  rw [← hs]
  dsimp only
  split
  · have hafter := h.move (r.position.next c) (s.position.next c) h.outer_eq h.outer_eq'
    exact both_addAttribute ⟨hafter, h.pending_eq, h.pending_eq'⟩ hname _ _
  · refine (both_valueStep hs _ _ _ _ c).bind fun next next' hnext => ?_
    exact .pure (h.toMarkup (.attributeValue hname mark hnext))

theorem both_readEndName (h : Bare r s) (reversed : List Char) (c : Char) :
    Both (r.readEndName reversed c) (s.readEndName reversed c) Alike := by
  unfold readEndName
  split_ifs
  · exact .pure (h.toMarkup (.endName _))
  · exact both_closeElement h _
  · exact .pure (h.toMarkup (.endSpace _))
  · exact .fail_left _ _ _

theorem both_readEndSpace (h : Bare r s) {name : List Char} (hr : r.mode = .endSpace name)
    (hs : s.mode = .endSpace name) (c : Char) :
    Both (r.readEndSpace name c) (s.readEndSpace name c) Alike := by
  unfold readEndSpace
  split_ifs
  · exact .pure (.markup h hr hs (.endSpace name))
  · exact both_closeElement h _
  · exact .fail_left _ _ _

theorem both_readDoctype (h : Bare r s) (start other : Position) (extent : DoctypeExtent)
    (reversed reversed' : List Char) (c : Char) :
    Both (r.readDoctype start extent reversed c) (s.readDoctype other extent reversed' c)
      Alike := by
  unfold readDoctype
  cases extent.next c with
  | some next => exact .pure (h.toMarkup (.doctype ..))
  | none => exact .after fun _ _ => .pure (h.toContent 0 0)

end

/-! ### Texts -/

section
variable {α : Type} {r s : Reader}

theorem Alike.level (h : Alike r s) : Level r s := by
  cases h with
  | content level => exact level
  | reference level => exact level
  | markup bare => exact bare.toLevel
  | ended level => exact level

theorem Alike.move (h : Alike r s) {position position' : Position} (hr : position.outer = none)
    (hs : position'.outer = none) :
    Alike { r with position := position } { s with position := position' } := by
  cases h with
  | content level hr' hs' => exact .content (level.move _ _ hr hs) hr' hs'
  | reference level hr' hs' => exact .reference (level.move _ _ hr hs) hr' hs'
  | markup bare hr' hs' modes =>
    exact .markup ⟨bare.move _ _ hr hs, bare.pending_eq, bare.pending_eq'⟩ hr' hs' modes
  | ended level hr' hs' => exact .ended (level.move _ _ hr hs) hr' hs'

/-- What one character does in markup. -/
theorem both_readMarkup (readEntity : EntityReader) (h : Bare r s) {mode mode' : Mode}
    (hr : r.mode = mode) (hs : s.mode = mode') (modes : mode.Alike mode') (c : Char) :
    Both (r.read readEntity c) (s.read readEntity c) Alike := by
  unfold read readMeant
  rw [hr, hs]
  cases modes with
  | opening => exact both_readOpening h _
  | bang seen => exact both_readBang h seen _
  | comment state => exact both_readComment h state c
  | characters reversed => exact both_readCharacters h reversed _
  | target reversed => exact both_readTarget h reversed _
  | targetEnd name =>
    dsimp only
    split_ifs
    · exact .pure (both_addInstruction h _ _)
    · exact .fail_left _ _ _
  | instruction name reversed => exact both_readInstruction h hr hs _
  | tagName reversed => exact both_readTagName h reversed _
  | tag hname divided => exact both_readTag h hname divided _
  | attributeName hname reversed => exact both_readAttributeName h hname reversed _
  | attributeSign hname => exact both_readAttributeSign h hname _
  | attributeMark hname => exact both_readAttributeMark h hname hr hs _
  | attributeValue hname mark hstate => exact both_readAttributeValue h hname mark hstate _
  | emptyTag hname =>
    dsimp only
    split_ifs
    · exact both_addEmptyElement h hname
    · exact .fail_left _ _ _
  | endName reversed => exact both_readEndName h reversed _
  | endSpace name => exact both_readEndSpace h hr hs _
  | doctype start other extent reversed reversed' => exact both_readDoctype h _ _ extent _ _ c

/-- One character leaves readers alike. -/
theorem both_step (readEntity : EntityReader) (h : Alike r s) (c : Char) :
    Both (r.step readEntity c) (s.step readEntity c) Alike := by
  have hread : Both (r.read readEntity c) (s.read readEntity c) Alike := by
    cases h with
    | content level hr hs =>
      unfold read readMeant
      rw [hr, hs]
      exact both_readContent level hr hs _
    | reference level hr hs =>
      unfold read readMeant
      rw [hr, hs]
      exact both_readReference readEntity level _ _
    | markup bare hr hs modes => exact both_readMarkup readEntity bare hr hs modes c
    | ended level hr hs =>
      unfold read readMeant
      rw [hr, hs]
      exact .pure (.ended level hr hs)
  exact hread.bind fun _ _ halike => .pure (halike.move h.level.outer_eq h.level.outer_eq')

/-- Any text leaves readers alike. -/
theorem both_run (readEntity : EntityReader) (h : Alike r s) (cs : List Char) :
    Both (r.run readEntity cs) (s.run readEntity cs) Alike := by
  unfold run
  induction cs generalizing r s with
  | nil => exact .pure h
  | cons c cs ih =>
    rw [List.foldlM_cons, List.foldlM_cons]
    exact (both_step readEntity h c).bind fun _ _ => ih

theorem ensures_refuseEnd (r : Reader) (p : α → Prop) : Ensures r.refuseEnd p := by
  unfold refuseEnd
  split
  · exact .fail _ _
  · exact .fail _ _
  · exact .after fun _ => .fail _ _
  · exact .fail _ _

theorem ensures_finish (r : Reader) : Ensures r.finish (r.root = some ·) := by
  unfold finish
  split
  · exact .pure ‹_›
  · exact .pure ‹_›
  · exact ensures_refuseEnd r _

/-- The roots of documents that readers have read alike to the end. -/
theorem Alike.roots_eq (h : Alike r s) {root root' : Node} (hr : r.root = some root)
    (hs : s.root = some root') : root.gist?.map Gist.ofRoot = root'.gist?.map Gist.ofRoot := by
  have hroot := h.level.root_eq
  rw [hr, hs] at hroot
  exact Option.some.inj hroot

end

end Reader

end LayeredConfig.Xml

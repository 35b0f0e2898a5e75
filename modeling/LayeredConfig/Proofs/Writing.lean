import LayeredConfig.Proofs.Content
import LayeredConfig.Text.Blank
import Mathlib.Data.List.Basic

/-! Written elements: texts and rows of elements between tags, with blanks around both and
characters as they are or as references. Reading what is written gives the elements back, with
nothing but texts between them. Joining line ends leaves it written. -/

namespace LayeredConfig.Xml

/-! ### What is written -/

/-- Whether all characters are blanks of markup. -/
def IsWhite (cs : List Char) : Prop :=
  ∀ c ∈ cs, isSpace c = true

instance (cs : List Char) : Decidable (IsWhite cs) :=
  decidable_of_iff (cs.all isSpace = true) List.all_eq_true

/-- Whether characters write a text with blanks around it. -/
inductive WritesText (text : List Char) : List Char → Prop
  | intro (before after : List Char) {body : List Char} :
    IsWhite before → SpellsAll text body → IsWhite after →
      WritesText text (before ++ body ++ after)

/-- Whether characters write an element of a name. One that has no content may have a single tag. -/
inductive WritesElement (name : String) (writes : List Char → Prop) : List Char → Prop
  | tagged {content : List Char} : writes content → WritesElement name writes
    (('<' :: name.toList ++ ['>']) ++ content ++ ('<' :: '/' :: name.toList ++ ['>']))
  | empty : writes [] → WritesElement name writes ('<' :: name.toList ++ ['/', '>'])

/-- Whether characters write elements one after another, with blanks around them. Each element has
the name and the content of what it is written for. -/
inductive WritesRow {α : Type} (name : α → String) (writes : α → List Char → Prop) :
    List α → List Char → Prop
  | nil {blanks : List Char} : IsWhite blanks → WritesRow name writes [] blanks
  | cons (blanks rest : List Char) {element : List Char} {a : α} {as : List α} : IsWhite blanks →
    WritesElement (name a) (writes a) element → WritesRow name writes as rest →
      WritesRow name writes (a :: as) (blanks ++ element ++ rest)

/-- Every text can be written. -/
theorem exists_spellsAll (text : List Char) : ∃ cs, SpellsAll text cs := by
  induction text with
  | nil => exact ⟨[], .nil⟩
  | cons c text ih =>
    obtain ⟨rest, hrest⟩ := ih
    have hspells : ∃ spelled, Spells c spelled := by
      by_cases hc : c ∈ ['&', '<', '>', '\r']
      · simp only [List.mem_cons, List.not_mem_nil, or_false] at hc
        rcases hc with rfl | rfl | rfl | rfl
        · exact ⟨_, .named ['a', 'm', 'p'] rfl⟩
        · exact ⟨_, .named ['l', 't'] rfl⟩
        · exact ⟨_, .named ['g', 't'] rfl⟩
        · exact ⟨_, .decimal ['1', '3'] (by decide) (List.all_eq_true.1 rfl) (by decide)⟩
      · exact ⟨_, .plain hc⟩
    obtain ⟨spelled, hspelled⟩ := hspells
    exact ⟨_, .cons hspelled hrest⟩

theorem exists_writesText (text : List Char) : ∃ cs, WritesText text cs := by
  obtain ⟨body, hbody⟩ := exists_spellsAll text
  exact ⟨_, .intro [] [] (by decide) hbody (by decide)⟩

theorem exists_writesRow {α : Type} (name : α → String) {writes : α → List Char → Prop}
    (h : ∀ a, ∃ content, writes a content) (as : List α) : ∃ cs, WritesRow name writes as cs := by
  induction as with
  | nil => exact ⟨[], .nil (by decide)⟩
  | cons a as ih =>
    obtain ⟨content, hcontent⟩ := h a
    obtain ⟨rest, hrest⟩ := ih
    exact ⟨_, .cons [] rest (by decide) (.tagged hcontent) hrest⟩

/-! ### What it is read as -/

/-- Whether nodes are those of a text with blanks around it. -/
def ShowsText (text : List Char) (nodes : List Node) : Prop :=
  (∀ node ∈ nodes, ∃ content, node = .text content) ∧
    Text.trimChars (Node.textOfAll nodes) = text

/-- Whether a node is the element of a name with such a content. -/
inductive ShowsElement (name : String) (shows : List Node → Prop) : Node → Prop
  | intro {content : List Node} : shows content →
    ShowsElement name shows (.element ⟨none, name⟩ none [] content)

/-- Whether nodes are elements in order, with nothing but texts between them. -/
inductive ShowsRow {α : Type} (name : α → String) (shows : α → List Node → Prop) :
    List α → List Node → Prop
  | nil : ShowsRow name shows [] []
  | text (content : String) {as : List α} {nodes : List Node} : ShowsRow name shows as nodes →
    ShowsRow name shows as (nodes ++ [.text content])
  | element {a : α} {node : Node} {as : List α} {nodes : List Node} :
    ShowsRow name shows as nodes → ShowsElement (name a) (shows a) node →
      ShowsRow name shows (as ++ [a]) (nodes ++ [node])

/-! ### Line ends -/

/-- Whether characters are left of others when some carriage returns are dropped. -/
inductive DropsReturns : List Char → List Char → Prop
  | nil : DropsReturns [] []
  | keep (c : Char) {cs left : List Char} :
    DropsReturns cs left → DropsReturns (c :: cs) (c :: left)
  | drop {cs left : List Char} : DropsReturns cs left → DropsReturns ('\r' :: cs) left

theorem dropsReturns_joinLineEnds (cs : List Char) : DropsReturns cs (joinLineEnds cs) := by
  fun_induction joinLineEnds cs with
  | case1 cs ih => exact .drop (.keep '\n' ih)
  | case2 c cs _ ih => exact .keep c ih
  | case3 => exact .nil

namespace DropsReturns

theorem exists_append {first second left : List Char} (h : DropsReturns (first ++ second) left) :
    ∃ left₁ left₂, left = left₁ ++ left₂ ∧ DropsReturns first left₁ ∧
      DropsReturns second left₂ := by
  induction first generalizing left with
  | nil => exact ⟨[], left, rfl, .nil, h⟩
  | cons c first ih =>
    cases h with
    | keep _ h =>
      obtain ⟨left₁, left₂, rfl, h₁, h₂⟩ := ih h
      exact ⟨c :: left₁, left₂, rfl, .keep c h₁, h₂⟩
    | drop h =>
      obtain ⟨left₁, left₂, rfl, h₁, h₂⟩ := ih h
      exact ⟨left₁, left₂, rfl, .drop h₁, h₂⟩

theorem eq_of_not_mem {cs left : List Char} (h : DropsReturns cs left) (hcs : '\r' ∉ cs) :
    left = cs := by
  induction h with
  | nil => rfl
  | keep c _ ih => rw [ih fun hm => hcs (List.mem_cons_of_mem _ hm)]
  | drop => exact absurd List.mem_cons_self hcs

theorem subset {cs left : List Char} (h : DropsReturns cs left) : left ⊆ cs := by
  induction h with
  | nil => exact List.Subset.refl _
  | keep c _ ih => exact List.cons_subset_cons c ih
  | drop _ ih => exact List.Subset.trans ih (List.subset_cons_self _ _)

end DropsReturns

theorem not_mem_of_spells {c : Char} {cs : List Char} (h : Spells c cs) : '\r' ∉ cs := by
  have hreference : ∀ (front : List Char) {body : List Char}, '\r' ∉ front →
      (∀ d ∈ body, d ≠ '\r') → '\r' ∉ front ++ body ++ [';'] := by
    intro front body hfront hbody hm
    simp only [List.mem_append, List.mem_singleton] at hm
    rcases hm with (hm | hm) | hm
    · exact hfront hm
    · exact hbody _ hm rfl
    · exact absurd hm (by decide)
  cases h with
  | plain hc => simp_all [eq_comm]
  | named name hname =>
    refine hreference ['&'] (by decide) ?_
    unfold reservedCharacter? at hname
    split_ifs at hname <;> subst name <;> simp
  | decimal _ _ hdigits _ =>
    exact hreference ['&', '#'] (by decide) fun d hd =>
      (Reader.ne_of_isDigit (hdigits d hd)).2.2
  | hexadecimal _ _ hdigits _ =>
    exact hreference ['&', '#', 'x'] (by decide) fun d hd =>
      (Reader.ne_of_hexValue? (hdigits d hd)).2

theorem not_mem_of_spellsAll {text cs : List Char} (h : SpellsAll text cs) : '\r' ∉ cs := by
  induction h with
  | nil => simp
  | cons hc _ ih => simp [not_mem_of_spells hc, ih]

theorem IsWhite.drop {cs left : List Char} (h : IsWhite cs) (hd : DropsReturns cs left) :
    IsWhite left :=
  fun c hc => h c (hd.subset hc)

theorem WritesText.drop {text cs left : List Char} (h : WritesText text cs)
    (hd : DropsReturns cs left) : WritesText text left := by
  obtain ⟨before, after, hbefore, hbody, hafter⟩ := h
  obtain ⟨front, after', rfl, hfront, hdafter⟩ := hd.exists_append
  obtain ⟨before', body', rfl, hdbefore, hdbody⟩ := hfront.exists_append
  rw [hdbody.eq_of_not_mem (not_mem_of_spellsAll hbody)]
  exact .intro before' after' (hbefore.drop hdbefore) hbody (hafter.drop hdafter)

/-- Tags with a name of which no character is a carriage return keep all their characters. -/
theorem WritesElement.drop {name : String} {writes : List Char → Prop} {cs left : List Char}
    (hname : Reader.IsTagName name)
    (hwrites : ∀ content left, writes content → DropsReturns content left → writes left)
    (h : WritesElement name writes cs) (hd : DropsReturns cs left) :
    WritesElement name writes left := by
  have hparts : '\r' ∉ name.toList := fun hm =>
    (Reader.ne_of_isNamePart (hname.isNamePart _ hm)).2 rfl
  cases h with
  | tagged hcontent =>
    obtain ⟨front, last, rfl, hfront, hlast⟩ := hd.exists_append
    obtain ⟨first, content', rfl, hfirst, hcontent'⟩ := hfront.exists_append
    rw [hfirst.eq_of_not_mem (by simp [hparts]), hlast.eq_of_not_mem (by simp [hparts])]
    exact .tagged (hwrites _ _ hcontent hcontent')
  | empty hcontent =>
    rw [hd.eq_of_not_mem (by simp [hparts])]
    exact .empty hcontent

theorem WritesRow.drop {α : Type} {name : α → String} {writes : α → List Char → Prop}
    {as : List α} {cs left : List Char} (hname : ∀ a ∈ as, Reader.IsTagName (name a))
    (hwrites : ∀ a ∈ as, ∀ content left, writes a content → DropsReturns content left →
      writes a left)
    (h : WritesRow name writes as cs) (hd : DropsReturns cs left) :
    WritesRow name writes as left := by
  induction h generalizing left with
  | nil hblanks => exact .nil (hblanks.drop hd)
  | @cons _ _ _ a as hblanks helement _ ih =>
    obtain ⟨front, rest', rfl, hfront, hrest⟩ := hd.exists_append
    obtain ⟨blanks', element', rfl, hdblanks, hdelement⟩ := hfront.exists_append
    refine .cons blanks' rest' (hblanks.drop hdblanks)
      (helement.drop (hname a (by simp)) (hwrites a (by simp)) hdelement)
      (ih (fun b hb => hname b (by simp [hb])) (fun b hb => hwrites b (by simp [hb])) hrest)

namespace Reader

/-! ### Reading -/

/-- Whether a content is read in a row as nodes of a kind, wherever there is room for so many
elements inside. -/
def ReadsAs (shows : List Node → Prop) (room : Nat) (content : List Char) : Prop :=
  ∀ name elements root, elements.length + room < depthLimit →
    Reads (InContent (opened name [] :: elements) root []) content fun r => ∃ children pending,
      shows (withPending children pending).reverse ∧
        InContent (opened name children :: elements) root pending r

theorem ReadsAs.mono {shows : List Node → Prop} {room more : Nat} {content : List Char}
    (h : ReadsAs shows room content) (hroom : room ≤ more) : ReadsAs shows more content :=
  fun name elements root hdepth => h name elements root (by omega)

theorem Reads.of_exists {α : Type} {before : α → Reader → Prop} {after : Reader → Prop}
    {cs : List Char} (h : ∀ x, Reads (before x) cs after) :
    Reads (fun r => ∃ x, before x r) cs after := by
  rintro r ⟨x, hr⟩
  exact h x r hr

theorem Reads.of_and {p : Prop} {before after : Reader → Prop} {cs : List Char}
    (h : p → Reads before cs after) : Reads (fun r => p ∧ before r) cs after := by
  rintro r ⟨hp, hr⟩
  exact h hp r hr

theorem meant_of_isSpace {c : Char} (h : isSpace c = true) :
    isLegal (meant c) = true ∧ meant c ∉ ['<', '&', '>'] ∧ isSpace (meant c) = true ∧
      Text.isBlank (meant c) = true := by
  simp only [isSpace, Bool.or_eq_true, beq_iff_eq] at h
  rcases h with ((rfl | rfl) | rfl) | rfl <;> decide

theorem reads_white {cs : List Char} (h : IsWhite cs) (e : OpenElement) (es : List OpenElement)
    (root : Option Node) (pending : List Char) :
    Reads (InContent (e :: es) root pending) cs
      (InContent (e :: es) root ((cs.map meant).reverse ++ pending)) := by
  have hread := Reads.foldl (fun pending => InContent (e :: es) root pending)
    (fun pending c => meant c :: pending)
    (fun pending c (hc : isSpace c = true) =>
      reads_character (meant_of_isSpace hc).1 (meant_of_isSpace hc).2.1 e es root pending)
    h pending
  have hfold : cs.foldl (fun pending c => meant c :: pending) pending =
      (cs.map meant).reverse ++ pending := by
    rw [← List.foldl_flip_cons_eq_append', List.foldl_map]
  rwa [hfold] at hread

theorem reads_whiteOutside {cs : List Char} (h : IsWhite cs) (root : Option Node) :
    Reads (InContent [] root []) cs (InContent [] root []) :=
  Reads.foldl (fun _ : Unit => InContent [] root []) (fun _ _ => ())
    (fun _ c (hc : isSpace c = true) => reads_space (meant_of_isSpace hc).2.2.1 root) h ()

/-! ### Texts -/

theorem mem_withPending_nil {pending : List Char} {node : Node}
    (h : node ∈ (withPending [] pending).reverse) : ∃ content, node = .text content := by
  unfold withPending at h
  split at h
  · cases h
  · exact ⟨_, by simpa using h⟩

theorem textOfAll_withPending_nil (pending : List Char) :
    Node.textOfAll (withPending [] pending).reverse = pending.reverse := by
  cases pending with
  | nil => rfl
  | cons c cs => simp [withPending, Node.textOfAll, Node.textInside]

/-- A trimmed text is read as what it is. -/
theorem readsAs_text {text cs : List Char} (h : WritesText text cs)
    (hlegal : ∀ c ∈ text, isLegal c = true) (htrim : Text.trimChars text = text) :
    ReadsAs (ShowsText text) 0 cs := by
  intro name elements root _
  obtain ⟨before, after, hbefore, hbody, hafter⟩ := h
  have hread := ((reads_white hbefore (opened name []) elements root []).append
    (reads_of_spellsAll hbody hlegal)).append (reads_white hafter (opened name []) elements root _)
  refine hread.mono fun r hr => ⟨[], _, ⟨fun node => mem_withPending_nil, ?_⟩, hr⟩
  have hblank : ∀ {blanks : List Char}, IsWhite blanks →
      ∀ c ∈ blanks.map meant, Text.isBlank c = true := by
    intro blanks hblanks c hc
    obtain ⟨d, hd, rfl⟩ := List.mem_map.1 hc
    exact (meant_of_isSpace (hblanks d hd)).2.2.2
  rw [textOfAll_withPending_nil]
  simp only [List.reverse_append, List.reverse_reverse, List.append_nil]
  rw [Text.trimChars_append_blanks (hblank hafter), Text.trimChars_blanks_append (hblank hbefore),
    htrim]

/-! ### Elements -/

section Elements
variable {name : String} {writes : List Char → Prop} {shows : List Node → Prop} {room : Nat}

/-- A content without characters is read as no nodes. -/
theorem shows_nil_of_readsAs (h : ReadsAs shows room []) (hroom : room < depthLimit) :
    shows [] := by
  let r : Reader := ⟨.start, 0, [opened "" []], none, false, [], .content 0⟩
  obtain ⟨s, hs, children, pending, hshows, hstands⟩ :=
    h "" [] none (by simpa using hroom) r ⟨rfl, rfl, rfl, ⟨0, rfl⟩, rfl, rfl⟩
  cases hs
  have hchildren : children = [] := by
    have helements := hstands.elements_eq
    simp only [r, opened, List.cons.injEq, OpenElement.mk.injEq] at helements
    exact helements.1.2.2.2.2.symm
  have hpending : pending = [] := hstands.pending_eq.symm
  subst hchildren hpending
  exact hshows

/-- A written element becomes a node, wherever there is room for it and what is inside. -/
theorem reads_element {elements : List OpenElement} {root : Option Node} {pending cs : List Char}
    (hname : IsTagName name)
    (hwrites : ∀ content, writes content → ReadsAs shows room content)
    (hscope : ∀ e ∈ elements.head?, e.scope = []) (hdepth : elements.length + room < depthLimit)
    (hroot : elements = [] → root = none ∧ pending = []) (h : WritesElement name writes cs) :
    Reads (InContent elements root pending) cs fun r => ∃ node, ShowsElement name shows node ∧
      InContent (withNode node (settled elements pending)) (rootAfter node elements root) [] r := by
  have helements : elements.length < depthLimit := by omega
  have hlength : (settled elements pending).length = elements.length := by
    cases elements <;> rfl
  cases h with
  | tagged hcontent =>
    refine ((reads_startTag hname hscope helements hroot).append
      (hwrites _ hcontent name (settled elements pending) root (by omega))).append ?_
    refine Reads.of_exists fun children => Reads.of_exists fun more => Reads.of_and fun hshows => ?_
    refine (reads_endTag hname).mono fun r hr => ⟨_, .intro hshows, ?_⟩
    have hsettled : (settled elements pending).isEmpty = elements.isEmpty := by
      cases elements <;> rfl
    rwa [rootAfter, hsettled] at hr
  | empty hcontent =>
    refine (reads_emptyTag hname hscope helements hroot).mono fun r hr => ⟨_, .intro ?_, hr⟩
    exact shows_nil_of_readsAs (hwrites [] hcontent) (by omega)

end Elements

/-! ### Rows -/

section Rows
variable {α : Type} {name : α → String} {writes : α → List Char → Prop}
  {shows : α → List Node → Prop} {room : Nat} {as : List α} {cs : List Char}

/-- What is written in a row comes after the nodes that are there. -/
theorem reads_row (hname : ∀ a ∈ as, IsTagName (name a))
    (hwrites : ∀ a ∈ as, ∀ content, writes a content → ReadsAs (shows a) room content)
    (h : WritesRow name writes as cs) {outer : String} {elements : List OpenElement}
    {root : Option Node} (hdepth : elements.length + (room + 1) < depthLimit) {before : List α}
    {children : List Node} (hbefore : ShowsRow name shows before children.reverse)
    (pending : List Char) :
    Reads (InContent (opened outer children :: elements) root pending) cs fun r =>
      ∃ children pending, ShowsRow name shows (before ++ as) children.reverse ∧
        InContent (opened outer children :: elements) root pending r := by
  induction h generalizing before children pending with
  | nil hblanks =>
    refine (reads_white hblanks _ _ root pending).mono fun r hr => ⟨children, _, ?_, hr⟩
    rwa [List.append_nil]
  | @cons blanks rest element a as hblanks helement _ ih =>
    have hrest := @ih (fun b hb => hname b (by simp [hb])) (fun b hb => hwrites b (by simp [hb]))
    refine ((reads_white hblanks _ _ root pending).append
      (reads_element (hname a (by simp)) (hwrites a (by simp)) (by simp [opened])
        (by simpa using by omega) (by simp) helement)).append ?_
    refine Reads.of_exists fun node => Reads.of_and fun hnode => ?_
    have hsettled : ∀ more : List Char,
        ShowsRow name shows before (withPending children more).reverse := by
      intro more
      unfold withPending
      split
      · exact hbefore
      · rw [List.reverse_cons]
        exact .text _ hbefore
    have hnext : ShowsRow name shows (before ++ [a])
        (node :: withPending children ((blanks.map meant).reverse ++ pending)).reverse := by
      rw [List.reverse_cons]
      exact .element (hsettled _) hnode
    have hread := hrest hnext []
    rw [List.append_assoc, List.singleton_append] at hread
    exact hread

theorem readsAs_row (hname : ∀ a ∈ as, IsTagName (name a))
    (hwrites : ∀ a ∈ as, ∀ content, writes a content → ReadsAs (shows a) room content)
    (h : WritesRow name writes as cs) : ReadsAs (ShowsRow name shows as) (room + 1) cs := by
  intro outer elements root hdepth
  refine (reads_row hname hwrites h hdepth .nil []).mono ?_
  rintro r ⟨children, pending, hshows, hr⟩
  refine ⟨children, pending, ?_, hr⟩
  unfold withPending
  split
  · exact hshows
  · rw [List.reverse_cons]
    exact .text _ hshows

end Rows

end Reader

/-! ### Nodes of a row -/

namespace ShowsRow

variable {α β : Type} {name : α → String} {shows : α → List Node → Prop} {as : List α}
  {nodes : List Node}

/-- What the nodes of a row give one after another, where texts give nothing. -/
theorem flatMap_eq {f : Node → List β} {g : α → List β} (htext : ∀ content, f (.text content) = [])
    (helement : ∀ a ∈ as, ∀ node, ShowsElement (name a) (shows a) node → f node = g a)
    (h : ShowsRow name shows as nodes) : nodes.flatMap f = as.flatMap g := by
  induction h with
  | nil => rfl
  | text content _ ih =>
    rw [List.flatMap_append, ih helement, List.flatMap_singleton, htext, List.append_nil]
  | element _ hnode ih =>
    rw [List.flatMap_append, List.flatMap_append, ih fun a ha => helement a (by simp [ha]),
      List.flatMap_singleton, List.flatMap_singleton, helement _ (by simp) _ hnode]

theorem filterMap_eq {f : Node → Option β} {g : α → β}
    (htext : ∀ content, f (.text content) = none)
    (helement : ∀ a ∈ as, ∀ node, ShowsElement (name a) (shows a) node → f node = some (g a))
    (h : ShowsRow name shows as nodes) : nodes.filterMap f = as.map g := by
  have hflat := h.flatMap_eq (f := fun node => (f node).toList) (g := fun a => [g a])
    (fun content => by rw [htext, Option.toList_none]) fun a ha node hnode => by
      rw [helement a ha node hnode, Option.toList_some]
  rw [List.filterMap_eq_flatMap_toList, hflat, List.map_eq_flatMap]

/-- What holds of texts and of the elements of a row holds of all its nodes. -/
theorem forall_mem {p : Node → Prop} (htext : ∀ content, p (.text content))
    (helement : ∀ a ∈ as, ∀ node, ShowsElement (name a) (shows a) node → p node)
    (h : ShowsRow name shows as nodes) : ∀ node ∈ nodes, p node := by
  induction h with
  | nil => simp
  | text content _ ih =>
    intro node hnode
    rcases List.mem_append.1 hnode with hnode | hnode
    · exact ih helement node hnode
    · rw [List.mem_singleton.1 hnode]
      exact htext content
  | element _ hlast ih =>
    intro node hnode
    rcases List.mem_append.1 hnode with hnode | hnode
    · exact ih (fun a ha => helement a (by simp [ha])) node hnode
    · rw [List.mem_singleton.1 hnode]
      exact helement _ (by simp) _ hlast

end ShowsRow

theorem dropRemarks_eq_self {nodes : List Node}
    (h : ∀ node ∈ nodes, node.isRemark = false ∧ node.withoutRemarks = node) :
    Node.dropRemarks nodes = nodes := by
  induction nodes with
  | nil => rfl
  | cons node nodes ih =>
    obtain ⟨hremark, hsame⟩ := h node (by simp)
    rw [Node.dropRemarks, hremark, hsame, ih fun n hn => h n (by simp [hn])]
    rfl

theorem ShowsText.dropRemarks_eq {text : List Char} {nodes : List Node}
    (h : ShowsText text nodes) : Node.dropRemarks nodes = nodes := by
  refine dropRemarks_eq_self fun node hnode => ?_
  obtain ⟨content, rfl⟩ := h.1 node hnode
  exact ⟨rfl, rfl⟩

theorem ShowsRow.dropRemarks_eq {α : Type} {name : α → String} {shows : α → List Node → Prop}
    {as : List α} {nodes : List Node}
    (hshows : ∀ a ∈ as, ∀ nodes, shows a nodes → Node.dropRemarks nodes = nodes)
    (h : ShowsRow name shows as nodes) : Node.dropRemarks nodes = nodes := by
  refine dropRemarks_eq_self (h.forall_mem (fun _ => ⟨rfl, rfl⟩) ?_)
  rintro a ha _ ⟨hcontent⟩
  exact ⟨rfl, by rw [Node.withoutRemarks, hshows a ha _ hcontent]⟩

/-! ### Documents -/

section Documents
variable {α : Type} {name : α → String} {writes : α → List Char → Prop}
  {shows : α → List Node → Prop} {room : Nat} {a : α} {cs : List Char}

open Reader

/-- A document that is a row of one element is read as its root. -/
theorem run_document (hname : IsTagName (name a))
    (hwrites : ∀ content, writes a content → ReadsAs (shows a) room content)
    (hroom : room < depthLimit) (h : WritesRow name writes [a] cs) (position : Position)
    (hposition : position.outer = none) :
    ∃ r node, (start position).run (readEntity Position.depthLimit) cs .keep unremarkable =
      .ok (r, unremarkable) ∧ r.finish .keep unremarkable = .ok (node, unremarkable) ∧
        ShowsElement (name a) (shows a) node := by
  cases h with
  | @cons blanks rest element _ _ hblanks helement hrest =>
  cases hrest with
  | nil hrest =>
  have hread := ((reads_whiteOutside hblanks none).append
    (reads_element hname hwrites (by simp) (by simpa using hroom) (by simp) helement)).append
    (Reads.of_exists fun node => Reads.of_and fun hnode =>
      (reads_whiteOutside hrest (some node)).mono fun r hr =>
        (⟨node, hnode, hr⟩ : ∃ node, ShowsElement (name a) (shows a) node ∧
          InContent [] (some node) [] r))
  obtain ⟨r, hrun, node, hnode, hr⟩ := hread (start position)
    ⟨rfl, rfl, rfl, ⟨0, rfl⟩, rfl, hposition⟩
  refine ⟨r, node, hrun, ?_, hnode⟩
  obtain ⟨brackets, hmode⟩ := hr.mode
  simp [finish, hmode, hr.elements_eq, hr.root_eq, Reading.pure_eq]

end Documents

/-! ### Octets -/

def octetsOf (text : String) : List UInt8 :=
  text.toUTF8.data.toList

/-- Whether characters begin with a blank or with the tag of a root, and so have no declaration. -/
inductive IsUndeclared : List Char → Prop
  | blank {c : Char} (cs : List Char) : isSpace c = true → IsUndeclared (c :: cs)
  | tag (cs : List Char) : IsUndeclared ('<' :: 'p' :: cs)

theorem octetsOf_cons (c : Char) (cs : List Char) :
    octetsOf (String.ofList (c :: cs)) =
      String.utf8EncodeChar c ++ octetsOf (String.ofList cs) := by
  simp [octetsOf, List.utf8Encode]

theorem decode_octetsOf (text : String) :
    Encoding.decode .utf8 (octetsOf text) = some ⟨text.toList, true⟩ := by
  have hread : String.fromUTF8? ⟨(octetsOf text).toArray⟩ = some text := by
    simp only [octetsOf, Array.toArray_toList, String.toUTF8_eq_toByteArray, String.fromUTF8?,
      text.isValidUTF8, dif_pos]
    rfl
  simp only [Encoding.decode, hread]

namespace IsUndeclared

theorem split_eq {cs : List Char} (h : IsUndeclared cs) :
    Declaration.split cs = some ⟨none, cs⟩ := by
  cases h with
  | @blank c cs hc =>
    have hne : ('<' == c) = false := by
      rw [beq_eq_false_iff_ne]
      rintro rfl
      revert hc
      decide
    simp [Declaration.split, Declaration.after?, hne]
  | tag cs => rfl

theorem detect_eq {cs : List Char} (h : IsUndeclared cs) :
    Encoding.detect (octetsOf (String.ofList cs)) =
      some (.utf8, octetsOf (String.ofList cs)) := by
  cases h with
  | @blank c cs hc =>
    rw [octetsOf_cons]
    simp only [isSpace, Bool.or_eq_true, beq_iff_eq] at hc
    rcases hc with ((rfl | rfl) | rfl) | rfl <;> rfl
  | tag cs =>
    rw [octetsOf_cons, octetsOf_cons]
    rfl

theorem decodeDocument_eq {text : String} (h : IsUndeclared text.toList) :
    decodeDocument (octetsOf text) = some ⟨text.toList, true⟩ := by
  have hdetect := h.detect_eq
  rw [String.ofList_toList] at hdetect
  rw [decodeDocument, hdetect]
  exact decode_octetsOf text

end IsUndeclared

section Octets
variable {α : Type} {name : α → String} {writes : α → List Char → Prop}
  {shows : α → List Node → Prop} {room : Nat} {a : α}

theorem isUndeclared_document {cs : List Char} (hname : name a = "properties")
    (h : WritesRow name writes [a] cs) : IsUndeclared cs := by
  cases h with
  | @cons blanks rest element _ _ hblanks helement _ =>
  cases blanks with
  | cons c blanks => exact .blank _ (hblanks c (by simp))
  | nil =>
    rw [hname] at helement
    cases helement with
    | tagged => exact .tag _
    | empty => exact .tag _

/-- The octets of a document are read as the tree of its root, which is not changed by the removal
of remarks, as there are none. -/
theorem exists_readGuarded (shows : α → List Node → Prop) (room : Nat) {document : String}
    (hname : name a = "properties")
    (hdrop : ∀ content left, writes a content → DropsReturns content left → writes a left)
    (hwrites : ∀ content, writes a content → Reader.ReadsAs (shows a) room content)
    (hroom : room < Reader.depthLimit)
    (hremarks : ∀ nodes, shows a nodes → Node.dropRemarks nodes = nodes)
    (h : WritesRow name writes [a] document.toList) :
    ∃ root, readGuarded (octetsOf document) = .ok root ∧
      ShowsElement "properties" (shows a) root := by
  have htag : Reader.IsTagName (name a) := by
    rw [hname]
    decide
  have hjoined := h.drop (by simpa using htag) (by simpa using hdrop)
    (dropsReturns_joinLineEnds document.toList)
  obtain ⟨r, root, hrun, hfinish, hroot⟩ := run_document htag hwrites hroom hjoined .start rfl
  have hread : Document.readRest Position.start (joinLineEnds document.toList) true
      .keep Reader.unremarkable = .ok (root, Reader.unremarkable) := by
    simp only [Document.readRest, Reading.bind_eq, hrun, Bool.not_true, Bool.false_eq_true,
      if_false, hfinish]
  have hcharacters : Document.ofCharacters .keep ⟨document.toList, true⟩ = .ok root := by
    have hstart : Context.start false (Document.findingsOf none) = Reader.unremarkable := rfl
    simp only [Document.ofCharacters, (isUndeclared_document hname hjoined).split_eq, Nat.sub_self,
      List.take_zero, Position.afterAll, List.foldl_nil, Option.bind_none, Option.getD_none, hstart,
      ReaderT.run, StateT.run, hread]
    rfl
  refine ⟨root, ?_, hname ▸ hroot⟩
  rw [readGuarded, Document.ofOctets, (isUndeclared_document hname h).decodeDocument_eq]
  simp only [hcharacters, Except.map]
  cases hroot with
  | intro hshows => rw [Node.withoutRemarks, hremarks _ hshows]

end Octets

end LayeredConfig.Xml

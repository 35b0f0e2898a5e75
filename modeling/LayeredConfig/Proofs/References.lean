import LayeredConfig.Proofs.Lockstep

/-! Readings of references and of internal subsets. A reference to an entity that stays in its place
adds the characters that write it to the text of the element in which it stands, whatever is
declared for it, and nothing else. Of an internal subset a reader keeps only where it ends. -/

namespace LayeredConfig.Xml

open Reading (Ensures)

/-! ### Declarations of entities -/

namespace DoctypeExtent

/-- Where the character after some others stands; nothing if one of them ends the document type
declaration. -/
def afterAll (extent : DoctypeExtent) (cs : List Char) : Option DoctypeExtent :=
  cs.foldlM next extent

theorem afterAll_append {extent between : DoctypeExtent} {first : List Char}
    (h : extent.afterAll first = some between) (second : List Char) :
    extent.afterAll (first ++ second) = between.afterAll second := by
  rw [afterAll, List.foldlM_append]
  exact (congrArg (· >>= _) h).trans (Option.bind_some ..)

/-- Characters that can neither open a literal nor end a declaration stay inside it. -/
theorem afterAll_declaration {cs : List Char} (h : ∀ c ∈ cs, c ∉ ['>', '"', '\'']) :
    declaration.afterAll cs = some .declaration := by
  induction cs with
  | nil => rfl
  | cons c cs ih =>
    have hc := h c (by simp)
    have hnext : declaration.next c = some .declaration := by
      simp only [List.mem_cons, List.not_mem_nil, or_false, not_or] at hc
      simp [next, insideDeclaration, hc]
    rw [afterAll, List.foldlM_cons, hnext]
    exact ih fun d hd => h d (by simp [hd])

end DoctypeExtent

/-- Whether characters can stand as a whole in an internal subset, as declarations, comments and the
blanks between them can. -/
def StandsInSubset (cs : List Char) : Prop :=
  DoctypeExtent.subset.afterAll cs = some .subset

/-- Whether characters can stand between the name of an entity and the end of its declaration: each
literal that begins in them ends in them, and the end mark stands in literals only. -/
def IsDefinition (cs : List Char) : Prop :=
  DoctypeExtent.declaration.afterAll cs = some .declaration

instance (cs : List Char) : Decidable (StandsInSubset cs) :=
  inferInstanceAs (Decidable (_ = _))

instance (cs : List Char) : Decidable (IsDefinition cs) :=
  inferInstanceAs (Decidable (_ = _))

def entityDeclaration (blanks name definition : List Char) : List Char :=
  ['<', '!', 'E', 'N', 'T', 'I', 'T', 'Y'] ++ (blanks ++ name ++ (definition ++ ['>']))

theorem ne_of_isColonNamePart {c : Char} (h : isColonNamePart c = true) :
    c ∉ ['>', '"', '\''] ∧ c ∉ ['<', '&', ';', '\r'] := by
  simp only [List.mem_cons, List.not_mem_nil, or_false, not_or]
  refine ⟨⟨?_, ?_, ?_⟩, ?_, ?_, ?_, ?_⟩ <;> rintro rfl <;> revert h <;> decide

theorem not_mem_of_isSpace {c : Char} (h : isSpace c = true) : c ∉ ['>', '"', '\''] := by
  simp only [List.mem_cons, List.not_mem_nil, or_false, not_or]
  refine ⟨?_, ?_, ?_⟩ <;> rintro rfl <;> revert h <;> decide

theorem isColonNamePart_of_isColonName {name : List Char} (h : isColonName name = true) :
    ∀ c ∈ name, isColonNamePart c = true := by
  cases name with
  | nil => cases h
  | cons first rest =>
    obtain ⟨hfirst, hrest⟩ := Bool.and_eq_true_iff.1 h
    intro c hc
    rcases List.mem_cons.1 hc with rfl | hc
    · simp only [isColonNameStart, Bool.or_eq_true] at hfirst
      simp only [isColonNamePart, isNamePart, Bool.or_eq_true]
      tauto
    · exact List.all_eq_true.1 hrest c hc

/-- The declaration of an entity stands as a whole in an internal subset. -/
theorem standsInSubset_entityDeclaration {blanks name definition : List Char}
    (hblanks : ∀ c ∈ blanks, isSpace c = true) (hname : isColonName name = true)
    (hdefinition : IsDefinition definition) :
    StandsInSubset (entityDeclaration blanks name definition) := by
  have hopen : DoctypeExtent.subset.afterAll ['<', '!', 'E', 'N', 'T', 'I', 'T', 'Y'] =
      some .declaration := rfl
  have hplain : DoctypeExtent.declaration.afterAll (blanks ++ name) = some .declaration := by
    refine DoctypeExtent.afterAll_declaration fun c hc => ?_
    rcases List.mem_append.1 hc with hc | hc
    · exact not_mem_of_isSpace (hblanks c hc)
    · exact (ne_of_isColonNamePart (isColonNamePart_of_isColonName hname c hc)).1
  rw [StandsInSubset, entityDeclaration, DoctypeExtent.afterAll_append hopen,
    DoctypeExtent.afterAll_append hplain, DoctypeExtent.afterAll_append hdefinition]
  rfl

namespace Reader

/-! ### Places -/

/-- Whether a reader stands between the declarations of an internal subset. -/
def isInSubset (r : Reader) : Bool :=
  match r.mode with
  | .doctype _ .subset _ => true
  | _ => false

/-- Whether a reader stands in the content of an element. -/
def isInElement (r : Reader) : Bool :=
  match r.mode with
  | .content _ => !r.elements.isEmpty
  | _ => false

/-- Whether a reader stands directly in the root, in a child of the root or in a list. -/
def isBetweenElements (r : Reader) : Bool :=
  r.isInElement &&
    match r.elements with
    | [_] | [_, _] => true
    | [e, _, _] => Gist.isListName e.name.text
    | _ => false

/-! ### One reading -/

section
variable {r : Reader} {readEntity : EntityReader}

/-- What holds at the beginning and is kept by each character holds at the end, where it may tell
how much is read. -/
theorem ensures_run {holds : List Char → Reader → Prop} {cs : List Char}
    (hstep : ∀ front c back, cs = front ++ c :: back → ∀ s, holds front s →
      Ensures (s.step readEntity c) (holds (front ++ [c]))) (h : holds [] r) :
    Ensures (r.run readEntity cs) (holds cs) := by
  have hrest : ∀ back front s, cs = front ++ back → holds front s →
      Ensures (s.run readEntity back) (holds cs) := by
    intro back
    induction back with
    | nil =>
      intro front s hcs hs
      rw [List.append_nil] at hcs
      exact .pure (hcs ▸ hs)
    | cons c back ih =>
      intro front s hcs hs
      unfold run at ih ⊢
      rw [List.foldlM_cons]
      exact (hstep front c back hcs s hs).bind fun t ht => ih (front ++ [c]) t (by simp [hcs]) ht
  exact hrest cs [] r rfl h

theorem ensures_run_cons {c : Char} {cs : List Char} {p q : Reader → Prop}
    (h : Ensures (r.step readEntity c) p)
    (hnext : ∀ s, p s → Ensures (s.run readEntity cs) q) :
    Ensures (r.run readEntity (c :: cs)) q := by
  unfold run at hnext ⊢
  rw [List.foldlM_cons]
  exact h.bind hnext

/-- The readers that differ from a reader in how far they have come and in their mode. -/
def Turned (r : Reader) (mode : Mode) (s : Reader) : Prop :=
  ∃ position : Position, position.outer = r.position.outer ∧
    s = { r with position := position, mode := mode }

namespace Turned

variable {s t : Reader} {mode next : Mode}

theorem self (h : r.mode = mode) : Turned r mode r :=
  ⟨r.position, rfl, by rw [← h]⟩

theorem mode_eq (h : Turned r mode s) : s.mode = mode := by
  obtain ⟨position, -, rfl⟩ := h
  rfl

theorem trans (h : Turned r mode s) (h' : Turned s next t) : Turned r next t := by
  obtain ⟨position, hposition, rfl⟩ := h
  obtain ⟨position', hposition', rfl⟩ := h'
  exact ⟨position', hposition'.trans hposition, rfl⟩

end Turned

/-- Inside a document type declaration nothing is read but where it ends. -/
theorem ensures_run_doctype {cs : List Char} {start : Position} {extent last : DoctypeExtent}
    {reversed : List Char} (hmode : r.mode = .doctype start extent reversed)
    (hcs : extent.afterAll cs = some last) :
    Ensures (r.run readEntity cs) (Turned r (.doctype start last (cs.reverse ++ reversed))) := by
  let holds (front : List Char) (s : Reader) : Prop := ∃ between,
    extent.afterAll front = some between ∧
      Turned r (.doctype start between (front.reverse ++ reversed)) s
  have hrun : Ensures (r.run readEntity cs) (holds cs) := by
    refine ensures_run ?_ ⟨extent, rfl, .self hmode⟩
    rintro front c back rfl s ⟨between, hbetween, position, hposition, rfl⟩
    rw [DoctypeExtent.afterAll_append hbetween] at hcs
    cases hnext : between.next c with
    | none => simp [DoctypeExtent.afterAll, hnext] at hcs
    | some next =>
      have hfront : extent.afterAll (front ++ [c]) = some next := by
        rw [DoctypeExtent.afterAll_append hbetween]
        simp [DoctypeExtent.afterAll, hnext]
      unfold step read
      dsimp only [readDoctype]
      rw [hnext]
      exact .pure ⟨next, hfront, position.next c, hposition, by simp [turn]⟩
  refine hrun.mono ?_
  rintro s ⟨between, hbetween, hs⟩
  rwa [← Option.some.inj (hbetween.symm.trans hcs)]

theorem isInElement_iff : r.isInElement = true ↔
    (∃ brackets, r.mode = .content brackets) ∧ r.elements.isEmpty = false := by
  unfold isInElement
  split <;> simp_all

theorem isInSubset_iff : r.isInSubset = true ↔
    ∃ start reversed, r.mode = .doctype start .subset reversed := by
  unfold isInSubset
  split <;> simp_all

/-- The readers to which an element some text was added. -/
structure Gains (r : Reader) (text : List Char) (s : Reader) : Prop where
  gists_eq : s.gists = Gist.addInside text [] r.gists
  root_eq : s.root = r.root
  hasDoctype_eq : s.hasDoctype = r.hasDoctype
  outer_eq : s.position.outer = r.position.outer
  mode : ∃ brackets, s.mode = .content brackets

namespace Gains

variable {s t : Reader} {text more : List Char}

theorem self (h : r.isInElement = true) : Gains r [] r := by
  refine ⟨?_, rfl, rfl, rfl, (isInElement_iff.1 h).1⟩
  rw [Gist.addInside_nil]

theorem trans (h : Gains r text s) (h' : Gains s more t) : Gains r (text ++ more) t := by
  refine ⟨?_, h'.root_eq.trans h.root_eq, h'.hasDoctype_eq.trans h.hasDoctype_eq,
    h'.outer_eq.trans h.outer_eq, h'.mode⟩
  rw [h'.gists_eq, h.gists_eq]
  cases r.gists <;> simp [Gist.addInside, Gist.add]

theorem isInElement (h : Gains r text s) (hr : r.isInElement = true) : s.isInElement = true := by
  refine isInElement_iff.2 ⟨h.mode, ?_⟩
  have hlength := congrArg List.length h.gists_eq
  have hempty := (isInElement_iff.1 hr).2
  rw [length_gists] at hlength
  cases hg : r.gists with
  | nil =>
    have hr' := length_gists r
    rw [hg, List.length_nil, eq_comm, List.length_eq_zero_iff] at hr'
    simp [hr'] at hempty
  | cons g gs =>
    rw [hg, Gist.addInside, List.length_cons] at hlength
    rw [← Bool.not_eq_true, List.isEmpty_iff_length_eq_zero]
    omega

end Gains

theorem Turned.gains {mode : Mode} {text : List Char} {s t : Reader} (h : Turned r mode s)
    (h' : Gains s text t) : Gains r text t := by
  obtain ⟨position, hposition, rfl⟩ := h
  exact ⟨h'.gists_eq, h'.root_eq, h'.hasDoctype_eq, h'.outer_eq.trans hposition, h'.mode⟩

theorem step_of_content {brackets : Nat} (hmode : r.mode = .content brackets) {c : Char}
    (hc : c ≠ '\r') : r.step readEntity c = do
      return { ← r.readContent brackets c with position := r.position.next c } := by
  have hmeant : meant c = c := if_neg hc
  unfold step read readMeant
  rw [hmode]
  dsimp only
  rw [hmeant]

theorem step_of_reference {state : ReferenceState} (hmode : r.mode = .reference state) {c : Char}
    (hc : c ≠ '\r') : r.step readEntity c = do
      return { ← r.readReference readEntity state c with position := r.position.next c } := by
  have hmeant : meant c = c := if_neg hc
  unfold step read readMeant
  rw [hmode]
  dsimp only
  rw [hmeant]

theorem ensures_step_character (h : r.isInElement = true) {c : Char}
    (hc : c ∉ ['<', '&', '\r']) : Ensures (r.step readEntity c) (Gains r [c]) := by
  obtain ⟨⟨brackets, hmode⟩, hempty⟩ := isInElement_iff.1 h
  simp only [List.mem_cons, List.not_mem_nil, or_false, not_or] at hc
  have hread : Ensures (r.readContent brackets c) fun s =>
      ∃ brackets, s = (r.addCharacter c).turn (.content brackets) := by
    unfold readContent
    rw [if_neg hc.1, hempty, if_neg Bool.false_ne_true, if_neg hc.2.1]
    split_ifs
    · exact .pure ⟨_, rfl⟩
    · exact .fail _ _
    · exact .pure ⟨_, rfl⟩
    · exact .fail _ _
  rw [step_of_content hmode hc.2.2]
  refine hread.bind ?_
  rintro _ ⟨brackets', rfl⟩
  exact .pure ⟨gists_prepend r [c] (.content brackets'), rfl, rfl, rfl, brackets', rfl⟩

/-- Characters that are no markup are text in an element. -/
theorem ensures_run_characters {cs : List Char} (hcs : ∀ c ∈ cs, c ∉ ['<', '&', '\r'])
    (h : r.isInElement = true) : Ensures (r.run readEntity cs) (Gains r cs) := by
  refine ensures_run ?_ (.self h)
  rintro front c back rfl s hs
  exact (ensures_step_character (hs.isInElement h) (hcs c (by simp))).mono fun t => hs.trans

theorem ensures_step_ampersand (h : r.isInElement = true) :
    Ensures (r.step readEntity '&') (Turned r (.reference .start)) := by
  obtain ⟨⟨brackets, hmode⟩, hempty⟩ := isInElement_iff.1 h
  rw [step_of_content hmode (by decide), readContent, hempty]
  exact .pure ⟨r.position.next '&', rfl, rfl⟩

/-- One more character of a reference. -/
theorem ensures_step_inReference {state next : ReferenceState} {c : Char}
    (hmode : r.mode = .reference state) (hc : c ≠ '\r')
    (h : ∀ site, state.step site c = .ok (.unfinished next)) :
    Ensures (r.step readEntity c) (Turned r (.reference next)) := by
  rw [step_of_reference hmode hc, readReference, h]
  exact .pure ⟨r.position.next c, rfl, rfl⟩

/-- The name of a reference, from its second character on. -/
theorem ensures_run_name {first : Char} {cs : List Char}
    (hmode : r.mode = .reference (.name [first])) (hcs : ∀ c ∈ cs, isColonNamePart c = true) :
    Ensures (r.run readEntity cs) (Turned r (.reference (.name (cs.reverse ++ [first])))) := by
  let holds (front : List Char) : Reader → Prop :=
    Turned r (.reference (.name (front.reverse ++ [first])))
  have hrun : Ensures (r.run readEntity cs) (holds cs) := by
    refine ensures_run ?_ (.self hmode)
    rintro front c back rfl s ⟨position, hposition, rfl⟩
    have hc := hcs c (by simp)
    have hne := (ne_of_isColonNamePart hc).2
    simp only [List.mem_cons, List.not_mem_nil, or_false, not_or] at hne
    have hstep : ∀ site, (ReferenceState.name (front.reverse ++ [first])).step site c =
        .ok (.unfinished (.name (c :: (front.reverse ++ [first])))) := by
      intro site
      rw [ReferenceState.step, if_neg hne.2.2.1]
      exact if_pos hc
    refine (ensures_step_inReference rfl hne.2.2.2 hstep).mono ?_
    rintro _ ⟨position', hposition', rfl⟩
    exact ⟨position', hposition'.trans hposition, by simp⟩
  exact hrun

/-- The end of a reference to an entity. -/
theorem ensures_step_referenceEnd {reversed : List Char}
    (hmode : r.mode = .reference (.name reversed))
    (hreserved : reservedCharacter? reversed.reverse = none) :
    Ensures (r.step readEntity ';') (Gains r ('&' :: reversed.reverse ++ [';'])) := by
  let after : Reader := { r with position := r.position.next ';' }
  let name := String.ofList reversed.reverse
  have hread : Ensures (r.readReference readEntity (.name reversed) ';')
      (· = (after.flush.addChild (.reference name)).turn (.content 0)) := by
    unfold readReference
    refine Ensures.bind (.ofExcept _) fun next hnext => ?_
    rw [ReferenceState.step, if_pos rfl, ReferenceState.finishName, hreserved] at hnext
    split_ifs at hnext
    cases hnext
    exact (ensures_refer readEntity after name).bind fun _ h => .pure (by rw [h])
  rw [step_of_reference hmode (by decide)]
  refine hread.bind ?_
  rintro _ rfl
  have hpending : after.flush.pending = [] := by rw [flush_eq]
  refine .pure ⟨?_, ?_, ?_, rfl, 0, rfl⟩
  · refine (gists_addChild hpending (.reference name)).trans ?_
    rw [gists_flush, Node.textInside, String.toList_ofList]
    rfl
  · simp only [turn]
    rw [addChild_eq, flush_eq]
  · simp only [turn]
    rw [addChild_eq, flush_eq]

/-- The end of a reference to a character that has a name in every document. -/
theorem ensures_step_reservedEnd {reversed : List Char} {c : Char}
    (hmode : r.mode = .reference (.name reversed))
    (hreserved : reservedCharacter? reversed.reverse = some c) :
    Ensures (r.step readEntity ';') (Gains r [c]) := by
  have hread : Ensures (r.readReference readEntity (.name reversed) ';')
      (· = (r.addCharacter c).turn (.content 0)) := by
    unfold readReference
    refine Ensures.bind (.ofExcept _) fun next hnext => ?_
    rw [ReferenceState.step, if_pos rfl, ReferenceState.finishName, hreserved] at hnext
    cases hnext
    exact .pure rfl
  rw [step_of_reference hmode (by decide)]
  refine hread.bind ?_
  rintro _ rfl
  exact .pure ⟨gists_prepend r [c] (.content 0), rfl, rfl, rfl, 0, rfl⟩

/-- A reference from its ampersand to the end of its name. -/
theorem ensures_run_unfinished {name : List Char} (hname : isColonName name = true)
    (h : r.isInElement = true) :
    Ensures (r.run readEntity ('&' :: name)) (Turned r (.reference (.name name.reverse))) := by
  cases name with
  | nil => cases hname
  | cons first rest =>
    obtain ⟨hfirst, hrest⟩ := Bool.and_eq_true_iff.1 hname
    have hpart := isColonNamePart_of_isColonName hname first (by simp)
    have hne := (ne_of_isColonNamePart hpart).2
    simp only [List.mem_cons, List.not_mem_nil, or_false, not_or] at hne
    have hhash : first ≠ '#' := by
      rintro rfl
      revert hfirst
      decide
    have hstep : ∀ site, ReferenceState.start.step site first =
        .ok (.unfinished (.name [first])) := by
      intro site
      rw [ReferenceState.step, if_neg hhash]
      exact if_pos hfirst
    refine ensures_run_cons (ensures_step_ampersand h) fun s hs => ?_
    refine ensures_run_cons (ensures_step_inReference hs.mode_eq hne.2.2.2 hstep) fun t ht => ?_
    refine (ensures_run_name ht.mode_eq (List.all_eq_true.1 hrest)).mono fun u hu => ?_
    rw [List.reverse_cons]
    exact (hs.trans ht).trans hu

/-- A reference to an entity adds the characters that write it. -/
theorem ensures_run_reference {name : List Char} (hname : isColonName name = true)
    (hreserved : reservedCharacter? name = none) (h : r.isInElement = true) :
    Ensures (r.run readEntity ('&' :: name ++ [';'])) (Gains r ('&' :: name ++ [';'])) := by
  rw [run_append]
  refine (ensures_run_unfinished hname h).bind fun s hs => ?_
  refine ensures_run_cons (ensures_step_referenceEnd hs.mode_eq (by rwa [List.reverse_reverse]))
    fun t ht => .pure ?_
  rw [List.reverse_reverse] at ht
  exact hs.gains ht

/-- The characters that write a reference can be written themselves. -/
theorem ensures_run_spelled {name : List Char} (hname : isColonName name = true)
    (h : r.isInElement = true) :
    Ensures (r.run readEntity (['&', 'a', 'm', 'p', ';'] ++ (name ++ [';'])))
      (Gains r ('&' :: name ++ [';'])) := by
  have hampersand : Ensures (r.run readEntity ['&', 'a', 'm', 'p', ';']) (Gains r ['&']) := by
    refine (run_append readEntity r ('&' :: ['a', 'm', 'p']) [';']).symm ▸ ?_
    refine (ensures_run_unfinished (by decide) h).bind fun s hs => ?_
    exact ensures_run_cons (ensures_step_reservedEnd hs.mode_eq rfl) fun t ht =>
      .pure (hs.gains ht)
  have hplain : ∀ c ∈ name ++ [';'], c ∉ ['<', '&', '\r'] := by
    intro c hc
    rcases List.mem_append.1 hc with hc | hc
    · have hne := (ne_of_isColonNamePart (isColonNamePart_of_isColonName hname c hc)).2
      simp only [List.mem_cons, List.not_mem_nil, or_false, not_or] at hne ⊢
      exact ⟨hne.1, hne.2.1, hne.2.2.2⟩
    · rw [List.mem_singleton.1 hc]
      decide
  rw [run_append]
  refine hampersand.bind fun s hs => ?_
  exact (ensures_run_characters hplain (hs.isInElement h)).mono fun t => hs.trans

end

end Reader

end LayeredConfig.Xml

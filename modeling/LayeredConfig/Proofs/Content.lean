import LayeredConfig.Xml.Document
import Mathlib.Data.List.TakeWhile
import Mathlib.Tactic.SplitIfs

/-! Reading of content that is written with elements, characters and references to characters only.
Each piece takes the reader from one standing to another and finds nothing to object to: a start tag
opens an element, an end tag closes it, and what stands between is its content. -/

namespace LayeredConfig.Xml

namespace Reader

/-! ### Standings -/

/-- What is known of a document in which nothing is declared and nothing was found. -/
def unremarkable : Context := .start false .none

/-- Where a reader of the document itself stands: the open elements, the root, the pending text and
the mode, which is one of some. -/
structure Stands (elements : List OpenElement) (root : Option Node) (pending : List Char)
    (modes : Mode → Prop) (r : Reader) : Prop where
  elements_eq : r.elements = elements
  root_eq : r.root = root
  pending_eq : r.pending = pending
  mode : modes r.mode
  depth_eq : r.depth = 0
  outer_eq : r.position.outer = none

/-- A standing between markup. -/
def InContent (elements : List OpenElement) (root : Option Node) (pending : List Char) :
    Reader → Prop :=
  Stands elements root pending fun mode => ∃ brackets, mode = .content brackets

/-- Whether characters take every reader that stands as is said first to where is said last. -/
def Reads (before : Reader → Prop) (cs : List Char) (after : Reader → Prop) : Prop :=
  ∀ r, before r → ∃ s, r.run (readEntity Position.depthLimit) cs .keep unremarkable =
    .ok (s, unremarkable) ∧ after s

namespace Reads

variable {before between after : Reader → Prop}

theorem nil : Reads before [] before :=
  fun r h => ⟨r, rfl, h⟩

theorem append {first second : List Char} (h : Reads before first between)
    (h' : Reads between second after) : Reads before (first ++ second) after := by
  intro r hr
  obtain ⟨s, hs, hbetween⟩ := h r hr
  obtain ⟨t, ht, hafter⟩ := h' s hbetween
  refine ⟨t, ?_, hafter⟩
  rw [run_append, Reading.bind_eq, hs]
  exact ht

theorem cons {c : Char} {cs : List Char} (h : Reads before [c] between)
    (h' : Reads between cs after) : Reads before (c :: cs) after :=
  h.append h'

theorem mono {cs : List Char} {weaker : Reader → Prop} (h : Reads before cs after)
    (hw : ∀ r, after r → weaker r) : Reads before cs weaker := by
  intro r hr
  obtain ⟨s, hs, hafter⟩ := h r hr
  exact ⟨s, hs, hw s hafter⟩

/-- Characters of a class whose effect is a change of a value in the standing. -/
theorem foldl {β : Type} (standing : β → Reader → Prop) {allowed : Char → Prop}
    (change : β → Char → β) (h : ∀ b c, allowed c → Reads (standing b) [c] (standing (change b c)))
    {cs : List Char} (hcs : ∀ c ∈ cs, allowed c) (b : β) :
    Reads (standing b) cs (standing (cs.foldl change b)) := by
  induction cs generalizing b with
  | nil => exact nil
  | cons c cs ih =>
    exact cons (h b c (hcs c (by simp))) (ih (fun d hd => hcs d (by simp [hd])) (change b c))

/-- One character, by what it does to a reader. -/
theorem one {elements elements' : List OpenElement} {root root' : Option Node}
    {pending pending' : List Char} {modes modes' : Mode → Prop} {c : Char}
    (h : ∀ r, Stands elements root pending modes r → ∃ s,
      r.read (readEntity Position.depthLimit) c .keep unremarkable = .ok (s, unremarkable) ∧
        s.elements = elements' ∧ s.root = root' ∧ s.pending = pending' ∧ modes' s.mode ∧
          s.depth = 0) :
    Reads (Stands elements root pending modes) [c] (Stands elements' root' pending' modes') := by
  intro r hr
  obtain ⟨s, hs, he, hroot, hp, hm, hd⟩ := h r hr
  refine ⟨{ s with position := r.position.next c }, ?_, he, hroot, hp, hm, hd, hr.outer_eq⟩
  simp only [run, List.foldlM_cons, List.foldlM_nil, step, Reading.bind_eq, hs, Reading.pure_eq]

end Reads

/-! ### Characters and references -/

/-- A character that is no markup is added to the pending text. -/
theorem reads_character {c : Char} (hlegal : isLegal (meant c) = true)
    (hc : meant c ∉ ['<', '&', '>']) (e : OpenElement) (es : List OpenElement)
    (root : Option Node) (pending : List Char) :
    Reads (InContent (e :: es) root pending) [c]
      (InContent (e :: es) root (meant c :: pending)) := by
  simp only [List.mem_cons, List.not_mem_nil, or_false, not_or] at hc
  refine .one fun r ⟨he, hr, hp, hm, hd, _⟩ => ?_
  obtain ⟨brackets, hmode⟩ := hm
  by_cases hb : meant c = ']'
  · refine ⟨(r.addCharacter (meant c)).turn (.content (min 2 (brackets + 1))), ?_, he, hr, ?_,
      ⟨_, rfl⟩, hd⟩
    · simp [read, hmode, readMeant, readContent, he, hb, Reading.pure_eq]
    · simp [turn, addCharacter, hp]
  · refine ⟨(r.addCharacter (meant c)).turn (.content 0), ?_, he, hr, ?_, ⟨_, rfl⟩, hd⟩
    · simp [read, hmode, readMeant, readContent, he, hc, hb, hlegal, Reading.pure_eq]
    · simp [turn, addCharacter, hp]

/-- Outside the root a blank is passed over. -/
theorem reads_space {c : Char} (hc : isSpace (meant c) = true) (root : Option Node) :
    Reads (InContent [] root []) [c] (InContent [] root []) := by
  have hne : meant c ≠ '<' := by
    rintro h
    rw [h] at hc
    revert hc
    decide
  refine .one fun r ⟨he, hr, hp, ⟨brackets, hmode⟩, hd, _⟩ => ⟨r, ?_, he, hr, hp, ⟨_, hmode⟩, hd⟩
  simp [read, hmode, readMeant, readContent, he, hc, hne, Reading.pure_eq]

section Reference
variable (e : OpenElement) (es : List OpenElement) (root : Option Node) (pending : List Char)

theorem reads_ampersand : Reads (InContent (e :: es) root pending) ['&']
    (Stands (e :: es) root pending (· = .reference .start)) := by
  refine .one fun r ⟨he, hr, hp, ⟨brackets, hmode⟩, hd, _⟩ =>
    ⟨r.turn (.reference .start), ?_, he, hr, hp, rfl, hd⟩
  have hmeant : meant '&' = '&' := by decide
  simp [read, hmode, readMeant, readContent, he, hmeant, Reading.pure_eq]

theorem reads_inReference (state next : ReferenceState) {c : Char} (hc : c ≠ '\r')
    (h : ∀ site, state.step site c = .ok (.unfinished next)) :
    Reads (Stands (e :: es) root pending (· = .reference state)) [c]
      (Stands (e :: es) root pending (· = .reference next)) := by
  refine .one fun r ⟨he, hr, hp, hmode, hd, _⟩ =>
    ⟨r.turn (.reference next), ?_, he, hr, hp, rfl, hd⟩
  have hmeant : meant c = c := if_neg hc
  simp [read, hmode, readMeant, readReference, hmeant, h, Reading.ofExcept, Reading.bind_eq,
    Reading.pure_eq]

theorem reads_referenceEnd {state : ReferenceState} {d : Char}
    (h : ∀ site, state.step site ';' = .ok (.finished (.character d))) :
    Reads (Stands (e :: es) root pending (· = .reference state)) [';']
      (InContent (e :: es) root (d :: pending)) := by
  refine .one fun r ⟨he, hr, hp, hmode, hd, _⟩ =>
    ⟨(r.addCharacter d).turn (.content 0), ?_, he, hr, ?_, ⟨_, rfl⟩, hd⟩
  · have hmeant : meant ';' = ';' := by decide
    simp [read, hmode, readMeant, readReference, hmeant, h, Reading.ofExcept, Reading.bind_eq,
      Reading.pure_eq]
  · simp [turn, addCharacter, hp]

end Reference

end Reader

/-! ### Spellings -/

def decimalValue (digits : List Char) : Nat :=
  digits.foldl (fun value c => 10 * value + (c.toNat - '0'.toNat)) 0

def hexadecimalValue (digits : List Char) : Nat :=
  digits.foldl (fun value c => 16 * value + (hexValue? c).getD 0) 0

/-- Whether characters write one character of a text: the character itself unless it is markup or a
carriage return, or a reference to it by its name or its number. -/
inductive Spells (c : Char) : List Char → Prop
  | plain : c ∉ ['&', '<', '>', '\r'] → Spells c [c]
  | named (name : List Char) : reservedCharacter? name = some c → Spells c ('&' :: name ++ [';'])
  | decimal (digits : List Char) : digits ≠ [] → (∀ d ∈ digits, d.isDigit = true) →
    decimalValue digits = c.toNat → Spells c ('&' :: '#' :: digits ++ [';'])
  | hexadecimal (digits : List Char) : digits ≠ [] → (∀ d ∈ digits, (hexValue? d).isSome = true) →
    hexadecimalValue digits = c.toNat → Spells c ('&' :: '#' :: 'x' :: digits ++ [';'])

/-- Whether characters write a text, character by character. -/
inductive SpellsAll : List Char → List Char → Prop
  | nil : SpellsAll [] []
  | cons {c : Char} {text spelled rest : List Char} :
    Spells c spelled → SpellsAll text rest → SpellsAll (c :: text) (spelled ++ rest)

theorem legalCharacter?_toNat {c : Char} (h : isLegal c = true) :
    legalCharacter? c.toNat = some c := by
  have hvalid : c.toNat.isValidChar := c.valid
  simp [legalCharacter?, hvalid, h]

namespace Reader

variable {e : OpenElement} {es : List OpenElement} {root : Option Node} {pending : List Char}

private abbrev InReference (e : OpenElement) (es : List OpenElement) (root : Option Node)
    (pending : List Char) (state : ReferenceState) : Reader → Prop :=
  Stands (e :: es) root pending (· = .reference state)

theorem ne_of_isNamePart {c : Char} (h : isNamePart c = true) : c ≠ ';' ∧ c ≠ '\r' := by
  constructor <;> rintro rfl <;> revert h <;> decide

theorem ne_of_isDigit {c : Char} (h : c.isDigit = true) : c ≠ ';' ∧ c ≠ 'x' ∧ c ≠ '\r' := by
  refine ⟨?_, ?_, ?_⟩ <;> rintro rfl <;> revert h <;> decide

theorem ne_of_hexValue? {c : Char} (h : (hexValue? c).isSome = true) : c ≠ ';' ∧ c ≠ '\r' := by
  constructor <;> rintro rfl <;> revert h <;> decide

/-- The parts of a name are gathered in reverse order where each of them is. -/
theorem reads_nameParts (standing : List Char → Reader → Prop)
    (h : ∀ reversed d, isNamePart d = true →
      Reads (standing reversed) [d] (standing (d :: reversed)))
    {cs : List Char} (hcs : ∀ c ∈ cs, isNamePart c = true) (reversed : List Char) :
    Reads (standing reversed) cs (standing (cs.reverse ++ reversed)) := by
  have hread := Reads.foldl standing (fun reversed d => d :: reversed) h hcs reversed
  rwa [List.foldl_flip_cons_eq_append'] at hread

theorem reads_referenceName {name : List Char} (h : isSimpleName name = true) :
    Reads (InReference e es root pending .start) name
      (InReference e es root pending (.name name.reverse)) := by
  cases name with
  | nil => cases h
  | cons c cs =>
    obtain ⟨hc, hcs⟩ := Bool.and_eq_true_iff.1 h
    have hstart : c ≠ '#' ∧ c ≠ '\r' := by
      constructor <;> rintro rfl <;> revert hc <;> decide
    have hfirst := reads_inReference e es root pending .start (.name [c]) hstart.2 fun site => by
      simp [ReferenceState.step, hstart.1, hc]
    have hrest := reads_nameParts (fun reversed => InReference e es root pending (.name reversed))
      (fun reversed d hd =>
        reads_inReference e es root pending _ _ (ne_of_isNamePart hd).2 fun site => by
          simp [ReferenceState.step, (ne_of_isNamePart hd).1, hd])
      (List.all_eq_true.1 hcs) [c]
    simpa using hfirst.cons hrest

theorem reads_decimal {digits : List Char} (hne : digits ≠ [])
    (h : ∀ d ∈ digits, d.isDigit = true) :
    Reads (InReference e es root pending .number) digits
      (InReference e es root pending (.decimal (decimalValue digits))) := by
  cases digits with
  | nil => exact absurd rfl hne
  | cons c cs =>
    have hc := h c (by simp)
    have hfirst := reads_inReference e es root pending .number
      (.decimal (10 * 0 + (c.toNat - '0'.toNat))) (ne_of_isDigit hc).2.2 fun site => by
        simp [ReferenceState.step, (ne_of_isDigit hc).2.1, hc]
    exact hfirst.cons (.foldl (fun value => InReference e es root pending (.decimal value)) _
      (fun value d hd =>
        reads_inReference e es root pending _ _ (ne_of_isDigit hd).2.2 fun site => by
          simp [ReferenceState.step, (ne_of_isDigit hd).1, hd])
      (fun d hd => h d (by simp [hd])) _)

theorem reads_hexadecimal {digits : List Char} (hne : digits ≠ [])
    (h : ∀ d ∈ digits, (hexValue? d).isSome = true) :
    Reads (InReference e es root pending .hexadecimalStart) digits
      (InReference e es root pending (.hexadecimal (hexadecimalValue digits))) := by
  cases digits with
  | nil => exact absurd rfl hne
  | cons c cs =>
    obtain ⟨digit, hdigit⟩ := Option.isSome_iff_exists.1 (h c (by simp))
    have hfirst := reads_inReference e es root pending .hexadecimalStart
      (.hexadecimal (16 * 0 + (hexValue? c).getD 0)) (ne_of_hexValue? (h c (by simp))).2
      fun site => by simp [ReferenceState.step, hdigit]
    exact hfirst.cons (.foldl (fun value => InReference e es root pending (.hexadecimal value)) _
      (fun value d (hd : (hexValue? d).isSome = true) =>
        reads_inReference e es root pending _ _ (ne_of_hexValue? hd).2 fun site => by
          obtain ⟨digit, hdigit⟩ := Option.isSome_iff_exists.1 hd
          simp [ReferenceState.step, (ne_of_hexValue? hd).1, hdigit])
      (fun d hd => h d (by simp [hd])) _)

theorem isSimpleName_of_reservedCharacter? {name : List Char} {c : Char}
    (h : reservedCharacter? name = some c) : isSimpleName name = true := by
  unfold reservedCharacter? at h
  split_ifs at h <;> subst name <;> decide

/-- A character of a text is added to the pending text, however it is written. -/
theorem reads_of_spells {c : Char} {cs : List Char} (h : Spells c cs) (hlegal : isLegal c = true) :
    Reads (InContent (e :: es) root pending) cs (InContent (e :: es) root (c :: pending)) := by
  have hfinish : ∀ value, value = c.toNat →
      ReferenceState.finishNumber value = .ok (.finished (.character c)) := by
    rintro _ rfl
    simp [ReferenceState.finishNumber, legalCharacter?_toNat hlegal]
  have hnumber : Reads (InContent (e :: es) root pending) ['&', '#']
      (InReference e es root pending .number) :=
    (reads_ampersand e es root pending).cons
      (reads_inReference e es root pending _ _ (by decide) fun site => rfl)
  cases h with
  | plain hc =>
    simp only [List.mem_cons, List.not_mem_nil, or_false, not_or] at hc
    have hmeant : meant c = c := if_neg hc.2.2.2
    have hread := @reads_character c (by rw [hmeant]; exact hlegal)
      (by rw [hmeant]; simp [hc]) e es root pending
    rwa [hmeant] at hread
  | named name hname =>
    refine ((reads_ampersand e es root pending).cons
      (reads_referenceName (isSimpleName_of_reservedCharacter? hname))).append
      (reads_referenceEnd e es root pending fun site => ?_)
    simp [ReferenceState.step, ReferenceState.finishName, hname]
  | decimal digits hne hdigits hvalue =>
    refine (hnumber.append (reads_decimal hne hdigits)).append
      (reads_referenceEnd e es root pending fun site => ?_)
    simp [ReferenceState.step, hfinish _ hvalue]
  | hexadecimal digits hne hdigits hvalue =>
    have hstart := hnumber.append (@reads_inReference e es root pending _ _ 'x' (by decide)
      fun site => rfl)
    refine (hstart.append (reads_hexadecimal hne hdigits)).append
      (reads_referenceEnd e es root pending fun site => ?_)
    simp [ReferenceState.step, hfinish _ hvalue]

/-- A text is added to the pending text. -/
theorem reads_of_spellsAll {text cs : List Char} (h : SpellsAll text cs)
    (hlegal : ∀ c ∈ text, isLegal c = true) :
    Reads (InContent (e :: es) root pending) cs
      (InContent (e :: es) root (text.reverse ++ pending)) := by
  induction h generalizing pending with
  | nil => exact .nil
  | @cons c _ _ _ hc _ ih =>
    have hrest := @ih (c :: pending) fun d hd => hlegal d (by simp [hd])
    simpa using (reads_of_spells hc (hlegal _ (by simp))).append hrest

/-! ### Tags -/

/-- An open element without qualifier and attributes, with its children so far in reverse order. -/
def opened (name : String) (children : List Node) : OpenElement :=
  ⟨⟨none, name⟩, none, [], [], children⟩

/-- Children in reverse order with the pending text, unless there is none. -/
def withPending (children : List Node) (pending : List Char) : List Node :=
  if pending.isEmpty then children else .text (String.ofList pending.reverse) :: children

/-- Whether a text is a name that a tag can have without qualifier. -/
def IsTagName (name : String) : Prop :=
  isSimpleName name.toList = true ∧ isOverlong name.toList = false

instance (name : String) : Decidable (IsTagName name) :=
  inferInstanceAs (Decidable (_ ∧ _))

theorem IsTagName.isNamePart {name : String} (h : IsTagName name) :
    ∀ c ∈ name.toList, isNamePart c = true := by
  have hsimple := h.1
  cases hcs : name.toList with
  | nil => simp
  | cons c cs =>
    rw [hcs] at hsimple
    obtain ⟨hc, hrest⟩ := Bool.and_eq_true_iff.1 hsimple
    intro d hd
    rcases List.mem_cons.1 hd with rfl | hd
    · simp [Xml.isNamePart, hc]
    · exact List.all_eq_true.1 hrest d hd

theorem not_mem_of_isSimpleName {cs : List Char} (h : isSimpleName cs = true) : ':' ∉ cs := by
  cases cs with
  | nil => cases h
  | cons c cs =>
    obtain ⟨hc, hcs⟩ := Bool.and_eq_true_iff.1 h
    intro hm
    rcases List.mem_cons.1 hm with rfl | hm
    · revert hc
      decide
    · have hcolon := List.all_eq_true.1 hcs ':' hm
      revert hcolon
      decide

theorem ofChars?_of_isSimpleName {cs : List Char} (h : isSimpleName cs = true) :
    QualifiedName.ofChars? cs = some ⟨none, String.ofList cs⟩ := by
  have hne : ∀ c ∈ cs, (c != ':') = true := by
    intro c hc
    refine bne_iff_ne.2 ?_
    rintro rfl
    exact not_mem_of_isSimpleName h hc
  have hdrop : cs.dropWhile (· != ':') = [] := List.dropWhile_eq_nil_iff.2 hne
  have htake : cs.takeWhile (· != ':') = cs := List.takeWhile_eq_self_iff.2 hne
  rw [QualifiedName.ofChars?, hdrop, htake]
  exact if_pos h

theorem readName_of_isTagName {name : String} (h : IsTagName name) :
    readName name.toList.reverse .keep unremarkable = .ok (⟨none, name⟩, unremarkable) := by
  have hempty : isOverlong "".toList = false := by decide
  simp only [readName, List.reverse_reverse, ofChars?_of_isSimpleName h.1, String.ofList_toList,
    h.2, Option.getD_none, hempty]
  rfl

theorem finish_of_isTagName (name : String) (position : Position) :
    Tag.finish ⟨⟨none, name⟩, [], []⟩ position [] .keep unremarkable =
      .ok (⟨⟨none, name⟩, none, [], []⟩, unremarkable) := by
  obtain ⟨texts, outer, place, octets⟩ := position
  cases outer <;> rfl

/-- The open elements once the pending text is among the children of the innermost one. -/
def settled : List OpenElement → List Char → List OpenElement
  | [], _ => []
  | e :: es, pending => { e with children := withPending e.children pending } :: es

@[simp] theorem length_settled (elements : List OpenElement) (pending : List Char) :
    (settled elements pending).length = elements.length := by
  cases elements <;> rfl

@[simp] theorem settled_eq_nil {elements : List OpenElement} {pending : List Char} :
    settled elements pending = [] ↔ elements = [] := by
  cases elements <;> simp [settled]

theorem flush_of_stands {elements : List OpenElement} {root : Option Node} {pending : List Char}
    {modes : Mode → Prop} {r : Reader} (h : Stands elements root pending modes r)
    (hp : elements = [] → pending = []) :
    r.flush.elements = settled elements pending ∧ r.flush.root = root ∧ r.flush.pending = [] ∧
      r.flush.depth = 0 := by
  obtain ⟨rfl, rfl, rfl, -, hd, -⟩ := h
  unfold flush
  cases hpending : r.pending with
  | nil =>
    cases he : r.elements <;> simp [settled, withPending, hpending, hd, he]
  | cons c cs =>
    cases he : r.elements with
    | nil => simp [hp he] at hpending
    | cons e es => simp [addChild, he, settled, withPending, hd]

/-- After the mark of a tag the pending text is settled. -/
theorem reads_opening {elements : List OpenElement} {root : Option Node} {pending : List Char}
    (hp : elements = [] → pending = []) :
    Reads (InContent elements root pending) ['<']
      (Stands (settled elements pending) root [] (· = .opening)) := by
  refine .one fun r hr => ?_
  obtain ⟨he, hroot, hpending, hdepth⟩ := flush_of_stands hr hp
  obtain ⟨brackets, hmode⟩ := hr.mode
  refine ⟨r.flush.turn .opening, ?_, he, hroot, hpending, rfl, hdepth⟩
  have hmeant : meant '<' = '<' := by decide
  simp [read, hmode, readMeant, readContent, hmeant, Reading.pure_eq]

section Tags
variable {name : String} {elements : List OpenElement} {root : Option Node}

theorem ne_of_isNameStart {c : Char} (h : isNameStart c = true) :
    c ≠ '!' ∧ c ≠ '?' ∧ c ≠ '/' ∧ c ≠ '\r' := by
  refine ⟨?_, ?_, ?_, ?_⟩ <;> rintro rfl <;> revert h <;> decide

/-- The name of a start tag. -/
theorem reads_tagName (hname : IsTagName name) (hroot : elements = [] → root = none) :
    Reads (Stands elements root [] (· = .opening)) name.toList
      (Stands elements root [] (· = .tagName name.toList.reverse)) := by
  have hsimple := hname.1
  cases hcs : name.toList with
  | nil =>
    rw [hcs] at hsimple
    cases hsimple
  | cons c cs =>
    rw [hcs] at hsimple
    obtain ⟨hc, hrest⟩ := Bool.and_eq_true_iff.1 hsimple
    have hne := ne_of_isNameStart hc
    have hfirst : Reads (Stands elements root [] (· = .opening)) [c]
        (Stands elements root [] (· = .tagName [c])) := by
      refine .one fun r ⟨he, hr, hp, hmode, hd, _⟩ =>
        ⟨r.turn (.tagName [c]), ?_, he, hr, hp, rfl, hd⟩
      have hmeant : meant c = c := if_neg hne.2.2.2
      have hplace : (r.elements.isEmpty && r.root.isSome) = false := by
        cases hel : elements <;> simp [he, hr, hel, hroot]
      simp [read, hmode, readMeant, readOpening, hmeant, hne, hplace, isColonNameStart, hc,
        Reading.pure_eq]
    have hmore := reads_nameParts (fun reversed => Stands elements root [] (· = .tagName reversed))
      (fun reversed d hd => .one fun r ⟨he, hr, hp, hmode, hdepth, _⟩ =>
        ⟨r.turn (.tagName (d :: reversed)), by
          have hmeant : meant d = d := if_neg (ne_of_isNamePart hd).2
          simp [read, hmode, readMeant, readTagName, hmeant, isColonNamePart, hd, Reading.pure_eq],
          he, hr, hp, rfl, hdepth⟩)
      (List.all_eq_true.1 hrest) [c]
    simpa using hfirst.cons hmore

section Room
variable {pending : List Char} {modes : Mode → Prop} {r : Reader}
  (h : Stands (settled elements pending) root [] modes r)
include h

theorem Stands.scope_eq_nil (hscope : ∀ e ∈ elements.head?, e.scope = []) : r.scope = [] := by
  rw [scope, h.elements_eq]
  cases elements with
  | nil => rfl
  | cons e es => exact hscope e rfl

theorem Stands.hasRoom (hdepth : elements.length < depthLimit) :
    r.depth + r.elements.length < depthLimit := by
  rw [h.depth_eq, h.elements_eq, length_settled, Nat.zero_add]
  exact hdepth

end Room

theorem openElement_of_isTagName {r : Reader} (hscope : r.scope = [])
    (hdepth : r.depth + r.elements.length < depthLimit) (name : String) :
    r.openElement ⟨⟨none, name⟩, [], []⟩ .keep unremarkable =
      .ok ({ r with elements := opened name [] :: r.elements, mode := .content 0 },
        unremarkable) := by
  simp only [openElement, Reading.bind_eq, hscope, finish_of_isTagName, checkDepth, if_pos hdepth,
    Reading.pure_eq]
  rfl

/-- A start tag opens an element in one whose scope is empty, or as the root. -/
theorem reads_startTag {pending : List Char} (hname : IsTagName name)
    (hscope : ∀ e ∈ elements.head?, e.scope = []) (hdepth : elements.length < depthLimit)
    (hroot : elements = [] → root = none ∧ pending = []) :
    Reads (InContent elements root pending) ('<' :: name.toList ++ ['>'])
      (InContent (opened name [] :: settled elements pending) root []) := by
  have hnone : settled elements pending = [] → root = none :=
    fun hempty => (hroot (settled_eq_nil.1 hempty)).1
  refine ((reads_opening fun he => (hroot he).2).cons (reads_tagName hname hnone)).append ?_
  refine .one fun r h => ⟨{ r with elements := opened name [] :: r.elements, mode := .content 0 },
    ?_, ?_, h.root_eq, h.pending_eq, ⟨0, rfl⟩, h.depth_eq⟩
  · have hmeant : meant '>' = '>' := by decide
    have hpart : isColonNamePart '>' = false := by decide
    have hspace : isSpace '>' = false := by decide
    have hopen := openElement_of_isTagName (h.scope_eq_nil hscope) (h.hasRoom hdepth) name
    simp [read, h.mode, readMeant, readTagName, hmeant, hpart, readTag, hspace, Reading.bind_eq,
      readName_of_isTagName hname, hopen]
  · simp [h.elements_eq]

/-- The open elements with a finished node in the innermost one. -/
def withNode (node : Node) : List OpenElement → List OpenElement
  | [] => []
  | e :: es => { e with children := node :: e.children } :: es

/-- The root once a node is finished, which is the root if nothing else is open. -/
def rootAfter (node : Node) (elements : List OpenElement) (root : Option Node) : Option Node :=
  if elements.isEmpty then some node else root

/-- The name of an end tag. -/
theorem reads_endName (hname : IsTagName name) :
    Reads (Stands elements root [] (· = .endName [])) name.toList
      (Stands elements root [] (· = .endName name.toList.reverse)) := by
  have hread := reads_nameParts (fun reversed => Stands elements root [] (· = .endName reversed))
    (fun reversed d hd => .one fun r ⟨he, hr, hp, hmode, hdepth, _⟩ =>
      ⟨r.turn (.endName (d :: reversed)), by
        have hmeant : meant d = d := if_neg (ne_of_isNamePart hd).2
        simp [read, hmode, readMeant, readEndName, hmeant, isColonNamePart, hd, Reading.pure_eq],
        he, hr, hp, rfl, hdepth⟩)
    hname.isNamePart []
  simpa using hread

/-- An end tag makes a node of the element that it closes. -/
theorem reads_endTag {children : List Node} {pending : List Char} (hname : IsTagName name) :
    Reads (InContent (opened name children :: elements) root pending)
      ('<' :: '/' :: name.toList ++ ['>'])
      (InContent
        (withNode (.element ⟨none, name⟩ none [] (withPending children pending).reverse) elements)
        (rootAfter (.element ⟨none, name⟩ none [] (withPending children pending).reverse) elements
          root) []) := by
  let closing := opened name (withPending children pending) :: elements
  have hopening : Reads (InContent (opened name children :: elements) root pending) ['<']
      (Stands closing root [] (· = .opening)) := reads_opening (by simp)
  have hslash : Reads (Stands closing root [] (· = .opening)) ['/']
      (Stands closing root [] (· = .endName [])) := by
    refine .one fun r ⟨he, hr, hp, hmode, hd, ho⟩ => ⟨r.turn (.endName []), ?_, he, hr, hp, rfl, hd⟩
    have hmeant : meant '/' = '/' := by decide
    have hinside : r.isOutside = false := by simp [isOutside, ho, he, closing]
    simp [read, hmode, readMeant, readOpening, hmeant, hinside, he, closing, Reading.pure_eq]
  refine ((hopening.cons hslash).append (reads_endName hname)).append (.one ?_)
  rintro r ⟨he, hr, hp, hmode, hd, -⟩
  have hmeant : meant '>' = '>' := by decide
  have hpart : isColonNamePart '>' = false := by decide
  have htext : (⟨none, name⟩ : QualifiedName).text = String.ofList name.toList := by
    simp [QualifiedName.text]
  refine ⟨{ r with elements := elements }.addElement
    (.element ⟨none, name⟩ none [] (withPending children pending).reverse), ?_, ?_⟩
  · simp only [read, hmode, readMeant, readEndName, hmeant, hpart, closeElement, he, closing,
      opened, List.reverse_reverse, htext, if_true]
    rfl
  · cases elements with
    | nil => exact ⟨rfl, rfl, hp, ⟨0, rfl⟩, hd⟩
    | cons e es => exact ⟨rfl, hr, hp, ⟨0, rfl⟩, hd⟩

/-- The tag of an empty element makes a node at once. -/
theorem reads_emptyTag {pending : List Char} (hname : IsTagName name)
    (hscope : ∀ e ∈ elements.head?, e.scope = []) (hdepth : elements.length < depthLimit)
    (hroot : elements = [] → root = none ∧ pending = []) :
    Reads (InContent elements root pending) ('<' :: name.toList ++ ['/', '>'])
      (InContent (withNode (.element ⟨none, name⟩ none [] []) (settled elements pending))
        (rootAfter (.element ⟨none, name⟩ none [] []) elements root) []) := by
  have hnone : settled elements pending = [] → root = none :=
    fun hempty => (hroot (settled_eq_nil.1 hempty)).1
  have hslash : Reads (Stands (settled elements pending) root [] (· = .tagName name.toList.reverse))
      ['/'] (Stands (settled elements pending) root [] (· = .emptyTag ⟨⟨none, name⟩, [], []⟩)) := by
    refine .one fun r ⟨he, hr, hp, hmode, hd, _⟩ =>
      ⟨r.turn (.emptyTag ⟨⟨none, name⟩, [], []⟩), ?_, he, hr, hp, rfl, hd⟩
    have hmeant : meant '/' = '/' := by decide
    have hpart : isColonNamePart '/' = false := by decide
    have hspace : isSpace '/' = false := by decide
    simp [read, hmode, readMeant, readTagName, hmeant, hpart, readTag, hspace, Reading.bind_eq,
      readName_of_isTagName hname, Reading.pure_eq]
  have hparts : name.toList ++ ['/', '>'] = name.toList ++ ['/'] ++ ['>'] := by simp
  rw [List.cons_append, hparts]
  refine (reads_opening fun he => (hroot he).2).cons
    (((reads_tagName hname hnone).append hslash).append (.one ?_))
  intro r h
  have ⟨he, hr, hp, hmode, hd, _⟩ := h
  refine ⟨r.addElement (.element ⟨none, name⟩ none [] []), ?_, ?_⟩
  · have hmeant : meant '>' = '>' := by decide
    simp [read, hmode, readMeant, hmeant, addEmptyElement, Reading.bind_eq,
      h.scope_eq_nil hscope, finish_of_isTagName, checkDepth, h.hasRoom hdepth, Reading.pure_eq]
  · cases elements with
    | nil =>
      simp only [settled] at he
      simp [addElement, he, withNode, settled, rootAfter, hp, hd]
    | cons e es =>
      simp only [settled] at he
      simp [addElement, he, withNode, settled, rootAfter, addChild, turn, hp, hd, hr]

end Tags

end Reader

end LayeredConfig.Xml

import LayeredConfig.Proofs.Gist
import LayeredConfig.Xml.Document

/-! Documents that declare nothing. What becomes of references is a matter of entities, and these
are declared in the document type declaration only. So as long as no such declaration is met, a
reading takes the same course whether references are kept or replaced, down to the fault that ends
it: every reference to an entity is refused. The two trees of such a document differ by their
remarks only, and these say nothing. -/

namespace LayeredConfig.Xml

/-- Whether nothing is declared, and there is nothing that is not read. -/
structure Context.IsBare (x : Context) : Prop where
  declarations : x.declarations = .none
  mayHaveMore : x.mayHaveMore = false

theorem Context.isBare_start (standalone : Bool) (findings : Findings) :
    (start standalone findings).IsBare :=
  ⟨rfl, rfl⟩

/-- Changes that leave the declarations alone leave a context bare. -/
theorem Context.IsBare.of_eq {x y : Context} (h : x.IsBare)
    (hd : y.declarations = x.declarations) (hm : y.mayHaveMore = x.mayHaveMore) : y.IsBare :=
  ⟨hd.trans h.declarations, hm.trans h.mayHaveMore⟩

/-! ### Readings -/

namespace Reading

variable {α β : Type}

/-- Whether it makes no difference to a reading what becomes of references, and it declares nothing,
as long as nothing is declared. -/
def Neutral (m : Reading α) : Prop :=
  ∀ policy other x, x.IsBare →
    m policy x = m other x ∧ ∀ value y, m policy x = .ok (value, y) → y.IsBare

namespace Neutral

theorem pure (value : α) : Neutral (pure value) := by
  refine fun policy other x hx => ⟨rfl, ?_⟩
  rintro _ y ⟨⟩
  exact hx

theorem fail (fault : Fault) : Neutral (fail fault : Reading α) :=
  fun _ _ _ _ => ⟨rfl, fun _ _ h => by cases h⟩

theorem ofExcept (result : Except Fault α) : Neutral (ofExcept result) := by
  cases result with
  | ok value => exact pure value
  | error fault => exact fail fault

theorem bind {m : Reading α} {next : α → Reading β} (h : Neutral m)
    (hnext : ∀ value, Neutral (next value)) : Neutral (m >>= next) := by
  intro policy other x hx
  obtain ⟨heq, hbare⟩ := h policy other x hx
  rw [bind_eq, bind_eq, ← heq]
  cases hm : m policy x with
  | error fault => exact ⟨rfl, fun _ _ h => by cases h⟩
  | ok result => exact hnext result.1 policy other result.2 (hbare _ _ hm)

/-- What is known of the document is bare where it is asked for. -/
theorem get_bind {next : Context → Reading β} (h : ∀ x, x.IsBare → Neutral (next x)) :
    Neutral (get >>= next) :=
  fun policy other x hx => h x hx policy other x hx

theorem modify {change : Context → Context}
    (h : ∀ x, (change x).declarations = x.declarations ∧ (change x).mayHaveMore = x.mayHaveMore) :
    Neutral (modify change) := by
  refine fun policy other x hx => ⟨rfl, ?_⟩
  rintro _ y ⟨⟩
  exact hx.of_eq (h x).1 (h x).2

theorem set {y : Context} (h : y.IsBare) : Neutral (set y) := by
  refine fun policy other x _ => ⟨rfl, ?_⟩
  rintro _ _ ⟨⟩
  exact h

/-- A reading that ends at once whatever becomes of references. -/
theorem of_error {m : Reading α} {fault : Context → Fault}
    (h : ∀ policy x, x.IsBare → m policy x = .error (fault x)) : Neutral m := by
  intro policy other x hx
  rw [h policy x hx, h other x hx]
  exact ⟨rfl, fun _ _ h => by cases h⟩

theorem foldlM {f : α → β → Reading α} (h : ∀ value b, Neutral (f value b)) (bs : List β)
    (value : α) : Neutral (bs.foldlM f value) := by
  induction bs generalizing value with
  | nil => exact pure value
  | cons b bs ih =>
    rw [List.foldlM_cons]
    exact (h value b).bind ih

theorem mapM {f : α → Reading β} (h : ∀ a, Neutral (f a)) (as : List α) :
    Neutral (as.mapM f) := by
  induction as with
  | nil => exact pure []
  | cons a as ih =>
    rw [List.mapM_cons]
    exact (h a).bind fun _ => ih.bind fun _ => pure _

theorem forM {f : α → Reading Unit} (h : ∀ a, Neutral (f a)) (as : List α) :
    Neutral (as.forM f) := by
  induction as with
  | nil => exact pure ()
  | cons a as ih => exact (h a).bind fun _ => ih

theorem refuse : Neutral (refuse : Reading α) :=
  fail _

theorem warn : Neutral warn :=
  modify fun _ => ⟨rfl, rfl⟩

theorem blame (fault : Fault) : Neutral (blame fault) :=
  modify fun _ => ⟨rfl, rfl⟩

/-- No octets are counted for entities where there are none. -/
theorem charge (position : Position) (size : Nat) : Neutral (charge position size) := by
  refine get_bind fun x hx => ?_
  have hentity : ∀ name, x.declarations.entity? name = none := by
    intro name
    rw [hx.declarations]
    rfl
  have hparameter : ∀ name, x.declarations.parameter? name = none := by
    intro name
    rw [hx.declarations]
    rfl
  split
  · rw [hentity]
    exact pure ()
  · rw [hparameter]
    exact pure ()
  · have hset : Context.IsBare { x with size := x.size + size + fixedSize } := hx.of_eq rfl rfl
    refine (set hset).bind fun _ => ?_
    split
    · exact refuse
    · exact pure ()

end Neutral

/-! ### Entities -/

theorem get_bind_eq (next : Context → Reading β) (policy : EntityPolicy) (x : Context) :
    ((get : Reading Context) >>= next) policy x = next x policy x := rfl

theorem readThe_bind_eq (next : EntityPolicy → Reading β) (policy : EntityPolicy) (x : Context) :
    ((readThe EntityPolicy : Reading EntityPolicy) >>= next) policy x = next policy policy x := rfl

/-- A reading ends where its first part does. -/
theorem bind_of_error {m : Reading α} {next : α → Reading β} {policy : EntityPolicy} {x : Context}
    {fault : Fault} (h : m policy x = .error fault) : (m >>= next) policy x = .error fault := by
  rw [bind_eq, h]

/-- No entity is found where nothing is declared. -/
theorem findEntity_of_isBare (name : String) (policy : EntityPolicy) {x : Context}
    (h : x.IsBare) : findEntity name policy x = .error (x.findings.first .malformed) := by
  have hentity : x.declarations.entity? name = none := by
    rw [h.declarations]
    rfl
  have hmiss : missEntity policy x = .error (x.findings.first .malformed) := by
    have hrefuse : (x.standalone || !x.mayHaveMore) = true := by simp [h.mayHaveMore]
    rw [missEntity, get_bind_eq, if_pos hrefuse]
    rfl
  rw [findEntity, get_bind_eq, hentity]
  exact bind_of_error hmiss

end Reading

open Reading (Neutral)

/-- Every reference in the value of an attribute is refused. -/
theorem Value.neutral_resolve (position : Position) (inDeclaration wantsText : Bool)
    (name : String) : Neutral (resolve position inDeclaration wantsText name) :=
  .of_error fun policy _ h =>
    Reading.bind_of_error (Reading.bind_of_error (Reading.findEntity_of_isBare name policy h))

/-- Every reference to an entity in content is refused. -/
theorem Reader.neutral_refer (readEntity : EntityReader) (r : Reader) (name : String) :
    Neutral (r.refer readEntity name) := by
  have herror : ∀ policy x, x.IsBare →
      r.refer readEntity name policy x = .error (x.findings.first .malformed) := by
    intro policy x h
    rw [refer, Reading.readThe_bind_eq]
    exact Reading.bind_of_error (Reading.findEntity_of_isBare name policy h)
  exact .of_error herror

/-! ### Tags -/

namespace Tag

theorem neutral_push (tag : Tag) (qualifier : Option String) (namespaceName : String) :
    Neutral (tag.push qualifier namespaceName) := by
  unfold push
  split
  · exact .refuse
  · exact .pure _

theorem neutral_declareDefault (tag : Tag) (site : Site) (value : List Char) :
    Neutral (tag.declareDefault site value) := by
  have hdeclare : Neutral (if String.ofList value = Scope.ofXml ||
      String.ofList value = Scope.ofDeclarations then
        do Reading.blame .malformed; pure tag
      else tag.push none (String.ofList value)) := by
    split
    · exact (Neutral.blame _).bind fun _ => .pure _
    · exact neutral_push _ _ _
  unfold declareDefault
  dsimp only
  split
  · exact neutral_push _ _ _
  · split
    · exact hdeclare
    · exact Neutral.warn.bind fun _ => hdeclare
    · exact (Neutral.blame _).bind fun _ => hdeclare

theorem neutral_declareQualifier (tag : Tag) (site : Site) (qualifier : String)
    (value : List Char) : Neutral (tag.declareQualifier site qualifier value) := by
  unfold declareQualifier
  dsimp only
  split
  · split
    · exact (Neutral.blame _).bind fun _ => .pure _
    · exact .pure _
  · split
    · exact (Neutral.blame _).bind fun _ => .pure _
    · split
      · exact (Neutral.blame _).bind fun _ => neutral_push _ _ _
      · exact neutral_push _ _ _

theorem neutral_add (tag : Tag) (site : Site) (a : Attribute) : Neutral (tag.add site a) := by
  unfold add
  dsimp only
  split
  · exact neutral_declareDefault _ _ _
  · exact neutral_declareQualifier _ _ _ _
  · split
    · exact Neutral.warn.bind fun _ => .pure _
    · exact .pure _

theorem neutral_addDefaultScope (tag : Tag) (position : Position)
    (defaults : List AttributeDeclaration) : Neutral (tag.addDefaultScope position defaults) := by
  refine .foldlM (fun t d => ?_) _ _
  split
  · refine (Neutral.charge _ _).bind fun _ => ?_
    split <;> exact .pure _
  · exact .pure _

end Tag

theorem ExpandedName.neutral_expand (scope : Scope) (name : QualifiedName) :
    Neutral (expand scope name) := by
  unfold expand
  split
  · exact .pure _
  · split
    · exact .pure _
    · exact (Neutral.blame _).bind fun _ => .pure _

theorem Distinct.neutral_add (site : Site) (seen : Distinct) (name : ExpandedName) :
    Neutral (add site seen name) := by
  unfold add
  split
  · exact .pure _
  · split
    · exact .refuse
    · exact (Neutral.blame _).bind fun _ => .pure _

theorem Distinct.neutral_addDefault (position : Position) (seen : Distinct) (name : ExpandedName)
    (d : AttributeDeclaration) : Neutral (seen.addDefault position name d) := by
  unfold addDefault
  split
  · exact (Neutral.charge _ _).bind fun _ => .pure _
  · split
    · exact (Neutral.blame _).bind fun _ => (Neutral.charge _ _).bind fun _ => .pure _
    · exact .pure _

theorem Identifier.neutral_register (site : Site) (value : List Char) :
    Neutral (register site value) := by
  refine .get_bind fun x hx => ?_
  dsimp only
  split
  · exact .blame _
  · exact .set (hx.of_eq rfl rfl)

theorem Identifier.neutral_note (site : Site) (element : String) (a : Attribute) :
    Neutral (note site element a) := by
  unfold note
  split
  · exact .pure _
  · split
    · split
      · exact (Neutral.blame _).bind fun _ => neutral_register _ _
      · exact neutral_register _ _
    · refine .get_bind fun x _ => ?_
      split
      · exact neutral_register _ _
      · exact .pure _

namespace Tag

theorem neutral_finishAttributes (tag : Tag) (position : Position) (scope : Scope)
    (defaults : List AttributeDeclaration) :
    Neutral (tag.finishAttributes position scope defaults) := by
  unfold finishAttributes
  dsimp only
  refine (Neutral.mapM (fun a => ExpandedName.neutral_expand _ _) _).bind fun expanded => ?_
  refine (Neutral.foldlM (Distinct.neutral_add _) _ _).bind fun distinct => ?_
  refine (Neutral.foldlM (fun seen d => ?_) _ _).bind fun _ => ?_
  · exact (ExpandedName.neutral_expand _ _).bind fun name => Distinct.neutral_addDefault _ _ _ _
  · split
    · exact Neutral.refuse.bind fun _ => .pure _
    · exact .pure _

theorem neutral_finishName (tag : Tag) (scope : Scope) : Neutral (tag.finishName scope) := by
  unfold finishName
  split
  · exact .pure _
  · split
    · exact .pure _
    · exact (Neutral.blame _).bind fun _ => .pure _

theorem neutral_finish (tag : Tag) (position : Position) (outer : Scope) :
    Neutral (tag.finish position outer) := by
  refine .get_bind fun x _ => ?_
  refine (neutral_addDefaultScope _ _ _).bind fun t => ?_
  refine (neutral_finishAttributes _ _ _ _).bind fun attributes => ?_
  refine (neutral_finishName _ _).bind fun name => ?_
  dsimp only
  split
  · exact (Neutral.forM (fun a => Identifier.neutral_note _ _ a) _).bind fun _ => .pure _
  · exact .pure _

end Tag

/-! ### Characters -/

theorem Instruction.neutral_checkTarget (name : List Char) : Neutral (checkTarget name) := by
  have hcolon : Neutral (if name.contains ':' then Reading.blame .malformed else pure ()) := by
    split
    · exact .blame _
    · exact .pure _
  have hodd : Neutral (do
      if ['x', 'm', 'l'].isPrefixOf (name.map Char.toLower) then Reading.warn
      if name.contains ':' then Reading.blame .malformed) := by
    by_cases hp : ['x', 'm', 'l'].isPrefixOf (name.map Char.toLower) = true
    · simp only [hp, if_true]
      exact Neutral.warn.bind fun _ => hcolon
    · simp only [hp]
      exact hcolon
  have hreserved : Neutral (if reservedTargets.contains name then pure ()
      else do
        if ['x', 'm', 'l'].isPrefixOf (name.map Char.toLower) then Reading.warn
        if name.contains ':' then Reading.blame .malformed) := by
    by_cases hr : reservedTargets.contains name = true
    · rw [if_pos hr]
      exact .pure _
    · rw [if_neg hr]
      exact hodd
  unfold checkTarget
  dsimp only
  split
  · exact Neutral.refuse.bind fun _ => hreserved
  · exact hreserved

theorem ValueState.neutral_step (site : Site) {resolve : String → Reading (List Piece)}
    (h : ∀ name, Neutral (resolve name)) (state : ValueState) (c : Char) :
    Neutral (state.step site resolve c) := by
  unfold step
  split
  · refine (Neutral.ofExcept _).bind fun next => ?_
    split
    · exact .pure _
    · exact .pure _
    · exact (h _).bind fun _ => .pure _
  · split_ifs
    · exact .pure _
    · exact .refuse
    · exact .pure _
    · exact .pure _

namespace Reader

variable (r : Reader) (c : Char)

theorem neutral_refuseCharacter {α : Type} : Neutral (r.refuseCharacter c : Reading α) :=
  .fail _

theorem neutral_checkDepth : Neutral r.checkDepth := by
  unfold checkDepth
  split
  · exact .pure _
  · exact .refuse

theorem neutral_leave : Neutral r.leave := by
  refine .get_bind fun x _ => ?_
  split
  · exact .pure _
  · exact .refuse

theorem neutral_openElement (tag : Tag) : Neutral (r.openElement tag) :=
  (tag.neutral_finish _ _).bind fun _ => r.neutral_checkDepth.bind fun _ => .pure _

theorem neutral_addEmptyElement (tag : Tag) : Neutral (r.addEmptyElement tag) :=
  (tag.neutral_finish _ _).bind fun _ => r.neutral_checkDepth.bind fun _ => .pure _

theorem neutral_closeElement (name : List Char) : Neutral (r.closeElement name) := by
  unfold closeElement
  split
  · exact .refuse
  · split
    · exact .pure _
    · exact .refuse

theorem neutral_readContent (brackets : Nat) : Neutral (r.readContent brackets c) := by
  unfold readContent
  split_ifs
  · exact .pure _
  · exact .pure _
  · exact r.neutral_leave
  · exact .refuse
  · exact .pure _
  · exact .pure _
  · exact .refuse
  · exact .pure _
  · exact r.neutral_refuseCharacter c

theorem neutral_readOpening : Neutral (r.readOpening c) := by
  unfold readOpening
  split_ifs
  · exact .pure _
  · exact .pure _
  · exact r.neutral_leave
  · exact .refuse
  · exact .pure _
  · exact r.neutral_leave
  · exact .pure _
  · exact r.neutral_refuseCharacter c

theorem neutral_readBang (seen : List Char) : Neutral (r.readBang seen c) := by
  unfold readBang
  dsimp only
  split_ifs
  · exact .pure _
  · exact .pure _
  · exact .pure _
  · exact .pure _
  · exact r.neutral_leave
  · exact .refuse

theorem neutral_readComment (state : CommentState) : Neutral (r.readComment state c) := by
  refine (Neutral.ofExcept _).bind fun next => ?_
  split
  · exact .pure _
  · exact .pure _

theorem neutral_readCharacters (reversed : List Char) : Neutral (r.readCharacters reversed c) := by
  unfold readCharacters
  split_ifs
  · exact .pure _
  · exact r.neutral_refuseCharacter c
  · exact .pure _
  · exact .fail _

theorem neutral_readTarget (reversed : List Char) : Neutral (r.readTarget reversed c) := by
  unfold readTarget
  by_cases hgoes : (if reversed.isEmpty then isColonNameStart c else isColonNamePart c) = true
  · rw [if_pos hgoes]
    exact .pure _
  · rw [if_neg hgoes]
    split
    · exact r.neutral_refuseCharacter c
    · refine (Instruction.neutral_checkTarget _).bind fun _ => ?_
      split_ifs
      · exact .pure _
      · exact .pure _
      · exact .refuse

theorem neutral_readInstruction (target : String) (reversed : List Char) :
    Neutral (r.readInstruction target reversed c) := by
  unfold readInstruction
  split_ifs
  · exact .pure _
  · exact .pure _
  · exact .pure _
  · exact r.neutral_refuseCharacter c

theorem neutral_readReference (readEntity : EntityReader) (state : ReferenceState) :
    Neutral (r.readReference readEntity state c) := by
  refine (Neutral.ofExcept _).bind fun next => ?_
  split
  · exact .pure _
  · exact .pure _
  · exact (neutral_refer readEntity _ _).bind fun _ => .pure _

theorem neutral_readTag (tag : Tag) (divided : Bool) : Neutral (r.readTag tag divided c) := by
  unfold readTag
  split_ifs
  · exact .pure _
  · exact r.neutral_openElement tag
  · exact .pure _
  · exact .pure _
  · exact .refuse

theorem neutral_readName (reversed : List Char) : Neutral (readName reversed) := by
  unfold readName
  dsimp only
  split
  · split
    · exact Neutral.refuse.bind fun _ => .pure _
    · exact .pure _
  · have hblame : Neutral (do
        Reading.blame .malformed
        pure (QualifiedName.ofChars reversed.reverse)) := (Neutral.blame _).bind fun _ => .pure _
    split
    · exact Neutral.refuse.bind fun _ => hblame
    · exact hblame

theorem neutral_readTagName (reversed : List Char) : Neutral (r.readTagName reversed c) := by
  unfold readTagName
  split_ifs
  · exact .pure _
  · exact r.neutral_refuseCharacter c
  · exact (neutral_readName _).bind fun name => r.neutral_readTag c _ _

theorem neutral_readAttributeSign (opened : OpenAttribute) :
    Neutral (r.readAttributeSign opened c) := by
  unfold readAttributeSign
  split_ifs
  · exact .pure _
  · exact .pure _
  · exact .refuse

theorem neutral_readAttributeName (tag : Tag) (reversed : List Char) :
    Neutral (r.readAttributeName tag reversed c) := by
  unfold readAttributeName
  split_ifs
  · exact .pure _
  · exact r.neutral_refuseCharacter c
  · exact (neutral_readName _).bind fun name => r.neutral_readAttributeSign c _

theorem neutral_readAttributeMark (opened : OpenAttribute) :
    Neutral (r.readAttributeMark opened c) := by
  unfold readAttributeMark
  split_ifs
  · exact .pure _
  · exact .pure _
  · exact .refuse

theorem neutral_addAttribute (opened : OpenAttribute) (pieces : List Piece) :
    Neutral (r.addAttribute opened pieces) :=
  .get_bind fun _ _ => (opened.tag.neutral_add _ _).bind fun _ => .pure _

theorem neutral_readAttributeValue (opened : OpenAttribute) (mark : Char) (state : ValueState) :
    Neutral (r.readAttributeValue opened mark state c) := by
  unfold readAttributeValue
  dsimp only
  split
  · exact neutral_addAttribute _ _ _
  · exact (ValueState.neutral_step _ (Value.neutral_resolve _ _ _) state c).bind fun _ => .pure _

theorem neutral_readEndName (reversed : List Char) : Neutral (r.readEndName reversed c) := by
  unfold readEndName
  split_ifs
  · exact .pure _
  · exact r.neutral_closeElement _
  · exact .pure _
  · exact r.neutral_refuseCharacter c

theorem neutral_readEndSpace (name : List Char) : Neutral (r.readEndSpace name c) := by
  unfold readEndSpace
  split_ifs
  · exact .pure _
  · exact r.neutral_closeElement _
  · exact .refuse

theorem neutral_readMeant (readEntity : EntityReader) : Neutral (r.readMeant readEntity c) := by
  unfold readMeant
  split
  · exact r.neutral_readContent c _
  · exact r.neutral_readOpening c
  · exact r.neutral_readBang c _
  · exact r.neutral_readCharacters c _
  · exact r.neutral_readTarget c _
  · split
    · exact .pure _
    · exact .refuse
  · exact r.neutral_readInstruction c _ _
  · exact r.neutral_readReference c readEntity _
  · exact r.neutral_readTagName c _
  · exact r.neutral_readTag c _ _
  · exact r.neutral_readAttributeName c _ _
  · exact r.neutral_readAttributeSign c _
  · exact r.neutral_readAttributeMark c _
  · exact r.neutral_readAttributeValue c _ _ _
  · split
    · exact r.neutral_addEmptyElement _
    · exact .refuse
  · exact r.neutral_readEndName c _
  · exact r.neutral_readEndSpace c _
  all_goals exact .pure _

end Reader

/-! ### Documents -/

def Mode.isDoctype : Mode → Bool
  | .doctype .. => true
  | _ => false

namespace Reader

/-- Whether a reader comes into a document type declaration on its way through characters, as far as
they can be read. -/
def meetsDoctype (readEntity : EntityReader) (policy : EntityPolicy) (x : Context) (r : Reader) :
    List Char → Bool
  | [] => r.mode.isDoctype
  | c :: cs =>
    r.mode.isDoctype ||
      match r.step readEntity c policy x with
      | .ok (next, y) => next.meetsDoctype readEntity policy y cs
      | .error _ => false

variable {r : Reader}

/-- One character is read alike outside a document type declaration. -/
theorem neutral_step (readEntity : EntityReader) (h : r.mode.isDoctype = false) (c : Char) :
    Neutral (r.step readEntity c) := by
  have hread : Neutral (r.read readEntity c) := by
    unfold read
    split
    · exact r.neutral_readComment c _
    · next hm => simp [hm, Mode.isDoctype] at h
    · exact r.neutral_readMeant _ _
  exact hread.bind fun _ => .pure _

/-- Whether a document type declaration is met does not depend on what becomes of references, since
nothing can be declared before it. -/
theorem meetsDoctype_eq (readEntity : EntityReader) (policy other : EntityPolicy) {x : Context}
    (hx : x.IsBare) (cs : List Char) :
    r.meetsDoctype readEntity policy x cs = r.meetsDoctype readEntity other x cs := by
  induction cs generalizing r x with
  | nil => rfl
  | cons c cs ih =>
    cases hm : r.mode.isDoctype with
    | true => simp [meetsDoctype, hm]
    | false =>
      obtain ⟨heq, hbare⟩ := neutral_step readEntity hm c policy other x hx
      rw [meetsDoctype, meetsDoctype, ← heq]
      cases hs : r.step readEntity c policy x with
      | error fault => rfl
      | ok result => exact congrArg (r.mode.isDoctype || ·) (ih (hbare _ _ hs))

/-- Characters among which no document type declaration is met are read alike. -/
theorem run_eq_of_meetsDoctype (readEntity : EntityReader) {policy : EntityPolicy}
    (other : EntityPolicy) {x : Context} (hx : x.IsBare) {cs : List Char}
    (h : r.meetsDoctype readEntity policy x cs = false) :
    r.run readEntity cs policy x = r.run readEntity cs other x ∧
      ∀ next y, r.run readEntity cs policy x = .ok (next, y) →
        y.IsBare ∧ next.mode.isDoctype = false := by
  induction cs generalizing r x with
  | nil =>
    refine ⟨rfl, ?_⟩
    rintro _ y ⟨⟩
    exact ⟨hx, h⟩
  | cons c cs ih =>
    rw [meetsDoctype, Bool.or_eq_false_iff] at h
    obtain ⟨heq, hbare⟩ := neutral_step readEntity h.1 c policy other x hx
    have hrun : r.run readEntity (c :: cs) =
        r.step readEntity c >>= fun next => next.run readEntity cs := List.foldlM_cons
    rw [hrun, Reading.bind_eq, Reading.bind_eq, ← heq]
    cases hs : r.step readEntity c policy x with
    | error fault => exact ⟨rfl, fun _ _ h => by cases h⟩
    | ok result =>
      rw [hs] at h
      exact ih (hbare _ _ hs) h.2

theorem neutral_refuseEnd {α : Type} (h : r.mode.isDoctype = false) :
    Neutral (r.refuseEnd : Reading α) := by
  unfold refuseEnd
  split
  · exact .fail _
  · exact .fail _
  · next hm => simp [hm, Mode.isDoctype] at h
  · exact .refuse

theorem neutral_refuseOctet (h : r.mode.isDoctype = false) : Neutral r.refuseOctet := by
  unfold refuseOctet
  split
  · exact .fail _
  · next hm => simp [hm, Mode.isDoctype] at h
  · exact .pure _
  · exact .refuse

theorem neutral_finish (h : r.mode.isDoctype = false) : Neutral r.finish := by
  unfold finish
  split
  · exact .pure _
  · exact .pure _
  · exact neutral_refuseEnd h

end Reader

namespace Document

def meetsDoctypeIn (policy : EntityPolicy) (decoded : Decoded) : Bool :=
  let cs := joinLineEnds decoded.characters
  match Declaration.split cs with
  | none => false
  | some ⟨declaration, rest⟩ =>
    let position := Position.start.afterAll (cs.take (cs.length - rest.length))
    let standalone := (declaration.bind Declaration.standalone).getD false
    (Reader.start position).meetsDoctype (Reader.readEntity Position.depthLimit) policy
      (.start standalone (findingsOf declaration)) rest

/-- Whether a document has a document type declaration, as far as it can be read. -/
def meetsDoctype (policy : EntityPolicy) (octets : List UInt8) : Bool :=
  (decodeDocument octets).any (meetsDoctypeIn policy)

/-- Whether a document has a document type declaration is a matter of the document alone. -/
theorem meetsDoctype_eq (policy other : EntityPolicy) (octets : List UInt8) :
    meetsDoctype policy octets = meetsDoctype other octets := by
  unfold meetsDoctype
  cases decodeDocument octets with
  | none => rfl
  | some decoded =>
    rw [Option.any_some, Option.any_some, meetsDoctypeIn, meetsDoctypeIn]
    dsimp only
    split
    · rfl
    · exact Reader.meetsDoctype_eq _ _ _ (Context.isBare_start _ _) _

theorem readRest_eq_of_meetsDoctype {position : Position} {rest : List Char} {x : Context}
    {policy : EntityPolicy} (other : EntityPolicy) (isComplete : Bool) (hx : x.IsBare)
    (h : (Reader.start position).meetsDoctype (Reader.readEntity Position.depthLimit) policy x
      rest = false) :
    readRest position rest isComplete policy x = readRest position rest isComplete other x := by
  obtain ⟨heq, hnext⟩ := Reader.run_eq_of_meetsDoctype _ other hx h
  have hend : ∀ next : Reader, next.mode.isDoctype = false → Neutral (do
      if !isComplete then next.refuseOctet
      next.finish) := by
    intro next hmode
    split
    · exact (Reader.neutral_refuseOctet hmode).bind fun _ => Reader.neutral_finish hmode
    · exact Reader.neutral_finish hmode
  unfold readRest
  rw [Reading.bind_eq, Reading.bind_eq, ← heq]
  cases hr : (Reader.start position).run (Reader.readEntity Position.depthLimit) rest policy x with
  | error fault => rfl
  | ok result =>
    obtain ⟨hbare, hmode⟩ := hnext _ _ hr
    exact (hend result.1 hmode policy other result.2 hbare).1

/-- A document without a document type declaration has one tree or one fault, whatever becomes of
references. -/
theorem ofOctets_eq_of_meetsDoctype {policy : EntityPolicy} {octets : List UInt8}
    (h : meetsDoctype policy octets = false) (other : EntityPolicy) :
    ofOctets policy octets = ofOctets other octets := by
  unfold meetsDoctype at h
  unfold ofOctets
  cases hd : decodeDocument octets with
  | none => rfl
  | some decoded =>
    rw [hd, Option.any_some] at h
    unfold meetsDoctypeIn at h
    unfold ofCharacters
    dsimp only at h ⊢
    split
    · rfl
    · next declaration rest hs =>
      rw [hs] at h
      have hrest := readRest_eq_of_meetsDoctype other decoded.isComplete
        (Context.isBare_start _ _) h
      simp only [ReaderT.run, StateT.run, hrest]

/-- What stands in a comment is no declaration. -/
example :
    meetsDoctype .keep "<!-- <!DOCTYPE a> --><a/>".toUTF8.toList = false ∧
      meetsDoctype .keep "<!DOCTYPE a><a/>".toUTF8.toList = true := by
  decide +kernel

end Document

end LayeredConfig.Xml

namespace LayeredConfig

open Xml (EntityPolicy Node readFull readGuarded)

/-! ### Loads -/

namespace Entry

theorem misnamed?_withoutRemarks (node : Node) :
    misnamed? node.withoutRemarks = misnamed? node := by
  cases node with
  | element name namespaceName attributes children => cases namespaceName <;> rfl
  | text content => rfl
  | comment content => rfl
  | instruction target data => rfl
  | reference name => rfl

mutual

/-- Remarks make no difference to the names in a node. -/
theorem names?_withoutRemarks : (node : Node) → names? node.withoutRemarks = names? node
  | .element name namespaceName attributes children => by
    have hm := misnamed?_withoutRemarks (.element name namespaceName attributes children)
    rw [Node.withoutRemarks] at hm ⊢
    rw [names?, names?, hm, namesOf_dropRemarks children]
  | .text _ | .comment _ | .instruction _ _ | .reference _ => rfl

theorem namesOf_dropRemarks : (nodes : List Node) → namesOf (Node.dropRemarks nodes) = namesOf nodes
  | [] => rfl
  | node :: nodes => by
    rw [Node.dropRemarks]
    split
    · next hremark =>
      have hnames : names? node = none := by
        cases node with
        | comment content => rfl
        | instruction target data => rfl
        | element name namespaceName attributes children => cases hremark
        | text content => cases hremark
        | reference name => cases hremark
      rw [namesOf, hnames, namesOf_dropRemarks nodes]
      rfl
    · rw [namesOf, namesOf, names?_withoutRemarks node, namesOf_dropRemarks nodes]

end

end Entry

namespace Settings

/-- A tree is loaded alike with its remarks and without them. -/
theorem ofTree_withoutRemarks (instanceId : String) (root : Node) :
    ofTree instanceId root.withoutRemarks = ofTree instanceId root := by
  refine ofTree_eq_of_names ?_ (Entry.names?_withoutRemarks root)
  rw [(Node.withoutRemarks_eq root).2]

/-- A document without a document type declaration is loaded by its octets as it is by its full
tree, remarks included, in result and report and up to the identity. If the full tree cannot be
read, the guarded one cannot either, for the same fault. -/
theorem ofTree_readFull (first second documentName : String) {policy : EntityPolicy}
    {octets : List UInt8} (h : Xml.Document.meetsDoctype policy octets = false) :
    match readFull octets with
    | .ok root =>
      ofTree second root = (·.withIdentity second) <$> ofOctets first documentName octets
    | .error fault => readGuarded octets = .error fault := by
  have hpolicy : Xml.Document.ofOctets .keep octets = Xml.Document.ofOctets .replace octets :=
    (Xml.Document.ofOctets_eq_of_meetsDoctype h .keep).symm.trans
      (Xml.Document.ofOctets_eq_of_meetsDoctype h .replace)
  have hguarded : readGuarded octets = (readFull octets).map Node.withoutRemarks := by
    rw [readGuarded, readFull, hpolicy]
  cases hr : readFull octets with
  | error fault => rw [hguarded, hr]; rfl
  | ok root =>
    have hoctets : ofOctets first documentName octets = ofTree first root := by
      rw [ofOctets, hguarded, hr]
      exact ofTree_withoutRemarks first root
    rw [hoctets]
    exact ofTree_withIdentity first second root

/-- Remarks stand in front of a setting and divide its text, to which a section of characters and a
character that is written by its number belong. -/
theorem ofTree_readFull_of_remarks :
    let document := "<properties><server><!-- a --><port>9<?b?>0<![CDATA[8]]>&#48;</port>" ++
      "</server></properties>"
    let octets := document.toUTF8.toList
    Xml.Document.meetsDoctype .keep octets = false ∧
      ∃ root, readFull octets = .ok root ∧
        ofTree "v" root = (·.withIdentity "v") <$> ofOctets "w" "conf.xml" octets ∧
        (ofTree "v" root).result =
          .ok { defaults "v" with port := 9080, portText := some "9080" } := by
  intro document octets
  have hdoctype : Xml.Document.meetsDoctype .keep octets = false := by decide +kernel
  have hresult : (readFull octets).toOption.map (fun root => (ofTree "v" root).result) =
      some (.ok { defaults "v" with port := 9080, portText := some "9080" }) := by
    decide +kernel
  have hload := ofTree_readFull "w" "v" "conf.xml" hdoctype
  cases hr : readFull octets with
  | error fault =>
    rw [hr] at hresult
    cases hresult
  | ok root =>
    rw [hr] at hresult hload
    exact ⟨hdoctype, root, rfl, hload, Option.some.inj hresult⟩

end Settings

end LayeredConfig

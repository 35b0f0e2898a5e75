import LayeredConfig.Xml.Comment
import LayeredConfig.Xml.Namespace
import LayeredConfig.Xml.Reference
import Mathlib.Tactic.SplitIfs

/-! Results of readings in which references stay in their places: what every result of one reading
is like, and how the results of two readings go together. The readings need not know the same of
their documents. What is read of references and comments does not depend on where they stand, and
tags keep the names that are written in them, whatever is declared. -/

namespace LayeredConfig.Xml

/-! ### Results of readings -/

namespace Reading

variable {α β γ δ : Type}

/-- Whether every result of a reading is of a kind. -/
def Ensures (m : Reading α) (p : α → Prop) : Prop :=
  ∀ x value y, m .keep x = .ok (value, y) → p value

namespace Ensures

theorem pure {value : α} {p : α → Prop} (h : p value) : Ensures (pure value) p := by
  rintro x _ y ⟨⟩
  exact h

theorem fail (fault : Fault) (p : α → Prop) : Ensures (fail fault) p := by
  intro x value y h
  cases h

theorem mono {m : Reading α} {p q : α → Prop} (h : Ensures m p) (hpq : ∀ value, p value → q value) :
    Ensures m q :=
  fun x value y hm => hpq value (h x value y hm)

theorem true (m : Reading α) : Ensures m fun _ => True := fun _ _ _ _ => trivial

theorem bind {m : Reading α} {next : α → Reading β} {p : α → Prop} {q : β → Prop}
    (h : Ensures m p) (hnext : ∀ value, p value → Ensures (next value) q) :
    Ensures (m >>= next) q := by
  intro x value y hrun
  rw [bind_eq] at hrun
  cases hm : m .keep x with
  | error fault => rw [hm] at hrun; cases hrun
  | ok result =>
    rw [hm] at hrun
    exact hnext _ (h x _ _ hm) _ value y hrun

/-- What is read first need not matter. -/
theorem after {m : Reading α} {next : α → Reading β} {q : β → Prop}
    (h : ∀ value, Ensures (next value) q) : Ensures (m >>= next) q :=
  (true m).bind fun value _ => h value

theorem foldlM {f : α → β → Reading α} {p : α → Prop}
    (h : ∀ value b, p value → Ensures (f value b) p) (bs : List β) {value : α} (hvalue : p value) :
    Ensures (bs.foldlM f value) p := by
  induction bs generalizing value with
  | nil => exact pure hvalue
  | cons b bs ih =>
    rw [List.foldlM_cons]
    exact (h value b hvalue).bind fun next hnext => ih hnext

theorem readThe : Ensures (readThe EntityPolicy) (· = .keep) := by
  rintro x _ y ⟨⟩
  rfl

theorem ofExcept (result : Except Fault α) : Ensures (ofExcept result) (result = .ok ·) := by
  cases result with
  | ok value => exact pure rfl
  | error fault => exact fail fault _

end Ensures

/-- Whether the results of two readings always stand in a relation. -/
def Both (m : Reading α) (n : Reading β) (r : α → β → Prop) : Prop :=
  ∀ x value y x' value' y', m .keep x = .ok (value, y) → n .keep x' = .ok (value', y') →
    r value value'

namespace Both

theorem of_ensures {m : Reading α} {n : Reading β} {p : α → Prop} {q : β → Prop}
    {r : α → β → Prop} (hm : Ensures m p) (hn : Ensures n q)
    (h : ∀ value value', p value → q value' → r value value') : Both m n r :=
  fun x value y x' value' y' hrun hrun' =>
    h value value' (hm x value y hrun) (hn x' value' y' hrun')

theorem pure {value : α} {value' : β} {r : α → β → Prop} (h : r value value') :
    Both (pure value) (pure value') r :=
  of_ensures (.pure rfl) (.pure rfl) (by rintro _ _ rfl rfl; exact h)

theorem fail_left (fault : Fault) (n : Reading β) (r : α → β → Prop) : Both (fail fault) n r := by
  intro x value y x' value' y' h
  cases h

theorem fail_right (m : Reading α) (fault : Fault) (r : α → β → Prop) : Both m (fail fault) r := by
  intro x value y x' value' y' hm h
  cases h

theorem bind {m : Reading α} {n : Reading β} {q : α → β → Prop} {next : α → Reading γ}
    {other : β → Reading δ} {r : γ → δ → Prop} (h : Both m n q)
    (hnext : ∀ value value', q value value' → Both (next value) (other value') r) :
    Both (m >>= next) (n >>= other) r := by
  intro x value y x' value' y' hrun hrun'
  rw [bind_eq] at hrun hrun'
  cases hm : m .keep x with
  | error fault => rw [hm] at hrun; cases hrun
  | ok result =>
    cases hn : n .keep x' with
    | error fault => rw [hn] at hrun'; cases hrun'
    | ok result' =>
      rw [hm] at hrun
      rw [hn] at hrun'
      exact hnext _ _ (h _ _ _ _ _ _ hm hn) _ _ _ _ _ _ hrun hrun'

theorem and_left {m : Reading α} {n : Reading β} {p : α → Prop} {r : α → β → Prop}
    (hm : Ensures m p) (h : Both m n r) : Both m n fun value value' => p value ∧ r value value' :=
  fun x value y x' value' y' hrun hrun' =>
    ⟨hm x value y hrun, h x value y x' value' y' hrun hrun'⟩

theorem after {m : Reading α} {n : Reading β} {next : α → Reading γ} {other : β → Reading δ}
    {r : γ → δ → Prop} (h : ∀ value value', Both (next value) (other value') r) :
    Both (m >>= next) (n >>= other) r :=
  bind (of_ensures (.true m) (.true n) fun _ _ _ _ => trivial) fun value value' (_ : True) =>
    h value value'

end Both

end Reading

open Reading (Ensures Both)

/-! ### Pieces of markup -/

/-- Where a reference stands makes no difference to what is read of it. -/
theorem ReferenceState.both_step (state : ReferenceState) (site other : Site) (c : Char) :
    Both (Reading.ofExcept (state.step site c)) (Reading.ofExcept (state.step other c)) Eq := by
  refine .of_ensures (.ofExcept _) (.ofExcept _) fun next next' h h' => ?_
  cases state with
  | start =>
    simp only [step] at h h'
    split_ifs at h h' <;> simp_all
  | number => exact Except.ok.inj (h.symm.trans h')
  | decimal value => exact Except.ok.inj (h.symm.trans h')
  | hexadecimalStart => exact Except.ok.inj (h.symm.trans h')
  | hexadecimal value => exact Except.ok.inj (h.symm.trans h')
  | name reversed =>
    simp only [step] at h h'
    split_ifs at h h' <;> simp_all

/-- Where a comment stands makes no difference to what is read of it. -/
theorem CommentState.both_step (state : CommentState) (position other : Position) (c : Char) :
    Both (Reading.ofExcept (state.step position c)) (Reading.ofExcept (state.step other c)) Eq := by
  refine .of_ensures (.ofExcept _) (.ofExcept _) fun next next' h h' => ?_
  cases state with
  | ascii reversed hyphens =>
    simp only [step] at h h'
    split_ifs at h h' <;> simp_all
  | wide reversed length =>
    simp only [step] at h h'
    split_ifs at h h' <;> simp_all

namespace Tag

theorem ensures_push (tag : Tag) (qualifier : Option String) (namespaceName : String) :
    Ensures (tag.push qualifier namespaceName) (·.name = tag.name) := by
  unfold push
  split
  · exact .fail _ _
  · exact .pure rfl

theorem ensures_declareDefault (tag : Tag) (site : Site) (value : List Char) :
    Ensures (tag.declareDefault site value) (·.name = tag.name) := by
  have hdeclare : Ensures (if String.ofList value = Scope.ofXml ||
      String.ofList value = Scope.ofDeclarations then
        do Reading.blame .malformed; pure tag
      else tag.push none (String.ofList value)) (·.name = tag.name) := by
    split
    · exact .after fun _ => .pure rfl
    · exact ensures_push _ _ _
  unfold declareDefault
  dsimp only
  split
  · exact ensures_push _ _ _
  · split
    · exact hdeclare
    · exact .after fun _ => hdeclare
    · exact .after fun _ => hdeclare

theorem ensures_declareQualifier (tag : Tag) (site : Site) (qualifier : String)
    (value : List Char) :
    Ensures (tag.declareQualifier site qualifier value) (·.name = tag.name) := by
  unfold declareQualifier
  dsimp only
  split
  · split
    · exact .after fun _ => .pure rfl
    · exact .pure rfl
  · split
    · exact .after fun _ => .pure rfl
    · split
      · exact .after fun _ => ensures_push _ _ _
      · exact ensures_push _ _ _

/-- An attribute leaves the name of its tag as it is. -/
theorem ensures_add (tag : Tag) (site : Site) (a : Attribute) :
    Ensures (tag.add site a) (·.name = tag.name) := by
  unfold add
  dsimp only
  split
  · exact ensures_declareDefault _ _ _
  · exact ensures_declareQualifier _ _ _ _
  · split
    · exact .after fun _ => .pure rfl
    · exact .pure rfl

theorem ensures_addDefaultScope (tag : Tag) (position : Position)
    (defaults : List AttributeDeclaration) :
    Ensures (tag.addDefaultScope position defaults) (·.name = tag.name) := by
  unfold addDefaultScope
  refine .foldlM (fun t d ht => ?_) _ rfl
  split
  · refine .after fun _ => ?_
    split <;> exact .pure ht
  · exact .pure ht

theorem ensures_finishName (tag : Tag) (scope : Scope) :
    Ensures (tag.finishName scope) (·.1.text = tag.name.text) := by
  unfold finishName
  split
  · exact .pure rfl
  · split
    · exact .pure rfl
    · exact .after fun _ => .pure rfl

/-- The end of a tag leaves its name as it is written. -/
theorem ensures_finish (tag : Tag) (position : Position) (outer : Scope) :
    Ensures (tag.finish position outer) (·.name.text = tag.name.text) := by
  unfold finish
  refine .after fun x => ?_
  refine (ensures_addDefaultScope _ _ _).bind fun t ht => ?_
  refine .after fun attributes => ?_
  refine (ensures_finishName _ _).bind fun name hname => ?_
  rw [ht] at hname
  obtain ⟨name, namespaceName⟩ := name
  dsimp only
  split
  · exact .after fun _ => .pure hname
  · exact .pure hname

end Tag

end LayeredConfig.Xml

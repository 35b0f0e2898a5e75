import LayeredConfig.Proofs.Layers
import Mathlib.Data.Bool.AllAny

/-! The word that turns a flag on. No letter but the two forms of `t`, `r`, `u` and `e` has one of
these as its lowercase form, by itself or within a longer one, and trimming takes away blank
characters only. So a flag is on exactly for that word in letters of either case with blanks around
it, and in a document the last text of its key decides. -/

namespace LayeredConfig

namespace Text

/-! ### Lowercase letters -/

def flagLetters : List Char := ['t', 'r', 'u', 'e']

theorem lowercase_ne_nil (c : Char) : lowercase c ≠ [] := by
  unfold lowercase
  split
  · simp
  · split <;> simp

theorem lowercase_of_flagLetter {c letter : Char} (hl : letter ∈ flagLetters)
    (h : c = letter ∨ c = letter.toUpper) : lowercase c = [letter] := by
  have hforms : ∀ letter ∈ flagLetters,
      lowercase letter = [letter] ∧ lowercase letter.toUpper = [letter] :=
    List.all_iff_forall_prop.1 (by decide +kernel)
  rcases h with rfl | rfl
  · exact (hforms _ hl).1
  · exact (hforms _ hl).2

/-- Only the run of the ASCII letters leads to a letter of the word. -/
theorem distance_of_flagLetter {run : CaseRun} (hr : run ∈ lowercaseRuns) {letter : Char}
    (hl : letter ∈ flagLetters) (hfirst : run.first + run.distance ≤ letter.toNat)
    (hlast : letter.toNat ≤ run.last + run.distance) : run.distance = 32 := by
  have hall : ∀ letter ∈ flagLetters, ∀ run ∈ lowercaseRuns,
      run.first + run.distance ≤ letter.toNat → letter.toNat ≤ run.last + run.distance →
        run.distance = 32 := List.all_iff_forall_prop.1 (by decide +kernel)
  exact hall letter hl run hr hfirst hlast

theorem toNat_of_ofNat_eq {n : Nat} {c : Char} (h : Char.ofNat n = c) (hc : c ≠ '\x00') :
    n = c.toNat := by
  unfold Char.ofNat at h
  by_cases hn : n.isValidChar
  · rw [dif_pos hn] at h
    rw [← h]
    rfl
  · rw [dif_neg hn] at h
    exact absurd h.symm hc

/-- A character whose lowercase form has a letter of the word in it is that letter, in one case or
the other. -/
theorem eq_or_eq_toUpper_of_mem_lowercase {c letter : Char} (hl : letter ∈ flagLetters)
    (h : letter ∈ lowercase c) : c = letter ∨ c = letter.toUpper := by
  have hletters : ∀ letter ∈ flagLetters, letter ∉ ['i', '\u0307'] ∧ letter ≠ '\x00' ∧
      letter.toUpper.toNat + 32 = letter.toNat := List.all_iff_forall_prop.1 (by decide +kernel)
  obtain ⟨hdotted, hnul, hupper⟩ := hletters letter hl
  unfold lowercase at h
  split at h
  · exact absurd h hdotted
  · split at h
    · next run hrun =>
      have hcode := toNat_of_ofNat_eq (List.mem_singleton.1 h).symm hnul
      have hcovers := Array.find?_some hrun
      simp only [CaseRun.covers, Bool.and_eq_true, decide_eq_true_eq] at hcovers
      obtain ⟨⟨hfirst, hlast⟩, -⟩ := hcovers
      have hpos : 0 < letter.toNat := by omega
      have hdistance := distance_of_flagLetter (Array.mem_of_find?_eq_some hrun) hl
        (by omega) (by omega)
      refine .inr (Char.toNat_inj.1 ?_)
      omega
    · exact .inl (List.mem_singleton.1 h).symm

/-- Characters have a word of these letters as their lowercase form exactly if each of them is the
letter in its place, in one case or the other, wherever they stand. -/
theorem lowercaseAfter_eq_iff {word : List Char} (hw : ∀ letter ∈ word, letter ∈ flagLetters)
    (before cs : List Char) :
    lowercaseAfter before cs = word ↔
      List.Forall₂ (fun c letter => c = letter ∨ c = letter.toUpper) cs word := by
  have hsigma : ∀ letter ∈ flagLetters, letter ≠ 'ς' ∧ letter ≠ 'σ' ∧
      ¬('Σ' = letter ∨ 'Σ' = letter.toUpper) := List.all_iff_forall_prop.1 (by decide)
  induction cs generalizing before word with
  | nil =>
    constructor
    · rintro rfl
      exact .nil
    · rintro ⟨⟩
      rfl
  | cons c cs ih =>
    rw [lowercaseAfter]
    constructor
    · intro h
      cases word with
      | nil =>
        have hnil := (List.append_eq_nil_iff.1 h).1
        split at hnil
        · cases hnil
        · exact absurd hnil (lowercase_ne_nil c)
      | cons letter word =>
        have hl := hw letter List.mem_cons_self
        split at h
        · obtain ⟨hfinal, hmedial, -⟩ := hsigma letter hl
          have hhead := (List.cons.inj h).1
          split at hhead
          · exact absurd hhead.symm hfinal
          · exact absurd hhead.symm hmedial
        · obtain ⟨x, xs, hx⟩ := List.exists_cons_of_ne_nil (lowercase_ne_nil c)
          rw [hx, List.cons_append] at h
          obtain ⟨rfl, htail⟩ := List.cons.inj h
          have hc := eq_or_eq_toUpper_of_mem_lowercase hl (by rw [hx]; exact List.mem_cons_self)
          obtain rfl : xs = [] := (List.cons.inj (hx.symm.trans (lowercase_of_flagLetter hl hc))).2
          exact .cons hc ((ih (fun other hm => hw other (List.mem_cons_of_mem _ hm)) _).1 htail)
    · rintro (_ | ⟨hc, htail⟩)
      next letter word =>
      have hl := hw letter List.mem_cons_self
      have hne : c ≠ 'Σ' := by
        rintro rfl
        exact (hsigma letter hl).2.2 hc
      rw [if_neg hne, lowercase_of_flagLetter hl hc, List.singleton_append,
        (ih (fun other hm => hw other (List.mem_cons_of_mem _ hm)) _).2 htail]

end Text

/-! ### The word -/

namespace Number

/-- Whether a text is the word `true` in letters of either case, with blank characters around
it. -/
def IsTrueWord (text : String) : Prop :=
  ∃ before word after, text.toList = before ++ word ++ after ∧
    (∀ c ∈ before, Text.isBlank c = true) ∧ (∀ c ∈ after, Text.isBlank c = true) ∧
    List.Forall₂ (fun c letter => c = letter ∨ c = letter.toUpper) word ['t', 'r', 'u', 'e']

theorem isBlank_of_spelled {word letters : List Char}
    (hl : ∀ letter ∈ letters, letter ∈ Text.flagLetters)
    (h : List.Forall₂ (fun c letter => c = letter ∨ c = letter.toUpper) word letters) :
    ∀ c ∈ word, Text.isBlank c = false := by
  have hforms : ∀ letter ∈ Text.flagLetters,
      Text.isBlank letter = false ∧ Text.isBlank letter.toUpper = false :=
    List.all_iff_forall_prop.1 (by decide +kernel)
  induction h with
  | nil => simp
  | cons hc _ ih =>
    rw [List.forall_mem_cons] at hl ⊢
    refine ⟨?_, ih hl.2⟩
    rcases hc with rfl | rfl
    · exact (hforms _ hl.1).1
    · exact (hforms _ hl.1).2

theorem parseFlag_eq_true_iff {text : String} : parseFlag text = true ↔ IsTrueWord text := by
  have htrimmed : parseFlag text = true ↔ List.Forall₂ (fun c letter => c = letter ∨
      c = letter.toUpper) (Text.trimChars text.toList) Text.flagLetters := by
    rw [← Text.lowercaseAfter_eq_iff (fun _ h => h) [], parseFlag, beq_iff_eq, Text.lower,
      Text.trim, String.toList_ofList, ← String.toList_inj, String.toList_ofList]
    rfl
  rw [htrimmed]
  constructor
  · intro h
    obtain ⟨before, after, hcs, hbefore, hafter⟩ :=
      Text.exists_blanks_append_trimChars text.toList
    exact ⟨before, _, after, hcs, hbefore, hafter, h⟩
  · rintro ⟨before, word, after, hcs, hbefore, hafter, hword⟩
    rwa [hcs, Text.trimChars_append_blanks hafter, Text.trimChars_blanks_append hbefore,
      Text.trimChars_of_not_isBlank (isBlank_of_spelled (fun _ h => h) hword)]

end Number

/-! ### Documents -/

namespace Settings

open Entry (elements lastText?)

/-- The last text of its key turns a flag on or off, and without one it is off. -/
theorem get_flag_ofTree_iff {instanceId : String} {root : Xml.Node} {loaded : Settings}
    (h : (ofTree instanceId root).result = .ok loaded) {binding : Binding}
    (hb : binding ∈ bindings) (hc : binding.coercion = .flag) :
    loaded.get binding.field = .flag true ↔
      ∃ text, lastText? binding.key (elements root) = some text ∧ Number.IsTrueWord text := by
  have hbuiltIn : ∀ b ∈ bindings, b.coercion = .flag →
      (defaults instanceId).get b.field = .flag false := by simp [bindings, get, defaults]
  obtain ⟨-, -, u, hu, rfl⟩ := ofTree_eq_ok_iff.1 h
  have hget : u.reconciled.get binding.field = u.get binding.field :=
    u.get_reconciled (Binding.field_ne hb (by decide))
  have hbound := get_bound hu hb
  rw [hget]
  cases hl : lastText? binding.key (elements root) with
  | none =>
    rw [hl] at hbound
    simp [hbound, hbuiltIn binding hb hc]
  | some text =>
    rw [hl] at hbound
    obtain ⟨value, hv, hkept⟩ := hbound
    rw [hc] at hv
    cases hv
    have hflag : kept binding.field (.flag (Number.parseFlag text)) =
        .flag (Number.parseFlag text) := by cases binding.field <;> rfl
    simp [hkept, hflag, Number.parseFlag_eq_true_iff]

/-- A flag is on for the word `true` and for no other text, so a document turns the unsecure
features on exactly if the last text of their key is that word. -/
theorem unsecureFeatures_ofTree_iff :
    (∀ text, Number.parseFlag text = true ↔ Number.IsTrueWord text) ∧
    ∀ instanceId root loaded, (ofTree instanceId root).result = .ok loaded →
      (loaded.unsecureFeatures = true ↔
        ∃ text, lastText? "enableUnsecureFeatures" (elements root) = some text ∧
          Number.IsTrueWord text) := by
  refine ⟨fun _ => Number.parseFlag_eq_true_iff, fun instanceId root loaded h => ?_⟩
  have hb : (⟨"enableUnsecureFeatures", .unsecureFeatures, .flag⟩ : Binding) ∈ bindings := by
    decide
  rw [← get_flag_ofTree_iff h hb rfl]
  simp [get]

/-- A letter that only looks like one of the word, a character of width zero, an accent and a longer
word leave a flag off. -/
example : Number.parseFlag "\u3000tRuE\u001c" = true ∧
    ∀ text ∈ ["\u0422rue", "tru\u0395", "\u200btrue", "true\u0307", "truest", "1"],
      Number.parseFlag text = false := by
  decide +kernel

end Settings

end LayeredConfig

import LayeredConfig.Text.JsonGrammar
import LayeredConfig.Text.Json
import LayeredConfig.Proofs.Numeral
import Mathlib.Data.List.Basic
import Mathlib.Data.List.TakeWhile

/-! Rendered values are JSON texts. Every value, at every level of the layout, is rendered as a text
of the grammar that says just this value: each character of a string is written in one of the ways
to write it, and each integer with all its digits. No control character is left in the text but for
the line feeds of the layout, so that it has no escape sequence. -/

namespace LayeredConfig.Text

mutual

def Json.datum : Json → Datum
  | .null => .null
  | .boolean value => .boolean value
  | .integer value => .number value
  | .string value => .string value
  | .strings values => .array (values.map .string)
  | .object members => .object (Json.data members)

def Json.data : List (String × Json) → List (String × Datum)
  | [] => []
  | (name, value) :: members => (name, value.datum) :: Json.data members

end

namespace Datum

/-! ### Strings -/

theorem codeUnit?_hexDigits {n : Nat} (h : n < 0x20) :
    ∃ a b c d, hexDigits 4 n = [a, b, c, d] ∧ codeUnit? a b c d = some n := by
  have hall : ∀ n < 0x20, codeUnit? '0' '0' (Nat.digitChar (n / 16 % 16))
      (Nat.digitChar (n % 16)) = some n := by decide
  have hzero : n / 16 / 16 = 0 := by omega
  exact ⟨'0', '0', _, _, by simp [hexDigits, hzero], hall n h⟩

/-- Every character is written in one of the ways to write it. -/
theorem spells_escape (c : Char) : Spells c (Json.escape c) := by
  unfold Json.escape
  -- The seven characters with a letter of their own come first.
  iterate 7
    split
    · next h =>
      subst h
      exact .escaped rfl
  split
  · next h =>
    obtain ⟨a, b, d, e, hdigits, hunit⟩ := codeUnit?_hexDigits h
    rw [hdigits]
    exact .codeUnit hunit
  · next hquote hbackslash _ _ _ _ _ h => exact .plain hquote hbackslash (Nat.le_of_not_lt h)

theorem writes_quoted (s : String) : Writes (Json.quoted s).toList (.value (.string s)) := by
  have h : ∀ entry ∈ s.toList.map fun c => (c, Json.escape c), Spells entry.1 entry.2 := by
    intro entry hentry
    obtain ⟨c, -, rfl⟩ := List.mem_map.1 hentry
    exact spells_escape c
  have hwrites := Writes.string h
  simpa [Json.quoted, List.flatMap, Function.comp_def] using hwrites

/-! ### Numbers -/

theorem head?_toDigits {n : Nat} (h : n ≠ 0) : (Nat.toDigits 10 n).head? ≠ some '0' := by
  induction n using Nat.strongRecOn with
  | ind n ih =>
    by_cases hn : n < 10
    · have hall : ∀ d < 10, d ≠ 0 → Nat.digitChar d ≠ '0' := by decide
      rw [Nat.toDigits_of_lt_base hn]
      simpa using hall n hn h
    · rw [Nat.toDigits_of_base_le (by decide) (by omega),
        List.head?_append_of_ne_nil _ Nat.toDigits_ne_nil]
      exact ih (n / 10) (by omega) (by omega)

theorem isWhole_toDigits (n : Nat) : isWhole (Nat.toDigits 10 n) = true := by
  by_cases hn : n = 0
  · subst hn
    decide
  · simp only [isWhole, Bool.and_eq_true, Bool.not_eq_true', List.isEmpty_eq_false_iff,
      List.all_eq_true, Bool.or_eq_true, bne_iff_ne]
    exact ⟨⟨Nat.toDigits_ne_nil, fun c => Number.isDigit_of_mem_toDigits⟩,
      .inl (head?_toDigits hn)⟩

theorem unsignedNumber?_of_isWhole {digits : List Char} (h : isWhole digits = true)
    (negative : Bool) : unsignedNumber? negative digits =
      some (Number.signed negative (Number.digitsValue digits) : ℚ) := by
  have hdigits : ∀ c ∈ digits, Number.isDigit c = true := by
    simp only [isWhole, Bool.and_eq_true, List.all_eq_true] at h
    exact h.1.2
  have hmantissa : ∀ c ∈ digits, isMantissa c = true := by
    intro c hc
    have hd := hdigits c hc
    by_contra hm
    have hletter : c = 'e' ∨ c = 'E' := by
      simpa [isMantissa, or_iff_not_imp_left] using hm
    rcases hletter with rfl | rfl <;> exact absurd hd (by decide)
  have hpoint : ∀ c ∈ digits, (c != '.') = true := by
    intro c hc
    have hd := hdigits c hc
    rw [bne_iff_ne]
    rintro rfl
    exact absurd hd (by decide)
  rw [unsignedNumber?, List.takeWhile_eq_self_iff.2 hmantissa, List.takeWhile_eq_self_iff.2 hpoint,
    List.dropWhile_eq_nil_iff.2 hmantissa, List.dropWhile_eq_nil_iff.2 hpoint]
  simp [h, decimals?, exponent?]

/-- An integer is written with all its digits. -/
theorem number?_render (n : Int) : number? (Number.render n).toList = some (n : ℚ) := by
  have hread := unsignedNumber?_of_isWhole (isWhole_toDigits n.natAbs)
  rw [Number.digitsValue_toDigits] at hread
  by_cases hn : n < 0
  · have hcs : (Number.render n).toList = '-' :: Nat.toDigits 10 n.natAbs := by
      simp [Number.render, hn]
    have hsigned : Number.signed true n.natAbs = n := by
      simp only [Number.signed, if_true]
      omega
    rw [hcs, number?, hread, hsigned]
  · have hcs : (Number.render n).toList = Nat.toDigits 10 n.natAbs := by
      simp [Number.render, hn]
    have hsigned : Number.signed false n.natAbs = n := by
      simp only [Number.signed, Bool.false_eq_true, if_false]
      omega
    rw [hcs]
    unfold number?
    split
    · next digits hd =>
      have hm : Number.isDigit '-' = true :=
        Number.isDigit_of_mem_toDigits (hd ▸ List.mem_cons_self)
      exact absurd hm (by decide)
    · rw [hread, hsigned]

/-! ### Layout -/

theorem all_isSpace_newLine (level : Nat) : (Json.newLine level).toList.all isSpace = true := by
  simp [Json.newLine, isSpace]

theorem Writes.append_element {before text after : List Char} {datum : Datum}
    (h : Writes text (.element datum)) (hbefore : before.all isSpace = true)
    (hafter : after.all isSpace = true) : Writes (before ++ text ++ after) (.element datum) := by
  cases h with
  | @element first value last _ hfirst hvalue hlast =>
    have hfirst' : (before ++ first).all isSpace = true := by
      rw [List.all_append, hbefore, hfirst, Bool.and_self]
    have hlast' : (last ++ after).all isSpace = true := by
      rw [List.all_append, hlast, hafter, Bool.and_self]
    simpa using Writes.element hfirst' hvalue hlast'

theorem Writes.append_member {before text after : List Char} {name : String} {datum : Datum}
    (h : Writes text (.member name datum)) (hbefore : before.all isSpace = true)
    (hafter : after.all isSpace = true) :
    Writes (before ++ text ++ after) (.member name datum) := by
  cases h with
  | member hname hdatum =>
    have hname' := hname.append_element hbefore List.all_nil
    have hdatum' := hdatum.append_element List.all_nil hafter
    simpa using Writes.member hname' hdatum'

theorem Writes.to_element {text : List Char} {datum : Datum} (h : Writes text (.value datum)) :
    Writes text (.element datum) := by
  simpa using Writes.element List.all_nil h List.all_nil

/-- Lines between brackets are parts with commas between them, if space may stand around a part. -/
theorem exists_parts {α : Type} (holds : List Char → α → Prop)
    (hpad : ∀ before text after value, before.all isSpace = true → after.all isSpace = true →
      holds text value → holds (before ++ text ++ after) value)
    {before after : List Char} (hbefore : before.all isSpace = true)
    (hafter : after.all isSpace = true) {lines : List (String × α)} (hne : lines ≠ [])
    (h : ∀ line ∈ lines, holds line.1.toList line.2) :
    ∃ parts : List (List Char × α), parts ≠ [] ∧ (∀ part ∈ parts, holds part.1 part.2) ∧
      parts.map Prod.snd = lines.map Prod.snd ∧
      [','].intercalate (parts.map Prod.fst) =
        before ++ (',' :: before).intercalate (lines.map fun line => line.1.toList) ++ after := by
  induction lines with
  | nil => exact absurd rfl hne
  | cons line lines ih =>
    rw [List.forall_mem_cons] at h
    by_cases hlines : lines = []
    · subst hlines
      refine ⟨[(before ++ line.1.toList ++ after, line.2)], by simp, ?_, rfl, by simp⟩
      simpa using hpad _ _ _ _ hbefore hafter h.1
    · obtain ⟨parts, hparts, hall, hsnd, htext⟩ := ih hlines h.2
      refine ⟨(before ++ line.1.toList, line.2) :: parts, by simp, ?_, by simp [hsnd], ?_⟩
      · exact List.forall_mem_cons.2
          ⟨by simpa using hpad _ _ _ _ hbefore List.all_nil h.1, hall⟩
      · have hpartsNe : parts.map Prod.fst ≠ [] := by simpa using hparts
        have hlinesNe : lines.map (fun line => line.1.toList) ≠ [] := by simpa using hlines
        rw [List.map_cons, List.intercalate_cons_of_ne_nil hpartsNe, htext, List.map_cons,
          List.intercalate_cons_of_ne_nil hlinesNe]
        simp

theorem exists_parts_enclosed {α : Type} (holds : List Char → α → Prop)
    (hpad : ∀ before text after value, before.all isSpace = true → after.all isSpace = true →
      holds text value → holds (before ++ text ++ after) value)
    {lines : List (String × α)} (hne : lines ≠ [])
    (h : ∀ line ∈ lines, holds line.1.toList line.2) (level : Nat) (opening closing : String) :
    ∃ parts : List (List Char × α), parts ≠ [] ∧ (∀ part ∈ parts, holds part.1 part.2) ∧
      parts.map Prod.snd = lines.map Prod.snd ∧
      (Json.enclosed level opening closing (lines.map Prod.fst)).toList =
        opening.toList ++ [','].intercalate (parts.map Prod.fst) ++ closing.toList := by
  obtain ⟨parts, hparts, hall, hsnd, htext⟩ := exists_parts holds hpad
    (all_isSpace_newLine (level + 1)) (all_isSpace_newLine level) hne h
  refine ⟨parts, hparts, hall, hsnd, ?_⟩
  have hempty : (lines.map Prod.fst).isEmpty = false := by simpa using hne
  rw [htext]
  simp [Json.enclosed, hempty, String.toList_intercalate, Function.comp_def]

/-! ### Values -/

theorem writes_enclosed_items {lines : List (String × Datum)} (level : Nat)
    (h : ∀ line ∈ lines, Writes line.1.toList (.element line.2)) :
    Writes (Json.enclosed level "[" "]" (lines.map Prod.fst)).toList
      (.value (.array (lines.map Prod.snd))) := by
  by_cases hne : lines = []
  · subst hne
    have hempty : (Json.enclosed level "[" "]" []).toList = ['[', ']'] := by
      simp [Json.enclosed]
    rw [List.map_nil, hempty]
    exact .emptyArray List.all_nil
  · obtain ⟨parts, hparts, hall, hsnd, htext⟩ := exists_parts_enclosed
      (fun text datum => Writes text (.element datum))
      (fun _ _ _ _ hbefore hafter h => h.append_element hbefore hafter) hne h level "[" "]"
    rw [htext, ← hsnd]
    exact .array hparts hall

theorem writes_enclosed_members {lines : List (String × String × Datum)} (level : Nat)
    (h : ∀ line ∈ lines, Writes line.1.toList (.member line.2.1 line.2.2)) :
    Writes (Json.enclosed level "\x7b" "\x7d" (lines.map Prod.fst)).toList
      (.value (.object (lines.map Prod.snd))) := by
  by_cases hne : lines = []
  · subst hne
    have hempty : (Json.enclosed level "\x7b" "\x7d" []).toList = ['\x7b', '\x7d'] := by
      simp [Json.enclosed]
    rw [List.map_nil, hempty]
    exact .emptyObject List.all_nil
  · obtain ⟨parts, hparts, hall, hsnd, htext⟩ := exists_parts_enclosed
      (fun text (member : String × Datum) => Writes text (.member member.1 member.2))
      (fun _ _ _ _ hbefore hafter h => h.append_member hbefore hafter) hne h level "\x7b" "\x7d"
    rw [htext, ← hsnd]
    exact .object hparts hall

mutual

/-- Every value is rendered as a text that says it. -/
theorem writes_render (level : Nat) :
    ∀ json : Json, Writes (json.render level).toList (.value json.datum)
  | .null => .null
  | .boolean value => .boolean value
  | .integer value => .number (number?_render value)
  | .string value => writes_quoted value
  | .strings values => by
    have h : ∀ line ∈ values.map fun value => (Json.quoted value, Datum.string value),
        Writes line.1.toList (.element line.2) := by
      intro line hline
      obtain ⟨value, -, rfl⟩ := List.mem_map.1 hline
      exact (writes_quoted value).to_element
    simpa [Json.render, Json.datum, Function.comp_def] using writes_enclosed_items level h
  | .object members => by
    obtain ⟨lines, hlines, hdata, hall⟩ := exists_lines (level + 1) members
    have hwrites := writes_enclosed_members level hall
    rwa [hlines, hdata] at hwrites

/-- The lines of an object's members are members. -/
theorem exists_lines (level : Nat) : ∀ members : List (String × Json),
    ∃ lines : List (String × String × Datum),
      lines.map Prod.fst = Json.renderMembers level members ∧
      lines.map Prod.snd = Json.data members ∧
      ∀ line ∈ lines, Writes line.1.toList (.member line.2.1 line.2.2)
  | [] => ⟨[], rfl, rfl, by simp⟩
  | (name, value) :: members => by
    obtain ⟨lines, hlines, hdata, hall⟩ := exists_lines level members
    have hspace : [' '].all isSpace = true := rfl
    have hvalue := (writes_render level value).to_element.append_element hspace List.all_nil
    have hmember := Writes.member (writes_quoted name).to_element hvalue
    refine ⟨(Json.quoted name ++ ": " ++ value.render level, name, value.datum) :: lines,
      by rw [List.map_cons, hlines]; rfl, by rw [List.map_cons, hdata]; rfl,
      List.forall_mem_cons.2 ⟨?_, hall⟩⟩
    simpa using hmember

end

end Datum

namespace Json

/-! ### Control characters -/

/-- Whether a text has no control characters but line feeds. -/
def IsLegible (s : String) : Prop :=
  ∀ c ∈ s.toList, c = '\n' ∨ 0x20 ≤ c.toNat

instance (s : String) : Decidable (IsLegible s) :=
  List.decidableBAll (fun c => c = '\n' ∨ 0x20 ≤ c.toNat) s.toList

theorem IsLegible.append {s t : String} (hs : IsLegible s) (ht : IsLegible t) :
    IsLegible (s ++ t) := by
  intro c hc
  rw [String.toList_append, List.mem_append] at hc
  exact hc.elim (hs c) (ht c)

theorem le_toNat_of_isDigit {c : Char} (h : Number.isDigit c = true) : 0x20 ≤ c.toNat := by
  have hzero : '0'.toNat ≤ c.toNat := by
    simp only [Number.isDigit, Bool.and_eq_true, decide_eq_true_eq] at h
    exact h.1
  exact le_trans (by decide) hzero

theorem le_toNat_of_mem_hexDigits {width n : Nat} {c : Char} (h : c ∈ hexDigits width n) :
    0x20 ≤ c.toNat := by
  induction width generalizing n with
  | zero => cases h
  | succ width ih =>
    rw [hexDigits, List.mem_append, List.mem_singleton] at h
    rcases h with h | rfl
    · exact ih h
    · have hall : ∀ d < 16, 0x20 ≤ (Nat.digitChar d).toNat := by decide
      exact hall _ (Nat.mod_lt _ (by decide))

/-- A control character is written without control characters. -/
theorem le_toNat_of_mem_escape {c d : Char} (h : d ∈ escape c) : 0x20 ≤ d.toNat := by
  unfold escape at h
  -- The seven characters with a letter of their own come first.
  iterate 7
    split at h
    · simp only [List.mem_cons, List.not_mem_nil, or_false] at h
      rcases h with rfl | rfl <;> decide
  split at h
  · rw [List.mem_cons, List.mem_cons] at h
    rcases h with rfl | rfl | h
    · decide
    · decide
    · exact le_toNat_of_mem_hexDigits h
  · next hc =>
    obtain rfl := List.mem_singleton.1 h
    exact Nat.le_of_not_lt hc

theorem isLegible_quoted (s : String) : IsLegible (quoted s) := by
  intro c hc
  simp only [quoted, String.toList_ofList, List.cons_append, List.mem_cons, List.mem_append,
    List.mem_flatMap, List.not_mem_nil, or_false] at hc
  rcases hc with rfl | ⟨d, -, hc⟩ | rfl
  · decide
  · exact .inr (le_toNat_of_mem_escape hc)
  · decide

theorem isLegible_render_integer (n : Int) : IsLegible (Number.render n) := by
  intro c hc
  have hdigits : ∀ d ∈ Nat.toDigits 10 n.natAbs, 0x20 ≤ d.toNat := fun d hd =>
    le_toNat_of_isDigit (Number.isDigit_of_mem_toDigits hd)
  rw [Number.render, String.toList_ofList] at hc
  split at hc
  · rcases List.mem_cons.1 hc with rfl | hc
    · decide
    · exact .inr (hdigits c hc)
  · exact .inr (hdigits c hc)

theorem isLegible_newLine (level : Nat) : IsLegible (newLine level) := by
  intro c hc
  simp only [newLine, String.toList_append, String.toList_ofList, List.mem_append] at hc
  rcases hc with hc | hc
  · exact .inl (by simpa using hc)
  · rw [List.eq_of_mem_replicate hc]
    decide

theorem isLegible_intercalate {separator : String} (hseparator : IsLegible separator)
    {lines : List String} (h : ∀ line ∈ lines, IsLegible line) :
    IsLegible (separator.intercalate lines) := by
  induction lines with
  | nil => exact nofun
  | cons line lines ih =>
    rw [List.forall_mem_cons] at h
    cases lines with
    | nil => simpa using h.1
    | cons next lines =>
      rw [String.intercalate_cons_cons]
      exact (h.1.append hseparator).append (ih h.2)

theorem isLegible_enclosed (level : Nat) {opening closing : String} (hopening : IsLegible opening)
    (hclosing : IsLegible closing) {lines : List String} (h : ∀ line ∈ lines, IsLegible line) :
    IsLegible (enclosed level opening closing lines) := by
  have hcomma : IsLegible "," := by decide
  unfold enclosed
  split
  · exact hopening.append hclosing
  · have hlines := isLegible_intercalate (hcomma.append (isLegible_newLine (level + 1))) h
    exact (((hopening.append (isLegible_newLine _)).append hlines).append
      (isLegible_newLine _)).append hclosing

mutual

theorem isLegible_render (level : Nat) : ∀ json : Json, IsLegible (json.render level)
  | .null => show IsLegible "null" by decide
  | .boolean true => show IsLegible "true" by decide
  | .boolean false => show IsLegible "false" by decide
  | .integer value => isLegible_render_integer value
  | .string value => isLegible_quoted value
  | .strings values => by
    refine isLegible_enclosed level (by decide) (by decide) fun line hline => ?_
    obtain ⟨value, -, rfl⟩ := List.mem_map.1 hline
    exact isLegible_quoted value
  | .object members =>
    isLegible_enclosed level (by decide) (by decide) (isLegible_renderMembers (level + 1) members)

theorem isLegible_renderMembers (level : Nat) : ∀ (members : List (String × Json)),
    ∀ line ∈ renderMembers level members, IsLegible line
  | [] => nofun
  | (name, value) :: members => by
    have hcolon : IsLegible ": " := by decide
    rw [renderMembers, List.forall_mem_cons]
    exact ⟨((isLegible_quoted name).append hcolon).append (isLegible_render level value),
      isLegible_renderMembers level members⟩

end

theorem not_mem_render (json : Json) (level : Nat) : '\x1b' ∉ (json.render level).toList :=
  fun hm => absurd (isLegible_render level json _ hm) (by decide)

end Json

end LayeredConfig.Text

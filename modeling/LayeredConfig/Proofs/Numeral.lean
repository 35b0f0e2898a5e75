import LayeredConfig.Number.LenientNumeral
import Mathlib.Tactic.Ring

/-! The language of numerals and its inverse. A text is read as an integer exactly if it is an
optional sign with 1 to 4300 digits; what is read has at most so many digits when it is written, and
every integer of that size is written as a numeral that is read back. What is typed by hand denotes
integers of that size as well. -/

namespace LayeredConfig.Number

/-- The texts that are read as integers. -/
def IsNumeral (text : String) : Prop :=
  ∃ sign digits, text.toList = sign ++ digits ∧ (sign = [] ∨ sign = ['+'] ∨ sign = ['-']) ∧
    (∀ c ∈ digits, isDigit c = true) ∧ 1 ≤ digits.length ∧ digits.length ≤ digitLimit

/-- Whether an integer is written with no more digits than are read. -/
def IsPrintable (n : Int) : Prop :=
  (Nat.toDigits 10 n.natAbs).length ≤ digitLimit

instance (n : Int) : Decidable (IsPrintable n) :=
  inferInstanceAs (Decidable (_ ≤ _))

/-! ### The language -/

theorem splitSign_of_digits {digits : List Char} (h : ∀ c ∈ digits, isDigit c = true) :
    splitSign digits = (false, digits) := by
  rcases digits with _ | ⟨c, cs⟩
  · rfl
  · have hc := h c (by simp)
    unfold splitSign
    split
    · next heq => cases heq; exact absurd hc (by decide)
    · next heq => cases heq; exact absurd hc (by decide)
    · rfl

theorem exists_sign (cs : List Char) :
    ∃ sign, cs = sign ++ (splitSign cs).2 ∧ (sign = [] ∨ sign = ['+'] ∨ sign = ['-']) := by
  unfold splitSign
  split
  · exact ⟨['-'], rfl, by simp⟩
  · exact ⟨['+'], rfl, by simp⟩
  · exact ⟨[], rfl, by simp⟩

/-- The digits that stand after a sign are found behind it. -/
theorem splitSign_append {sign digits : List Char}
    (hs : sign = [] ∨ sign = ['+'] ∨ sign = ['-']) (hd : ∀ c ∈ digits, isDigit c = true) :
    (splitSign (sign ++ digits)).2 = digits := by
  rcases hs with rfl | rfl | rfl
  · rw [List.nil_append, splitSign_of_digits hd]
  · rfl
  · rfl

theorem parse_of_digits {text : String} {digits : List Char}
    (hs : (splitSign text.toList).2 = digits) (hd : ∀ c ∈ digits, isDigit c = true)
    (hp : 1 ≤ digits.length) (hl : digits.length ≤ digitLimit) :
    parse text = .ok (signed (splitSign text.toList).1 (digitsValue digits)) := by
  have he : digits.isEmpty = false := by
    rw [← Bool.not_eq_true, List.isEmpty_iff]
    rintro rfl
    exact absurd hp (by simp)
  have ha : digits.all isDigit = true := List.all_eq_true.2 hd
  simp only [parse, hs, he, ha, Bool.not_true, Bool.or_self, Bool.false_eq_true, if_false, hl,
    if_true]

theorem digits_of_parse {text : String} {n : Int} (h : parse text = .ok n) :
    (∀ c ∈ (splitSign text.toList).2, isDigit c = true) ∧
      1 ≤ (splitSign text.toList).2.length ∧ (splitSign text.toList).2.length ≤ digitLimit ∧
      n = signed (splitSign text.toList).1 (digitsValue (splitSign text.toList).2) := by
  simp only [parse] at h
  split at h
  · cases h
  · next hbad =>
    split at h
    · next hl =>
      simp only [Bool.or_eq_true, Bool.not_eq_true', not_or, Bool.not_eq_false] at hbad
      refine ⟨List.all_eq_true.1 hbad.2, ?_, hl, (Except.ok.inj h).symm⟩
      rw [Nat.one_le_iff_ne_zero, Ne, List.length_eq_zero_iff, ← List.isEmpty_iff]
      exact hbad.1
    · cases h

/-- A text is read as an integer exactly if it is a numeral. -/
theorem exists_parse_iff {text : String} : (∃ n, parse text = .ok n) ↔ IsNumeral text := by
  constructor
  · rintro ⟨n, h⟩
    obtain ⟨hd, hp, hl, -⟩ := digits_of_parse h
    obtain ⟨sign, hcs, hsign⟩ := exists_sign text.toList
    exact ⟨sign, _, hcs, hsign, hd, hp, hl⟩
  · rintro ⟨sign, digits, hcs, hsign, hd, hp, hl⟩
    have hs : (splitSign text.toList).2 = digits := by rw [hcs, splitSign_append hsign hd]
    exact ⟨_, parse_of_digits hs hd hp hl⟩

theorem parse?_eq_some_iff {text : String} {n : Int} :
    parse? text = some n ↔ parse text = .ok n := by
  unfold parse?
  cases parse text <;> simp [Except.toOption]

theorem parse?_eq_none_iff {text : String} : parse? text = none ↔ ¬ IsNumeral text := by
  rw [← exists_parse_iff, Option.eq_none_iff_forall_ne_some]
  simp only [ne_eq, parse?_eq_some_iff, not_exists]

instance (text : String) : Decidable (IsNumeral text) :=
  decidable_of_iff ((parse? text).isSome = true) <| by
    rw [Option.isSome_iff_ne_none, Ne, parse?_eq_none_iff, not_not]

/-- Why a text that is no numeral is not read: it has too many digits, or it does not consist of a
sign and digits. -/
def refusal (text : String) : NumeralFault :=
  let digits := (splitSign text.toList).2
  if digits.isEmpty || !digits.all isDigit then .malformed text else .tooLong digits.length

theorem parse_eq_error_iff {text : String} {fault : NumeralFault} :
    parse text = .error fault ↔ ¬ IsNumeral text ∧ fault = refusal text := by
  rw [← parse?_eq_none_iff]
  simp only [parse?, parse, refusal]
  split
  · simp [Except.toOption, eq_comm]
  · split <;> simp [Except.toOption, eq_comm]

/-- A digit is no blank character. -/
theorem isBlank_of_isDigit {c : Char} (h : isDigit c = true) : Text.isBlank c = false := by
  have hc : 48 ≤ c.toNat ∧ c.toNat ≤ 57 := by simpa [isDigit] using h
  simp only [Text.isBlank, Bool.or_eq_false_iff, Bool.and_eq_false_iff, decide_eq_false_iff_not,
    beq_eq_false_iff_ne]
  omega

/-- A numeral is no blank text. -/
theorem isBlankText_of_parse? {text : String} {n : Int} (h : parse? text = some n) :
    Text.isBlankText text = false := by
  obtain ⟨hd, hp, -, -⟩ := digits_of_parse (parse?_eq_some_iff.1 h)
  obtain ⟨sign, hcs, -⟩ := exists_sign text.toList
  obtain ⟨c, hc⟩ := List.exists_mem_of_length_pos hp
  rw [Text.isBlankText, ← Bool.not_eq_true, List.all_eq_true]
  intro hall
  have hb := hall c (by rw [hcs]; exact List.mem_append_right _ hc)
  rw [isBlank_of_isDigit (hd c hc)] at hb
  cases hb

theorem parse?_of_isBlankText {text : String} (h : Text.isBlankText text = true) :
    parse? text = none := by
  refine Option.eq_none_iff_forall_ne_some.2 fun n hn => ?_
  rw [isBlankText_of_parse? hn] at h
  cases h

/-! ### Writing and reading back -/

theorem digitsValue_toDigits (n : Nat) : digitsValue (Nat.toDigits 10 n) = n :=
  Nat.ofDigitChars_ten_toDigits

/-- Reading digits after a number that is read already multiplies it by a power of ten. -/
theorem foldl_digits_lt {cs : List Char} (h : ∀ c ∈ cs, isDigit c = true) (value : Nat) :
    cs.foldl (fun value c => 10 * value + digitValue c) value < (value + 1) * 10 ^ cs.length := by
  induction cs generalizing value with
  | nil => simp
  | cons c cs ih =>
    have hc : digitValue c ≤ 9 := by
      have := h c (by simp)
      simp only [isDigit, Bool.and_eq_true, decide_eq_true_eq] at this
      have hnine : '9'.toNat = '0'.toNat + 9 := rfl
      rw [digitValue]
      omega
    have hlt := ih (fun d hd => h d (List.mem_cons_of_mem _ hd)) (10 * value + digitValue c)
    rw [List.foldl_cons, List.length_cons]
    calc cs.foldl (fun value c => 10 * value + digitValue c) (10 * value + digitValue c)
        < (10 * value + digitValue c + 1) * 10 ^ cs.length := hlt
      _ ≤ (10 * (value + 1)) * 10 ^ cs.length := Nat.mul_le_mul_right _ (by omega)
      _ = (value + 1) * 10 ^ (cs.length + 1) := by ring

theorem natAbs_signed (negative : Bool) (value : Nat) : (signed negative value).natAbs = value := by
  cases negative <;> simp [signed]

/-- The number that digits denote is written with no more digits. -/
theorem isPrintable_signed (negative : Bool) {digits : List Char}
    (hd : ∀ c ∈ digits, isDigit c = true) (hp : 1 ≤ digits.length)
    (hl : digits.length ≤ digitLimit) : IsPrintable (signed negative (digitsValue digits)) := by
  have hlt := foldl_digits_lt hd 0
  rw [Nat.zero_add, Nat.one_mul] at hlt
  rw [IsPrintable, natAbs_signed]
  exact ((Nat.length_toDigits_le_iff (by decide) hp).2 hlt).trans hl

theorem isPrintable_of_parse? {text : String} {n : Int} (h : parse? text = some n) :
    IsPrintable n := by
  obtain ⟨hd, hp, hl, rfl⟩ := digits_of_parse (parse?_eq_some_iff.1 h)
  exact isPrintable_signed _ hd hp hl

theorem isDigit_of_mem_toDigits {n : Nat} {c : Char} (h : c ∈ Nat.toDigits 10 n) :
    isDigit c = true := by
  have hc := Nat.isDigit_of_mem_toDigits (by decide) (by decide) h
  simpa [isDigit, Char.isDigit, UInt32.le_iff_toNat_le] using hc

/-- An integer that is not too long is written as a numeral that is read back. -/
theorem parse?_render {n : Int} (h : IsPrintable n) : parse? (render n) = some n := by
  have hd : ∀ c ∈ Nat.toDigits 10 n.natAbs, isDigit c = true := fun c => isDigit_of_mem_toDigits
  have hp : 1 ≤ (Nat.toDigits 10 n.natAbs).length := Nat.length_toDigits_pos
  rw [parse?_eq_some_iff]
  by_cases hn : n < 0
  · have hcs : splitSign (render n).toList = (true, Nat.toDigits 10 n.natAbs) := by
      simp [render, hn, splitSign]
    rw [parse_of_digits (congrArg Prod.snd hcs) hd hp h, hcs, digitsValue_toDigits]
    congr 1
    simp only [signed, if_true]
    omega
  · have hcs : splitSign (render n).toList = (false, Nat.toDigits 10 n.natAbs) := by
      simp [render, hn, splitSign_of_digits hd]
    rw [parse_of_digits (congrArg Prod.snd hcs) hd hp h, hcs, digitsValue_toDigits]
    congr 1
    simp only [signed, Bool.false_eq_true, if_false]
    omega

/-! ### Numerals that are typed by hand -/

theorem isDigit_of_joinDigitGroups {cs digits : List Char} (h : joinDigitGroups cs = some digits) :
    1 ≤ digits.length ∧ ∀ c ∈ digits, isDigit c = true := by
  fun_induction joinDigitGroups cs generalizing digits with
  | case1 => cases h
  | case2 c hc => cases h; simpa using hc
  | case3 c hc => cases h
  | case4 c rest hc ih =>
    obtain ⟨digits, hrest, rfl⟩ := Option.map_eq_some_iff.1 h
    have := ih hrest
    simp_all
  | case5 c rest hc => cases h
  | case6 c rest hne hne' hc ih =>
    obtain ⟨digits, hrest, rfl⟩ := Option.map_eq_some_iff.1 h
    have := ih hrest
    simp_all
  | case7 c rest hne hne' hc => cases h

theorem isPrintable_of_parseLenient? {text : String} {n : Int} (h : parseLenient? text = some n) :
    IsPrintable n := by
  simp only [parseLenient?] at h
  split at h
  · next digits hj =>
    obtain ⟨hp, hd⟩ := isDigit_of_joinDigitGroups hj
    split at h
    · next hl =>
      cases h
      exact isPrintable_signed _ hd hp hl
    · cases h
  · cases h

end LayeredConfig.Number

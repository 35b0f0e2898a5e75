import LayeredConfig.CommandLine.Run
import LayeredConfig.Proofs.Log
import Mathlib.Data.Nat.Digits.Defs

/-! Integers as they are read and written. A text is read as the integer that its digits denote by
their positions, with the sign in front; an integer that is not too long is read back from the
numeral by which it is written; and none that is read is too long. So every integer of an assembled
configuration, and every integer that the assembly reports, is written without a failure and read
back. -/

namespace LayeredConfig

namespace Number

/-! ### Positions -/

/-- Whether a text denotes an integer: it is an optional sign with 1 to 4300 digits, and the digits
have the value of the integer by their positions, the last one being that of the units. -/
def Denotes (text : String) (n : Int) : Prop :=
  ∃ sign digits, text.toList = sign ++ digits ∧ (sign = [] ∨ sign = ['+'] ∨ sign = ['-']) ∧
    (∀ c ∈ digits, isDigit c = true) ∧ 1 ≤ digits.length ∧ digits.length ≤ digitLimit ∧
    n = (if sign = ['-'] then -1 else 1) * (Nat.ofDigits 10 (digits.reverse.map digitValue) : ℕ)

theorem digitsValue_eq_ofDigits (digits : List Char) :
    digitsValue digits = Nat.ofDigits 10 (digits.reverse.map digitValue) := by
  rw [Nat.ofDigits_eq_foldr, List.map_reverse, List.foldr_reverse, List.foldl_map, digitsValue]
  simp only [Nat.cast_id, add_comm]

/-- The sign that stands before digits is found to be the minus or not. -/
theorem splitSign_append_fst {sign digits : List Char}
    (hs : sign = [] ∨ sign = ['+'] ∨ sign = ['-']) (hd : ∀ c ∈ digits, isDigit c = true) :
    (splitSign (sign ++ digits)).1 = decide (sign = ['-']) := by
  rcases hs with rfl | rfl | rfl
  · rw [List.nil_append, splitSign_of_digits hd]
    rfl
  · rfl
  · rfl

theorem signed_eq_mul (sign : List Char) (value : ℕ) :
    signed (decide (sign = ['-'])) value = (if sign = ['-'] then -1 else 1) * (value : Int) := by
  by_cases h : sign = ['-'] <;> simp [signed, h]

/-- A text is read as the integer that it denotes, and not at all if it denotes none. -/
theorem parse_eq_ok_iff {text : String} {n : Int} : parse text = .ok n ↔ Denotes text n := by
  constructor
  · intro h
    obtain ⟨hd, hp, hl, rfl⟩ := digits_of_parse h
    obtain ⟨sign, hcs, hsign⟩ := exists_sign text.toList
    refine ⟨sign, _, hcs, hsign, hd, hp, hl, ?_⟩
    have hnegative := splitSign_append_fst hsign hd
    rw [← hcs] at hnegative
    rw [hnegative, signed_eq_mul, digitsValue_eq_ofDigits]
  · rintro ⟨sign, digits, hcs, hsign, hd, hp, hl, rfl⟩
    have hs : (splitSign text.toList).2 = digits := by rw [hcs, splitSign_append hsign hd]
    rw [parse_of_digits hs hd hp hl, hcs, splitSign_append_fst hsign hd, signed_eq_mul,
      digitsValue_eq_ofDigits]

theorem parse_render {n : Int} (h : IsPrintable n) : parse (render n) = .ok n :=
  parse?_eq_some_iff.1 (parse?_render h)

theorem isPrintable_of_parse {text : String} {n : Int} (h : parse text = .ok n) : IsPrintable n :=
  isPrintable_of_parse? (parse?_eq_some_iff.2 h)

end Number

/-! ### Configurations -/

open Number (parse render IsPrintable Denotes)

/-- Reading is exact and undoes writing, and no integer is too long to be written: not one of an
assembled configuration, which is shown and handed to a worker by its numeral, and not one that the
assembly reports, however it ends. -/
theorem parse_render_of_assemble (files : Files) (freshId : String) (options : Options) :
    (∀ text n, parse text = .ok n ↔ Denotes text n) ∧
    (∀ n, IsPrintable n → parse (render n) = .ok n) ∧
    (∀ text n, parse text = .ok n → IsPrintable n) ∧
    (∀ config, (assemble files freshId options).result = .ok config →
      (∀ field n, config.settings.get field = .integer n →
        IsPrintable n ∧ parse (render n) = .ok n ∧
          ∀ level, (config.settings.get field).json.render level = render n) ∧
      ∀ windows directory id,
        (Worker.arguments windows directory config config.settings.port id)[1]? =
          some (render config.settings.port)) ∧
    ∀ key field n, .bound key field (.integer n) ∈ (assemble files freshId options).events →
      IsPrintable n ∧ parse (render n) = .ok n := by
  refine ⟨fun _ _ => Number.parse_eq_ok_iff, fun _ => Number.parse_render,
    fun _ _ => Number.isPrintable_of_parse, fun config hconfig => ⟨fun field n hn => ?_, ?_⟩,
    fun key field n hmem => ?_⟩
  · have hprintable := Config.isPrintable_get_of_assemble hconfig field
    rw [hn] at hprintable
    refine ⟨hprintable, Number.parse_render hprintable, fun level => ?_⟩
    rw [hn, Value.json, Text.Json.render]
  · intro windows directory id
    rfl
  · have hprintable : IsPrintable n := isPrintable_of_mem_events_assemble hmem
    exact ⟨hprintable, Number.parse_render hprintable⟩

/-- Zeros in front are read over, and nothing but a sign and digits is accepted. -/
example : parse "-007" = .ok (-7) ∧
    ∀ text ∈ ["", "+", "+-1", " 1", "1\n", "1_0", "٣"], Number.parse? text = none := by
  decide +kernel

end LayeredConfig

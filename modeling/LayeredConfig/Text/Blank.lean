/-!
Blank characters and trimming. A character is blank when Unicode gives it the property
White_Space or makes it a separator of paragraphs, segments or units; trimming removes the blank
characters at both ends of a text and keeps those inside.
-/

namespace LayeredConfig.Text

/-- The blank characters: the control characters that move the cursor or separate records, the
ASCII space, the next-line and no-break characters, and every Unicode space and line separator.
Characters of width zero are not among them. -/
def isBlank (c : Char) : Bool :=
  (0x09 ≤ c.toNat && c.toNat ≤ 0x0D) || (0x1C ≤ c.toNat && c.toNat ≤ 0x20) ||
    c.toNat == 0x85 || c.toNat == 0xA0 || c.toNat == 0x1680 ||
    (0x2000 ≤ c.toNat && c.toNat ≤ 0x200A) || c.toNat == 0x2028 || c.toNat == 0x2029 ||
    c.toNat == 0x202F || c.toNat == 0x205F || c.toNat == 0x3000

def trimChars (cs : List Char) : List Char :=
  ((cs.dropWhile isBlank).reverse.dropWhile isBlank).reverse

def trim (s : String) : String :=
  String.ofList (trimChars s.toList)

/-- Whether a text has blank characters only; the empty text has. -/
def isBlankText (s : String) : Bool :=
  s.toList.all isBlank

/-! ### Blanks at the ends -/

section Blanks
variable {blanks : List Char} (h : ∀ c ∈ blanks, isBlank c = true) (cs : List Char)
include h

theorem dropWhile_isBlank_append : (blanks ++ cs).dropWhile isBlank = cs.dropWhile isBlank := by
  rw [List.dropWhile_append_of_pos h]

theorem trimChars_blanks_append : trimChars (blanks ++ cs) = trimChars cs := by
  rw [trimChars, dropWhile_isBlank_append h, trimChars]

theorem trimChars_append_blanks : trimChars (cs ++ blanks) = trimChars cs := by
  have hreverse : ∀ c ∈ blanks.reverse, isBlank c = true := fun c hc => h c (List.mem_reverse.1 hc)
  unfold trimChars
  rw [List.dropWhile_append]
  split
  · next hempty =>
    have hblanks : blanks.dropWhile isBlank = [] := by
      simpa using dropWhile_isBlank_append h []
    rw [List.isEmpty_iff.1 hempty, hblanks]
  · rw [List.reverse_append, dropWhile_isBlank_append hreverse]

end Blanks

theorem trimChars_of_not_isBlank {cs : List Char} (h : ∀ c ∈ cs, isBlank c = false) :
    trimChars cs = cs := by
  have hdrop : ∀ {cs : List Char}, (∀ c ∈ cs, isBlank c = false) → cs.dropWhile isBlank = cs := by
    intro cs hcs
    cases cs with
    | nil => rfl
    | cons c cs => simp [hcs c (by simp)]
  rw [trimChars, hdrop h, hdrop fun c hc => h c (List.mem_reverse.1 hc), List.reverse_reverse]

/-- Trimming takes nothing away but blanks at the ends. -/
theorem exists_blanks_append_trimChars (cs : List Char) :
    ∃ before after, cs = before ++ trimChars cs ++ after ∧
      (∀ c ∈ before, isBlank c = true) ∧ ∀ c ∈ after, isBlank c = true := by
  have hblank : ∀ cs : List Char, ∀ c ∈ cs.takeWhile isBlank, isBlank c = true :=
    fun cs => List.all_eq_true.1 List.all_takeWhile
  have hback : cs.dropWhile isBlank =
      trimChars cs ++ ((cs.dropWhile isBlank).reverse.takeWhile isBlank).reverse := by
    rw [trimChars, ← List.reverse_append, List.takeWhile_append_dropWhile, List.reverse_reverse]
  refine ⟨cs.takeWhile isBlank, ((cs.dropWhile isBlank).reverse.takeWhile isBlank).reverse, ?_,
    hblank cs, fun c hc => hblank _ c (List.mem_reverse.1 hc)⟩
  rw [List.append_assoc, ← hback, List.takeWhile_append_dropWhile]

/-- A text is blank exactly if trimming leaves nothing of it. -/
theorem isBlankText_iff {s : String} : isBlankText s = true ↔ trim s = "" := by
  rw [isBlankText, List.all_eq_true]
  constructor
  · intro h
    rw [trim, ← List.append_nil s.toList, trimChars_blanks_append h]
    rfl
  · intro h
    have hchars : trimChars s.toList = [] := String.ofList_injective h
    obtain ⟨before, after, hs, hbefore, hafter⟩ := exists_blanks_append_trimChars s.toList
    rw [hchars, List.append_nil] at hs
    rw [hs]
    exact fun c hc => (List.mem_append.1 hc).elim (hbefore c) (hafter c)

end LayeredConfig.Text

/-!
Escape sequences, by which a text tells a terminal how to show what follows. A sequence is the
escape character with a bracket, any digits, semicolons and question marks, and a letter. Whatever
else begins with the escape character is text like any other.
-/

namespace LayeredConfig.Text

/-- Whether a character may stand between the bracket and the letter of an escape sequence. -/
def isParameter (c : Char) : Bool :=
  c == ';' || c == '?' || c.isDigit

/-- The length of the escape sequence that a text begins with, or zero. -/
def sequenceLength : List Char → Nat
  | escape :: bracket :: cs =>
    if escape == '\x1b' && bracket == '[' && (cs.dropWhile isParameter).head?.any Char.isAlpha then
      (cs.takeWhile isParameter).length + 3
    else 0
  | _ => 0

/-- The characters outside escape sequences, where the first `skipped` characters are the end of
one. -/
def unstyledFrom : (skipped : Nat) → List Char → List Char
  | _, [] => []
  | skipped + 1, _ :: cs => unstyledFrom skipped cs
  | 0, c :: cs =>
    match sequenceLength (c :: cs) with
    | 0 => c :: unstyledFrom 0 cs
    | length + 1 => unstyledFrom length cs

/-- The text without its escape sequences. What is left may well form a new one. -/
def unstyled (s : String) : String :=
  String.ofList (unstyledFrom 0 s.toList)

/-! ### The sequence at the beginning -/

theorem sequenceLength_of_ne {c : Char} (h : c ≠ '\x1b') (cs : List Char) :
    sequenceLength (c :: cs) = 0 := by
  cases cs <;> simp [sequenceLength, h]

theorem sequenceLength_le (cs : List Char) : sequenceLength cs ≤ cs.length := by
  unfold sequenceLength
  split
  · next escape bracket cs =>
    split
    · next h =>
      have hparts : (cs.takeWhile isParameter).length + (cs.dropWhile isParameter).length =
          cs.length := by
        rw [← List.length_append, List.takeWhile_append_dropWhile]
      have hletter : cs.dropWhile isParameter ≠ [] := by
        intro hnil
        simp [hnil] at h
      have hpos := List.length_pos_iff.2 hletter
      simp only [List.length_cons]
      omega
    · exact Nat.zero_le _
  · exact Nat.zero_le _

/-- A sequence does not reach over the end of a line. -/
theorem sequenceLength_cut (cs rest : List Char) :
    sequenceLength (cs ++ '\n' :: rest) = sequenceLength cs := by
  match cs with
  | [] => exact sequenceLength_of_ne (by decide) rest
  | [escape] => simp [sequenceLength]
  | escape :: bracket :: cs =>
    have hstop : isParameter '\n' = false := by decide
    have htake : (cs ++ '\n' :: rest).takeWhile isParameter = cs.takeWhile isParameter := by
      rw [List.takeWhile_append, List.takeWhile_cons_of_neg (by simp [hstop]), List.append_nil]
      split
      · next h => exact ((List.takeWhile_prefix _).eq_of_length h).symm
      · rfl
    have hdrop : (cs ++ '\n' :: rest).dropWhile isParameter =
        cs.dropWhile isParameter ++ '\n' :: rest := by
      simp [List.dropWhile_append, hstop]
    have hletter : ((cs ++ '\n' :: rest).dropWhile isParameter).head?.any Char.isAlpha =
        (cs.dropWhile isParameter).head?.any Char.isAlpha := by
      rw [hdrop]
      cases cs.dropWhile isParameter with
      | nil => rfl
      | cons letter others => rfl
    simp only [List.cons_append, sequenceLength, htake, hletter]

/-! ### The text without sequences -/

theorem unstyledFrom_zero_cons {c : Char} {cs : List Char} (h : sequenceLength (c :: cs) = 0) :
    unstyledFrom 0 (c :: cs) = c :: unstyledFrom 0 cs := by
  rw [unstyledFrom, h]

theorem unstyledFrom_sublist (skipped : Nat) (cs : List Char) :
    (unstyledFrom skipped cs).Sublist cs := by
  fun_induction unstyledFrom skipped cs with
  | case1 => exact List.Sublist.refl _
  | case2 skipped c cs ih => exact ih.cons c
  | case3 c cs h ih => exact ih.cons_cons c
  | case4 c cs length h ih => exact ih.cons c

/-- The end of a line is a place where a text can be cut. -/
theorem unstyledFrom_cut {skipped : Nat} {cs : List Char} (h : skipped ≤ cs.length)
    (rest : List Char) : unstyledFrom skipped (cs ++ '\n' :: rest) =
      unstyledFrom skipped cs ++ '\n' :: unstyledFrom 0 rest := by
  induction cs generalizing skipped with
  | nil =>
    obtain rfl : skipped = 0 := Nat.le_zero.1 h
    exact unstyledFrom_zero_cons (sequenceLength_of_ne (by decide) rest)
  | cons c cs ih =>
    match skipped with
    | skipped + 1 => exact ih (Nat.le_of_succ_le_succ h)
    | 0 =>
      have hcut := sequenceLength_cut (c :: cs) rest
      have hle := sequenceLength_le (c :: cs)
      rw [List.cons_append] at hcut ⊢
      rw [unstyledFrom, unstyledFrom, hcut]
      cases hlength : sequenceLength (c :: cs) with
      | zero => simp only [ih (Nat.zero_le _), List.cons_append]
      | succ length =>
        rw [hlength] at hle
        exact ih (Nat.le_of_succ_le_succ hle)

/-- Without the escape character nothing is left out at the front. -/
theorem unstyledFrom_append {cs : List Char} (h : '\x1b' ∉ cs) (rest : List Char) :
    unstyledFrom 0 (cs ++ rest) = cs ++ unstyledFrom 0 rest := by
  induction cs with
  | nil => rfl
  | cons c cs ih =>
    rw [List.mem_cons, not_or] at h
    rw [List.cons_append, unstyledFrom_zero_cons (sequenceLength_of_ne (Ne.symm h.1) _), ih h.2,
      List.cons_append]

theorem unstyledFrom_eq_self_iff {cs : List Char} :
    unstyledFrom 0 cs = cs ↔ ∀ rest, rest <:+ cs → sequenceLength rest = 0 := by
  induction cs with
  | nil => simp [unstyledFrom, sequenceLength]
  | cons c cs ih =>
    simp only [List.suffix_cons_iff, forall_eq_or_imp, ← ih]
    rw [unstyledFrom]
    cases hlength : sequenceLength (c :: cs) with
    | zero => simp
    | succ length =>
      have hshort := (unstyledFrom_sublist length cs).length_le
      refine ⟨fun h => ?_, fun h => absurd h.1 (Nat.succ_ne_zero _)⟩
      simp only at h
      rw [h, List.length_cons] at hshort
      omega

theorem unstyled_append (s t : String) :
    unstyled (s ++ "\n" ++ t) = unstyled s ++ "\n" ++ unstyled t := by
  apply String.toList_inj.1
  simpa [unstyled] using unstyledFrom_cut (Nat.zero_le s.toList.length) t.toList

theorem unstyled_append_newline (s : String) : unstyled (s ++ "\n") = unstyled s ++ "\n" := by
  simpa [unstyled, unstyledFrom] using unstyled_append s ""

theorem not_mem_unstyled {s : String} {c : Char} (h : c ∉ s.toList) :
    c ∉ (unstyled s).toList := by
  rw [unstyled, String.toList_ofList]
  exact fun hm => h ((unstyledFrom_sublist 0 _).subset hm)

theorem unstyled_append_of_not_mem {s : String} (h : '\x1b' ∉ s.toList) (t : String) :
    unstyled (s ++ t) = s ++ unstyled t := by
  apply String.toList_inj.1
  simpa [unstyled] using unstyledFrom_append h t.toList

theorem unstyled_eq_self {s : String} (h : '\x1b' ∉ s.toList) : unstyled s = s := by
  simpa [unstyled, unstyledFrom] using unstyled_append_of_not_mem h ""

/-- A text stays as it is exactly if no sequence begins at any place of it. -/
theorem unstyled_eq_self_iff {s : String} :
    unstyled s = s ↔ ∀ rest, rest <:+ s.toList → sequenceLength rest = 0 := by
  rw [← unstyledFrom_eq_self_iff, ← String.toList_inj, unstyled, String.toList_ofList]

end LayeredConfig.Text

/-!
Lines of a text. A line is ended by a line feed, and what stands behind the last one is no line.
-/

namespace LayeredConfig.Text

/-- The lines of a text without the line feeds that end them. -/
def lines (s : String) : List String :=
  ((s.toList.splitOn '\n').dropLast).map String.ofList

/-! ### Texts of lines -/

theorem lines_append {line : String} (h : '\n' ∉ line.toList) (rest : String) :
    lines (line ++ "\n" ++ rest) = line :: lines rest := by
  have hchars : (line ++ "\n" ++ rest).toList = line.toList ++ '\n' :: rest.toList := by
    simp
  rw [lines, hchars, List.splitOn_append_cons_self_of_not_mem h,
    List.dropLast_cons_of_ne_nil (List.splitOn_ne_nil _ _), List.map_cons, String.ofList_toList,
    lines]

theorem not_mem_of_mem_splitOn {cs part : List Char} (h : part ∈ cs.splitOn '\n') :
    '\n' ∉ part := by
  induction cs generalizing part with
  | nil =>
    rw [List.splitOn_nil, List.mem_singleton] at h
    simp [h]
  | cons c cs ih =>
    rw [List.splitOn_cons_eq_if_modifyHead] at h
    split at h
    · rcases List.mem_cons.1 h with rfl | h
      · simp
      · exact ih h
    · next hc =>
      obtain ⟨first, parts, hs⟩ := List.exists_cons_of_ne_nil (List.splitOn_ne_nil '\n' cs)
      rw [hs, List.modifyHead_cons, List.mem_cons] at h
      rcases h with rfl | h
      · have hfirst : '\n' ∉ first := ih (by rw [hs]; exact List.mem_cons_self)
        have hne : '\n' ≠ c := fun e => hc (beq_iff_eq.2 e.symm)
        simp [hne, hfirst]
      · exact ih (by rw [hs]; exact List.mem_cons_of_mem _ h)

/-- No line has a line feed in it. -/
theorem not_mem_of_mem_lines {s line : String} (h : line ∈ lines s) : '\n' ∉ line.toList := by
  obtain ⟨part, hpart, rfl⟩ := List.mem_map.1 h
  rw [String.toList_ofList]
  exact not_mem_of_mem_splitOn (List.dropLast_subset _ hpart)

/-- Texts that are written line by line are read back exactly if none of them has a line feed in
it. -/
theorem lines_join_iff {texts : List String} :
    lines (String.join (texts.map (· ++ "\n"))) = texts ↔ ∀ text ∈ texts, '\n' ∉ text.toList := by
  constructor
  · intro h text ht
    rw [← h] at ht
    exact not_mem_of_mem_lines ht
  · intro h
    induction texts with
    | nil => rfl
    | cons text texts ih =>
      rw [List.map_cons, String.join_cons, lines_append (h text List.mem_cons_self),
        ih fun other hm => h other (List.mem_cons_of_mem _ hm)]

end LayeredConfig.Text

import LayeredConfig.Storage.Path
import Mathlib.Data.List.Basic

/-! Paths and their texts. A text gives a path whose names are clean, that is neither empty nor a
dot nor divided by a slash, and a path with clean names is read back from its text. So a path that
was read from a text and made absolute is handed over by its text without loss. -/

namespace LayeredConfig.Storage.Path

/-- Whether the names of a path are such as a text between slashes can be. -/
def IsClean (path : Path) : Prop :=
  ∀ name ∈ path.names, isName name.toList = true ∧ '/' ∉ name.toList

/-! ### Parts between slashes -/

theorem splitSlashes_slash (cs : List Char) :
    splitSlashes ('/' :: cs) = [] :: splitSlashes cs := rfl

theorem splitSlashes_ne_nil (cs : List Char) : splitSlashes cs ≠ [] := by
  fun_cases splitSlashes cs <;> simp

theorem splitSlashes_cons {c : Char} (h : c ≠ '/') {cs part : List Char} {parts : List (List Char)}
    (hs : splitSlashes cs = part :: parts) : splitSlashes (c :: cs) = (c :: part) :: parts := by
  rw [splitSlashes.eq_3 c cs h, hs]

theorem splitSlashes_of_not_mem {cs : List Char} (h : '/' ∉ cs) : splitSlashes cs = [cs] := by
  induction cs with
  | nil => rfl
  | cons c cs ih =>
    rw [List.mem_cons, not_or] at h
    exact splitSlashes_cons (Ne.symm h.1) (ih h.2)

theorem splitSlashes_append {cs : List Char} (h : '/' ∉ cs) (rest : List Char) :
    splitSlashes (cs ++ '/' :: rest) = cs :: splitSlashes rest := by
  induction cs with
  | nil => rfl
  | cons c cs ih =>
    rw [List.mem_cons, not_or] at h
    exact splitSlashes_cons (Ne.symm h.1) (ih h.2)

/-- Parts without slashes are found again when slashes are put between them. -/
theorem splitSlashes_intercalate {parts : List (List Char)} (hne : parts ≠ [])
    (h : ∀ part ∈ parts, '/' ∉ part) : splitSlashes (List.intercalate ['/'] parts) = parts := by
  induction parts with
  | nil => exact absurd rfl hne
  | cons part parts ih =>
    have hpart : '/' ∉ part := h part List.mem_cons_self
    by_cases hp : parts = []
    · subst hp
      rw [List.intercalate_singleton, splitSlashes_of_not_mem hpart]
    · have hrest := ih hp fun other hm => h other (List.mem_cons_of_mem _ hm)
      rw [List.intercalate_cons_of_ne_nil hp, List.append_assoc, List.singleton_append,
        splitSlashes_append hpart, hrest]

theorem not_mem_of_mem_splitSlashes {cs part : List Char} (h : part ∈ splitSlashes cs) :
    '/' ∉ part := by
  induction cs generalizing part with
  | nil => simp_all [splitSlashes]
  | cons c cs ih =>
    by_cases hc : c = '/'
    · subst hc
      rw [splitSlashes_slash, List.mem_cons] at h
      rcases h with rfl | h
      · simp
      · exact ih h
    · obtain ⟨first, rest, hs⟩ := List.exists_cons_of_ne_nil (splitSlashes_ne_nil cs)
      rw [splitSlashes_cons hc hs, List.mem_cons] at h
      rcases h with rfl | h
      · have hfirst : '/' ∉ first := ih (by rw [hs]; simp)
        simp [Ne.symm hc, hfirst]
      · exact ih (by rw [hs]; exact List.mem_cons_of_mem _ h)

/-- Characters other than the slash stand in the parts. -/
theorem exists_mem_splitSlashes {c : Char} (hc : c ≠ '/') {cs : List Char} :
    (∃ part ∈ splitSlashes cs, c ∈ part) ↔ c ∈ cs := by
  induction cs with
  | nil => simp [splitSlashes]
  | cons d cs ih =>
    by_cases hd : d = '/'
    · subst hd
      rw [splitSlashes_slash, List.mem_cons, ← ih]
      simp [hc]
    · obtain ⟨first, rest, hs⟩ := List.exists_cons_of_ne_nil (splitSlashes_ne_nil cs)
      rw [splitSlashes_cons hd hs, List.mem_cons, ← ih, hs]
      simp [or_assoc]

/-! ### Names -/

theorem isClean_ofText (s : String) : (ofText s).IsClean := by
  intro name hname
  obtain ⟨part, hpart, rfl⟩ := List.mem_map.1 hname
  obtain ⟨hmem, hn⟩ := List.mem_filter.1 hpart
  rw [String.toList_ofList]
  exact ⟨hn, not_mem_of_mem_splitSlashes hmem⟩

theorem isClean_absolute {path directory : Path} (hp : path.IsClean) (hd : directory.IsClean) :
    (path.absolute directory).IsClean := by
  unfold absolute
  split
  · intro name hname
    rcases List.mem_append.1 hname with h | h
    · exact hd name h
    · exact hp name h
  · exact hp

/-- A path that was made absolute in an anchored directory is the same in every directory. -/
theorem absolute_absolute {directory : Path} (h : directory.anchor ≠ .here) (path other : Path) :
    (path.absolute directory).absolute other = path.absolute directory := by
  by_cases hp : path.anchor = .here <;> simp [absolute, hp, h]

theorem filter_splitSlashes_intercalate {parts : List (List Char)}
    (h : ∀ part ∈ parts, isName part = true ∧ '/' ∉ part) :
    (splitSlashes (List.intercalate ['/'] parts)).filter isName = parts := by
  rcases eq_or_ne parts [] with rfl | hne
  · rfl
  · rw [splitSlashes_intercalate hne fun part hp => (h part hp).2]
    exact List.filter_eq_self.2 fun part hp => (h part hp).1

/-! ### Texts -/

theorem anchorOf_append (anchor : Anchor) {cs : List Char} (h : cs.head? ≠ some '/') :
    anchorOf (anchor.text.toList ++ cs) = anchor := by
  rcases cs with _ | ⟨c, cs⟩
  · cases anchor <;> rfl
  · have hc : c ≠ '/' := by simpa using h
    cases anchor <;> simp [Anchor.text, anchorOf, hc]

theorem splitSlashes_anchor_append (anchor : Anchor) (cs : List Char) :
    (splitSlashes (anchor.text.toList ++ cs)).filter isName = (splitSlashes cs).filter isName := by
  cases anchor <;> rfl

theorem head?_intercalate {parts : List (List Char)}
    (h : ∀ part ∈ parts, isName part = true ∧ '/' ∉ part) :
    (List.intercalate ['/'] parts).head? ≠ some '/' := by
  rcases parts with _ | ⟨part, parts⟩
  · simp
  · obtain ⟨hname, hslash⟩ := h part (by simp)
    obtain ⟨c, cs, rfl⟩ := List.exists_cons_of_ne_nil (l := part) (by rintro rfl; cases hname)
    have hc : c ≠ '/' := fun e => hslash (by simp [e])
    rcases parts with _ | ⟨next, rest⟩ <;> simp [hc]

theorem toList_text {path : Path} (h : ¬(path.anchor = .here ∧ path.names = [])) :
    path.text.toList =
      path.anchor.text.toList ++ List.intercalate ['/'] (path.names.map String.toList) := by
  rw [text, if_neg h, String.toList_append, String.toList_intercalate]
  rfl

/-- A path with clean names is read back from its text. -/
theorem ofText_text {path : Path} (h : path.IsClean) : ofText path.text = path := by
  by_cases hdot : path.anchor = .here ∧ path.names = []
  · obtain ⟨anchor, names⟩ := path
    obtain ⟨rfl, rfl⟩ := hdot
    decide
  · have hparts : ∀ part ∈ path.names.map String.toList, isName part = true ∧ '/' ∉ part := by
      intro part hpart
      obtain ⟨name, hname, rfl⟩ := List.mem_map.1 hpart
      exact h name hname
    rw [ofText, toList_text hdot, anchorOf_append _ (head?_intercalate hparts),
      splitSlashes_anchor_append, filter_splitSlashes_intercalate hparts, List.map_map]
    simp [Function.comp_def]

theorem mem_intercalate {c : Char} (hs : c ≠ '/') {parts : List (List Char)} :
    c ∈ List.intercalate ['/'] parts ↔ ∃ part ∈ parts, c ∈ part := by
  induction parts with
  | nil => simp
  | cons part parts ih =>
    by_cases hp : parts = []
    · subst hp
      simp
    · rw [List.intercalate_cons_of_ne_nil hp, List.append_assoc, List.mem_append,
        List.singleton_append, List.mem_cons, ih]
      simp [hs]

/-- The text of a path has the characters of its names, besides slashes and dots. -/
theorem mem_text_iff {c : Char} (hs : c ≠ '/') (hd : c ≠ '.') {path : Path} :
    c ∈ path.text.toList ↔ ∃ name ∈ path.names, c ∈ name.toList := by
  by_cases hdot : path.anchor = .here ∧ path.names = []
  · simp [text, hdot, hd]
  · have ha : c ∉ path.anchor.text.toList := by
      cases path.anchor <;> simp [Anchor.text, hs]
    rw [toList_text hdot, List.mem_append, mem_intercalate hs]
    simp [ha]

theorem mem_text_ofText_iff {c : Char} (hs : c ≠ '/') (hd : c ≠ '.') {s : String} :
    c ∈ (ofText s).text.toList ↔ c ∈ s.toList := by
  rw [mem_text_iff hs hd, ← exists_mem_splitSlashes hs]
  constructor
  · rintro ⟨name, hname, hc⟩
    obtain ⟨part, hpart, rfl⟩ := List.mem_map.1 hname
    exact ⟨part, (List.mem_filter.1 hpart).1, by simpa using hc⟩
  · rintro ⟨part, hpart, hc⟩
    have hn : isName part = true := by
      simp only [isName, Bool.and_eq_true, Bool.not_eq_true', List.isEmpty_eq_false_iff, bne_iff_ne]
      constructor <;> rintro rfl
      · simp at hc
      · exact hd (by simpa using hc)
    exact ⟨_, List.mem_map_of_mem (List.mem_filter.2 ⟨hpart, hn⟩), by simpa using hc⟩

theorem mem_text_absolute {c : Char} (hs : c ≠ '/') (hd : c ≠ '.') {path directory : Path}
    (h : c ∈ (path.absolute directory).text.toList) :
    c ∈ path.text.toList ∨ c ∈ directory.text.toList := by
  simp only [mem_text_iff hs hd] at h ⊢
  unfold absolute at h
  split at h
  · obtain ⟨name, hname, hc⟩ := h
    rcases List.mem_append.1 hname with hm | hm
    · exact .inr ⟨name, hm, hc⟩
    · exact .inl ⟨name, hm, hc⟩
  · exact .inl h

end LayeredConfig.Storage.Path

import LayeredConfig.Worker.Line
import Mathlib.Algebra.GroupWithZero.Nat
import Mathlib.Data.Bool.AllAny
import Mathlib.Data.List.Basic

/-! Arguments on the line of a process. A word of no quotation marks and no separators arrives as
it is, and between quotation marks a text that has none itself and does not end in a backslash. No
other text survives, since a quotation mark among the characters of an argument costs a backslash.
So it is known which arguments arrive as they were before they were escaped. -/

namespace LayeredConfig.Worker

/-- Whether a text is an argument as it stands. -/
def IsBare (text : String) : Prop :=
  text ≠ "" ∧ ∀ c ∈ text.toList, c ≠ '"' ∧ isSeparator c = false

/-- Whether a text is an argument between quotation marks. -/
def IsPlain (text : String) : Prop :=
  '"' ∉ text.toList ∧ text.toList.getLast? ≠ some '\\'

instance (text : String) : Decidable (IsBare text) :=
  decidable_of_iff (text ≠ "" ∧ text.toList.all fun c => c ≠ '"' ∧ isSeparator c = false)
    (and_congr_right' List.all_iff_forall_prop)

instance (text : String) : Decidable (IsPlain text) :=
  inferInstanceAs (Decidable (_ ∧ _))

/-- The text between quotation marks. -/
def quote (text : String) : String :=
  "\"" ++ text ++ "\""

/-! ### Reading -/

namespace Begun

theorem read_of_ne_quote (begun : Begun) {c : Char} (h : c ≠ '"') :
    (begun.read c).argument = begun.argument ++ [c] ∧ (begun.read c).quoted = begun.quoted ∧
      ((begun.read c).backslashes = 0 ↔ c ≠ '\\') := by
  by_cases hc : c = '\\'
  · subst hc
    simp [read, argument, List.replicate_succ']
  · simp [read, argument, h, hc]

theorem foldl_read (begun : Begun) {cs : List Char} (h : '"' ∉ cs) :
    (cs.foldl read begun).argument = begun.argument ++ cs ∧
      (cs.foldl read begun).quoted = begun.quoted := by
  induction cs generalizing begun with
  | nil => simp
  | cons c cs ih =>
    rw [List.mem_cons, not_or] at h
    obtain ⟨harg, hquoted, -⟩ := read_of_ne_quote begun (Ne.symm h.1)
    obtain ⟨ihArg, ihQuoted⟩ := ih (begun.read c) h.2
    refine ⟨?_, ihQuoted.trans hquoted⟩
    rw [List.foldl_cons, ihArg, harg, List.append_assoc, List.singleton_append]

theorem backslashes_foldl_read (begun : Begun) {cs : List Char} (h : '"' ∉ cs)
    (hb : begun.backslashes = 0) :
    (cs.foldl read begun).backslashes = 0 ↔ cs.getLast? ≠ some '\\' := by
  rcases List.eq_nil_or_concat' cs with rfl | ⟨cs, c, rfl⟩
  · simp [hb]
  · have hc : c ≠ '"' := by
      rintro rfl
      simp at h
    rw [List.foldl_append, List.foldl_cons, List.foldl_nil, (read_of_ne_quote _ hc).2.2]
    simp

theorem eq_of_backslashes {begun : Begun} (h : begun.backslashes = 0) :
    begun = ⟨begun.argument, 0, begun.quoted⟩ := by
  obtain ⟨text, backslashes, quoted⟩ := begun
  subst h
  simp [argument]

/-- A quotation mark that is not read as a character leaves the argument only if no backslash stands
before it. -/
theorem argument_read_quote_iff {begun : Begun} (h : '"' ∉ begun.argument) :
    (begun.read '"').argument = begun.argument ↔ begun.backslashes = 0 := by
  constructor
  · intro he
    by_cases heven : begun.backslashes % 2 = 0
    · have hlen := congrArg List.length he
      simp only [read, argument, heven] at hlen
      simp at hlen
      omega
    · refine absurd ?_ h
      rw [← he]
      simp [read, argument, heven]
  · intro hb
    simp [read, argument, hb]

theorem length_argument_read_le (begun : Begun) (c : Char) :
    (begun.read c).argument.length ≤ begun.argument.length + [c].countP (· ≠ '"') := by
  by_cases hc : c = '"'
  · subst hc
    by_cases heven : begun.backslashes % 2 = 0 <;> simp [read, argument, heven] <;> omega
  · rw [(read_of_ne_quote _ hc).1]
    simp [hc]

end Begun

/-! ### Division -/

theorem next_eq_none_iff {begun : Option Begun} {c : Char} :
    next begun c = none ↔ isSeparator c = true ∧ begun.any Begun.quoted = false := by
  simp [next]

theorem next_some_eq {begun : Begun} {c : Char} (h : begun.quoted = true ∨ isSeparator c = false) :
    next (some begun) c = some (begun.read c) := by
  rcases h with h | h <;> simp [next, h]

theorem argumentsFrom_cons_of_some {begun : Option Begun} {longer : Begun} {c : Char}
    (h : next begun c = some longer) (cs : List Char) :
    argumentsFrom begun (c :: cs) = argumentsFrom (some longer) cs := by
  rw [argumentsFrom, h]

theorem argumentsFrom_cons_of_none {begun : Option Begun} {c : Char} (h : next begun c = none)
    (cs : List Char) :
    argumentsFrom begun (c :: cs) = argumentsFrom begun [] ++ argumentsFrom none cs := by
  rw [argumentsFrom.eq_2, h, argumentsFrom]

/-- Characters that do not end an argument are read on. -/
theorem argumentsFrom_append {begun : Begun} {cs : List Char} (h : '"' ∉ cs)
    (hs : begun.quoted = true ∨ ∀ c ∈ cs, isSeparator c = false) (rest : List Char) :
    argumentsFrom (some begun) (cs ++ rest) =
      argumentsFrom (some (cs.foldl Begun.read begun)) rest := by
  induction cs generalizing begun with
  | nil => rfl
  | cons c cs ih =>
    rw [List.mem_cons, not_or] at h
    have hquoted := (Begun.read_of_ne_quote begun (Ne.symm h.1)).2.1
    rw [List.cons_append, argumentsFrom_cons_of_some
      (next_some_eq (hs.imp_right fun hall => hall c List.mem_cons_self)), List.foldl_cons]
    refine ih h.2 ?_
    rw [hquoted]
    exact hs.imp_right fun hall d hd => hall d (List.mem_cons_of_mem _ hd)

/-- Where a separator ends what came before, the rest is divided by itself. -/
theorem argumentsFrom_append_separator {begun : Option Begun} {cs : List Char} {c : Char}
    (h : (cs.foldl next begun).any Begun.quoted = false) (hc : isSeparator c = true)
    (rest : List Char) :
    argumentsFrom begun (cs ++ c :: rest) = argumentsFrom begun cs ++ argumentsFrom none rest := by
  induction cs generalizing begun with
  | nil => exact argumentsFrom_cons_of_none (next_eq_none_iff.2 ⟨hc, h⟩) rest
  | cons d cs ih =>
    rw [List.foldl_cons] at h
    cases hd : next begun d with
    | none =>
      rw [hd] at h
      rw [List.cons_append, argumentsFrom_cons_of_none hd, argumentsFrom_cons_of_none hd, ih h,
        List.append_assoc]
    | some longer =>
      rw [hd] at h
      rw [List.cons_append, argumentsFrom_cons_of_some hd, argumentsFrom_cons_of_some hd, ih h]

/-- Without a quotation mark nothing is quoted. -/
theorem quoted_foldl_next {begun : Option Begun} {cs : List Char} (h : '"' ∉ cs)
    (hb : begun.any Begun.quoted = false) : (cs.foldl next begun).any Begun.quoted = false := by
  induction cs generalizing begun with
  | nil => exact hb
  | cons c cs ih =>
    rw [List.mem_cons, not_or] at h
    refine ih h.2 ?_
    unfold next
    split
    · rfl
    · rw [Option.any_some, (Begun.read_of_ne_quote _ (Ne.symm h.1)).2.1]
      cases begun <;> simp_all

theorem length_le_of_next {begun : Option Begun} {longer : Begun} {c : Char}
    (h : next begun c = some longer) :
    longer.argument.length ≤
      (begun.elim 0 fun begun => begun.argument.length) + [c].countP (· ≠ '"') := by
  unfold next at h
  split at h
  · cases h
  · cases h
    cases begun with
    | none => exact Begun.length_argument_read_le _ c
    | some begun => exact Begun.length_argument_read_le begun c

/-- The arguments have no more characters than the text has besides quotation marks: such a mark is
one of their characters only at the cost of a backslash. -/
theorem length_argumentsFrom_le (begun : Option Begun) (cs : List Char) :
    ((argumentsFrom begun cs).map List.length).sum ≤
      (begun.elim 0 fun begun => begun.argument.length) + cs.countP (· ≠ '"') := by
  induction cs generalizing begun with
  | nil => cases begun <;> simp [argumentsFrom]
  | cons c cs ih =>
    rw [← List.singleton_append, List.countP_append]
    cases hc : next begun c with
    | none =>
      have hended : ((argumentsFrom begun []).map List.length).sum =
          begun.elim 0 fun begun => begun.argument.length := by
        cases begun <;> simp [argumentsFrom]
      have hrest := ih none
      rw [List.singleton_append, argumentsFrom_cons_of_none hc, List.map_append, List.sum_append,
        hended]
      simp only [Option.elim_none] at hrest
      omega
    | some longer =>
      have hlonger := length_le_of_next hc
      have hrest := ih (some longer)
      rw [List.singleton_append, argumentsFrom_cons_of_some hc]
      simp only [Option.elim_some] at hrest
      omega

/-! ### Words by themselves -/

section Words

variable {cs : List Char}

theorem argumentsFrom_quote (h : '"' ∉ cs) (rest : List Char) :
    argumentsFrom none ('"' :: cs ++ '"' :: rest) =
      argumentsFrom (some ((cs.foldl Begun.read ⟨[], 0, true⟩).read '"')) rest := by
  have hopen : next none '"' = some ⟨[], 0, true⟩ := rfl
  have hclose : isSeparator '"' = false := rfl
  rw [List.cons_append, argumentsFrom_cons_of_some hopen, argumentsFrom_append h (.inl rfl),
    argumentsFrom_cons_of_some (next_some_eq (.inr hclose))]

theorem argumentsFrom_of_isPlain (h : '"' ∉ cs) (hlast : cs.getLast? ≠ some '\\')
    (rest : List Char) :
    argumentsFrom none ('"' :: cs ++ '"' :: rest) = argumentsFrom (some ⟨cs, 0, false⟩) rest := by
  obtain ⟨harg, hquoted⟩ := Begun.foldl_read ⟨[], 0, true⟩ h
  have hb := Begun.eq_of_backslashes
    ((Begun.backslashes_foldl_read ⟨[], 0, true⟩ h rfl).2 hlast)
  rw [argumentsFrom_quote h, hb, harg, hquoted]
  simp [Begun.read, Begun.argument]

theorem argumentsFrom_of_isBare (hne : cs ≠ []) (h : ∀ c ∈ cs, c ≠ '"' ∧ isSeparator c = false) :
    ∃ begun : Begun, begun.argument = cs ∧ begun.quoted = false ∧
      ∀ rest, argumentsFrom none (cs ++ rest) = argumentsFrom (some begun) rest := by
  obtain ⟨c, cs, rfl⟩ := List.exists_cons_of_ne_nil hne
  rw [List.forall_mem_cons] at h
  have hquote : '"' ∉ cs := fun hm => (h.2 _ hm).1 rfl
  have hfirst : next none c = some (Begun.read ⟨[], 0, false⟩ c) := by
    simp [next, h.1.2]
  obtain ⟨hread, hreadQuoted, -⟩ := Begun.read_of_ne_quote ⟨[], 0, false⟩ h.1.1
  obtain ⟨harg, hquoted⟩ := Begun.foldl_read (Begun.read ⟨[], 0, false⟩ c) hquote
  refine ⟨_, ?_, hquoted.trans hreadQuoted, fun rest => ?_⟩
  · rw [harg, hread]
    rfl
  · rw [List.cons_append, argumentsFrom_cons_of_some hfirst,
      argumentsFrom_append hquote (.inr fun d hd => (h.2 d hd).2)]

/-- A text of the same characters, quotation marks apart, is divided into this one argument only if
the argument has no quotation mark. -/
theorem not_mem_of_argumentsFrom {word : List Char}
    (hword : word.countP (· ≠ '"') = cs.countP (· ≠ '"')) (h : argumentsFrom none word = [cs]) :
    '"' ∉ cs := by
  intro hm
  have hlen := length_argumentsFrom_le none word
  have hsplit := List.length_eq_countP_add_countP (· ≠ '"') (l := cs)
  have hmark : 0 < cs.countP (fun c => ¬decide (c ≠ '"') = true) :=
    List.countP_pos_iff.2 ⟨_, hm, by simp⟩
  rw [h, hword] at hlen
  simp only [List.map_cons, List.map_nil, List.sum_cons, List.sum_nil, Option.elim_none] at hlen
  omega

theorem argumentsFrom_quote_eq_iff :
    argumentsFrom none ('"' :: cs ++ ['"']) = [cs] ↔ '"' ∉ cs ∧ cs.getLast? ≠ some '\\' := by
  constructor
  · intro h
    have hquote : '"' ∉ cs := not_mem_of_argumentsFrom (by simp) h
    obtain ⟨harg, -⟩ := Begun.foldl_read ⟨[], 0, true⟩ hquote
    refine ⟨hquote, (Begun.backslashes_foldl_read ⟨[], 0, true⟩ hquote rfl).1 ?_⟩
    rw [argumentsFrom_quote hquote, argumentsFrom] at h
    refine (Begun.argument_read_quote_iff ?_).1 ?_
    · rw [harg]
      exact hquote
    · rw [harg]
      exact List.singleton_inj.1 h
  · rintro ⟨hquote, hlast⟩
    rw [argumentsFrom_of_isPlain hquote hlast, argumentsFrom]
    simp [Begun.argument]

theorem argumentsFrom_self_eq_iff :
    argumentsFrom none cs = [cs] ↔ cs ≠ [] ∧ ∀ c ∈ cs, c ≠ '"' ∧ isSeparator c = false := by
  constructor
  · intro h
    have hquote : '"' ∉ cs := not_mem_of_argumentsFrom rfl h
    refine ⟨?_, fun c hc => ⟨fun e => hquote (e ▸ hc), ?_⟩⟩
    · rintro rfl
      cases h
    · by_contra hsep
      -- A separator that is not quoted is in none of the arguments.
      obtain ⟨before, after, rfl⟩ := List.append_of_mem hc
      rw [List.mem_append, not_or] at hquote
      have hlen := congrArg (fun parts => (parts.map List.length).sum) h
      rw [argumentsFrom_append_separator (quoted_foldl_next hquote.1 rfl)
        (by simpa using hsep)] at hlen
      have hbefore := length_argumentsFrom_le none before
      have hafter := length_argumentsFrom_le none after
      have hcountBefore := List.countP_le_length (p := (· ≠ '"')) (l := before)
      have hcountAfter := List.countP_le_length (p := (· ≠ '"')) (l := after)
      simp only [List.map_append, List.sum_append, List.map_cons, List.map_nil, List.sum_cons,
        List.sum_nil, List.length_append, List.length_cons] at hlen
      simp only [Option.elim_none] at hbefore hafter
      omega
  · rintro ⟨hne, hall⟩
    obtain ⟨begun, harg, -, hread⟩ := argumentsFrom_of_isBare hne hall
    have hend := hread []
    rw [List.append_nil, argumentsFrom, Option.map_some, harg] at hend
    exact hend

end Words

/-! ### Words on a line -/

theorem line_cons {word : String} {words : List String} (h : words ≠ []) :
    line (word :: words) = word ++ " " ++ line words := by
  rw [← String.toList_inj, line, line, String.toList_append, String.toList_append,
    String.toList_intercalate, String.toList_intercalate, List.map_cons,
    List.intercalate_cons_of_ne_nil (by simpa using h)]

theorem line_append {before after : List String} (hb : before ≠ []) (ha : after ≠ []) :
    line (before ++ after) = line before ++ " " ++ line after := by
  induction before with
  | nil => exact absurd rfl hb
  | cons word before ih =>
    by_cases h : before = []
    · subst h
      rw [List.singleton_append, line_cons ha]
      rfl
    · rw [List.cons_append, line_cons (by simp [h]), ih h, line_cons h]
      simp only [String.append_assoc]

theorem splitLine_append {before : String} (h : IsClosed before) (after : String) :
    splitLine (before ++ " " ++ after) = splitLine before ++ splitLine after := by
  have hsep : isSeparator ' ' = true := rfl
  rw [splitLine, String.toList_append, String.toList_append, List.append_assoc]
  have hspace : " ".toList ++ after.toList = ' ' :: after.toList := rfl
  rw [hspace, argumentsFrom_append_separator h hsep, List.map_append]
  rfl

theorem splitLine_line_append {before : List String} (h : IsClosed (line before))
    (after : List String) :
    splitLine (line (before ++ after)) = splitLine (line before) ++ splitLine (line after) := by
  by_cases hb : before = []
  · subst hb
    rfl
  · by_cases ha : after = []
    · subst ha
      have hnone : splitLine (line []) = [] := rfl
      rw [List.append_nil, hnone, List.append_nil]
    · rw [line_append hb ha, splitLine_append h]

/-- A word whose end is not quoted arrives as the argument that it is read as. -/
theorem arrivesAs_of_argumentsFrom {word : String} {begun : Begun} (hb : begun.quoted = false)
    (h : ∀ rest, argumentsFrom none (word.toList ++ rest) = argumentsFrom (some begun) rest) :
    ArrivesAs word (String.ofList begun.argument) := by
  intro before after hbefore
  rw [splitLine_line_append hbefore]
  refine congrArg _ ?_
  by_cases ha : after = []
  · subst ha
    have hend := h []
    rw [List.append_nil] at hend
    have hline : line [word] = word := rfl
    rw [hline, splitLine, hend]
    rfl
  · have hsep : next (some begun) ' ' = none := next_eq_none_iff.2 ⟨rfl, hb⟩
    have hspace : (word ++ " " ++ line after).toList =
        word.toList ++ ' ' :: (line after).toList := by
      simp
    rw [line_cons ha, splitLine, hspace, h, argumentsFrom_cons_of_none hsep]
    rfl

theorem ArrivesAs.splitLine_eq {word value : String} (h : ArrivesAs word value) :
    splitLine word = [value] :=
  h [] [] rfl

/-- A word is divided into one argument if it is so by its characters. -/
theorem splitLine_eq_singleton_iff {word value : String} :
    splitLine word = [value] ↔ argumentsFrom none word.toList = [value.toList] := by
  rw [splitLine, List.map_eq_singleton_iff]
  constructor
  · rintro ⟨cs, hcs, rfl⟩
    rw [hcs, String.toList_ofList]
  · intro h
    exact ⟨_, h, String.ofList_toList⟩

theorem toList_quote (text : String) : (quote text).toList = '"' :: text.toList ++ ['"'] := by
  simp [quote]

theorem splitLine_self_iff {text : String} : splitLine text = [text] ↔ IsBare text := by
  rw [splitLine_eq_singleton_iff, argumentsFrom_self_eq_iff, IsBare, ne_eq, ne_eq,
    String.toList_eq_nil_iff]

theorem splitLine_quote_iff {text : String} : splitLine (quote text) = [text] ↔ IsPlain text := by
  rw [splitLine_eq_singleton_iff, toList_quote, argumentsFrom_quote_eq_iff, IsPlain]

theorem arrivesAs_self_iff {text : String} : ArrivesAs text text ↔ IsBare text := by
  refine ⟨fun h => splitLine_self_iff.1 h.splitLine_eq, fun h => ?_⟩
  obtain ⟨begun, harg, hb, hread⟩ := argumentsFrom_of_isBare
    (by simpa [String.toList_eq_nil_iff] using h.1) h.2
  have harrives := arrivesAs_of_argumentsFrom hb hread
  rwa [harg, String.ofList_toList] at harrives

theorem arrivesAs_quote_iff {text : String} : ArrivesAs (quote text) text ↔ IsPlain text := by
  refine ⟨fun h => splitLine_quote_iff.1 h.splitLine_eq, fun h => ?_⟩
  have harrives : ArrivesAs (quote text)
      (String.ofList (Begun.argument ⟨text.toList, 0, false⟩)) := by
    refine arrivesAs_of_argumentsFrom rfl fun rest => ?_
    rw [toList_quote, List.append_assoc, List.singleton_append]
    exact argumentsFrom_of_isPlain h.1 h.2 rest
  simpa [Begun.argument] using harrives

/-! ### Escaping -/

theorem isQuoted_quote (text : String) : isQuoted (quote text).toList = true := by
  have hlast : ('"' :: (text.toList ++ ['"'])).getLast? = some '"' := by
    rw [← List.cons_append, List.getLast?_concat]
  rw [toList_quote, isQuoted, List.cons_append, hlast]
  rfl

theorem mem_of_isQuoted {cs : List Char} (h : isQuoted cs = true) : '"' ∈ cs := by
  rw [isQuoted, Bool.and_eq_true, beq_iff_eq] at h
  exact List.mem_of_head? h.1

/-- What holds of a word only if it is an argument as it stands, and between quotation marks only if
it is one there, holds of the escaped word if one of the two is needed and given. -/
theorem escapeArgument_iff {text : String} (holds : String → Prop)
    (hself : holds text ↔ IsBare text) (hquote : holds (quote text) ↔ IsPlain text) :
    holds (escapeArgument true text) ↔ IsBare text ∨ ' ' ∈ text.toList ∧ IsPlain text := by
  by_cases hspace : ' ' ∈ text.toList
  · have hbare : ¬IsBare text := fun h => by simpa [isSeparator] using h.2 _ hspace
    by_cases hmarks : isQuoted text.toList = true
    · have hplain : ¬IsPlain text := fun h => h.1 (mem_of_isQuoted hmarks)
      have hescape : escapeArgument true text = text := by simp [escapeArgument, hmarks]
      rw [hescape, hself]
      simp [hplain]
    · have hescape : escapeArgument true text = quote text := by
        simp [escapeArgument, hspace, hmarks, quote]
      rw [hescape, hquote]
      simp [hbare, hspace]
  · have hescape : escapeArgument true text = text := by simp [escapeArgument, hspace]
    rw [hescape, hself]
    simp [hspace]

/-- An escaped argument arrives unchanged exactly if it is an argument as it stands, or has a space
and neither a quotation mark nor a backslash at its end. An argument that came between quotation
marks arrives without them exactly if there are no more of them and no backslash stands before the
last. A worker gets the path of its file exactly if the text of the path is of the first kind. -/
theorem arrivesAs_escapeArgument (argument : String) :
    (ArrivesAs (escapeArgument true argument) argument ↔
      IsBare argument ∨ ' ' ∈ argument.toList ∧ IsPlain argument) ∧
    (∀ inner, argument = quote inner →
      (ArrivesAs (escapeArgument true argument) inner ↔ IsPlain inner)) ∧
    ∀ (directory path : Storage.Path) (config : Config),
      config.settings.configPath = some path → (path.absolute directory).text = argument →
      ∀ (program : List String) (port : Int) (id : String),
        let before := program ++ ["-p", Number.render port, "-i", id, "-c"]
        IsClosed (line before) →
          (splitLine (line (program ++ arguments true directory config port id)) =
            splitLine (line before) ++ [argument] ↔
              IsBare argument ∨ ' ' ∈ argument.toList ∧ IsPlain argument) := by
  refine ⟨?_, ?_, ?_⟩
  · exact escapeArgument_iff (ArrivesAs · argument) arrivesAs_self_iff arrivesAs_quote_iff
  · rintro inner rfl
    have hescape : escapeArgument true (quote inner) = quote inner := by
      simp [escapeArgument, isQuoted_quote]
    rw [hescape, arrivesAs_quote_iff]
  · intro directory path config hpath htext program port id before hbefore
    have hwords : program ++ arguments true directory config port id =
        before ++ [escapeArgument true argument] := by
      simp [arguments, hpath, htext, before]
    rw [hwords, splitLine_line_append hbefore, List.append_cancel_left_eq]
    exact escapeArgument_iff (splitLine · = [argument]) splitLine_self_iff splitLine_quote_iff

theorem arrivesAs_escapeArgument_of_spaced :
    let path : Storage.Path := ⟨.root, ["my dir", "c.xml"]⟩
    let config : Config := ⟨{ Settings.defaults "w" with configPath := some path }⟩
    ArrivesAs (escapeArgument true "/my dir/c.xml") "/my dir/c.xml" ∧
      ArrivesAs (escapeArgument true "\"/my dir/c.xml\"") "/my dir/c.xml" ∧
      splitLine (line (["worker"] ++ arguments true ⟨.root, ["work"]⟩ config 9998 "w")) =
        splitLine (line ["worker", "-p", Number.render 9998, "-i", "w", "-c"]) ++
          ["/my dir/c.xml"] := by
  intro path config
  have hspaced : ' ' ∈ "/my dir/c.xml".toList ∧ IsPlain "/my dir/c.xml" := by decide
  have hquoted : "\"/my dir/c.xml\"" = quote "/my dir/c.xml" := by decide
  have hclosed : IsClosed (line ["worker", "-p", Number.render 9998, "-i", "w", "-c"]) := by
    decide +kernel
  have htext : (path.absolute ⟨.root, ["work"]⟩).text = "/my dir/c.xml" := by decide +kernel
  obtain ⟨harrives, -, hworker⟩ := arrivesAs_escapeArgument "/my dir/c.xml"
  exact ⟨harrives.2 (.inr hspaced), ((arrivesAs_escapeArgument _).2.1 _ hquoted).2 hspaced.2,
    (hworker _ path config rfl htext ["worker"] 9998 "w" hclosed).2 (.inr hspaced)⟩

/-- A backslash at the end of an argument with a space takes the closing quotation mark for itself,
so that the argument arrives neither as it was nor as one. -/
theorem not_arrivesAs_escapeArgument_of_trailing_backslash :
    ¬∃ value, (value = "C:\\my dir\\" ∨ "C:\\my dir\\" = quote value) ∧
      ArrivesAs (escapeArgument true "C:\\my dir\\") value := by
  rintro ⟨value, hvalue, harrives⟩
  have hsplit : splitLine (escapeArgument true "C:\\my dir\\") = ["C:\\my dir\""] := by decide
  have heq : value = "C:\\my dir\"" := by
    simpa [hsplit] using harrives.splitLine_eq.symm
  subst heq
  revert hvalue
  decide

end LayeredConfig.Worker

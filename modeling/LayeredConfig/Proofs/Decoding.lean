import LayeredConfig.Text.JsonGrammar
import LayeredConfig.Proofs.Numeral
import Mathlib.Data.Bool.AllAny

/-! A JSON text says one thing only. A decoder, which takes what it reads for a text of the grammar
and every piece of it for as long as it can be, finds what the text says; and so it does with each
phrase, whatever follows that cannot belong to the phrase. -/

namespace LayeredConfig.Text.Datum

/-! ### The decoder -/

def skip (cs : List Char) : List Char :=
  cs.dropWhile isSpace

/-- Whether a character ends a number or a name. -/
def isStop (c : Char) : Bool :=
  isSpace c || [',', ':', '"', '[', ']', '\x7b', '\x7d'].contains c

def readChar : List Char → Option (Char × List Char)
  | [] => none
  | c :: cs =>
    if c ≠ '\\' then some (c, cs)
    else match cs with
      | 'u' :: a :: b :: c :: d :: cs => do
        let high ← codeUnit? a b c d
        if high < 0xd800 ∨ 0xe000 ≤ high then some (Char.ofNat high, cs)
        else match cs with
          | _ :: _ :: a :: b :: c :: d :: cs => do
            let low ← codeUnit? a b c d
            some (Char.ofNat (pairValue high low), cs)
          | _ => none
      | e :: cs => (escapes.lookup e).map fun c => (c, cs)
      | [] => none

def readString : Nat → List Char → Option (List Char × List Char)
  | 0, _ => none
  | fuel + 1, cs =>
    if cs.head? = some '"' then some ([], cs.tail)
    else do
      let (c, rest) ← readChar cs
      let (content, rest) ← readString fuel rest
      some (c :: content, rest)

/-- Reads parts with commas between them, up to the closing mark. -/
def readParts {α : Type} (read : List Char → Option (α × List Char)) (closing : Char) :
    Nat → List Char → Option (List α × List Char)
  | 0, _ => none
  | fuel + 1, cs => do
    let (part, rest) ← read cs
    if rest.head? = some closing then some ([part], rest.tail)
    else do
      let (parts, rest) ← readParts read closing fuel rest.tail
      some (part :: parts, rest)

def readEnclosed {α : Type} (read : List Char → Option (α × List Char)) (closing : Char)
    (fuel : Nat) (cs : List Char) : Option (List α × List Char) :=
  (readParts read closing fuel cs).or
    (if (skip cs).head? = some closing then some ([], (skip cs).tail) else none)

def readMember (read : List Char → Option (Datum × List Char)) (cs : List Char) :
    Option ((String × Datum) × List Char) :=
  match read cs with
  | some (.string name, rest) => (read rest.tail).map fun (datum, rest) => ((name, datum), rest)
  | _ => none

def token? (token : List Char) : Option Datum :=
  if token = "null".toList then some .null
  else if token = "true".toList then some (.boolean true)
  else if token = "false".toList then some (.boolean false)
  else (number? token).map .number

def readToken (cs : List Char) : Option (Datum × List Char) :=
  (token? (cs.takeWhile (!isStop ·))).map fun datum => (datum, cs.dropWhile (!isStop ·))

def readElement : Nat → List Char → Option (Datum × List Char)
  | 0, _ => none
  | fuel + 1, cs => do
    let (datum, rest) ← match skip cs with
      | '"' :: cs =>
        (readString fuel cs).map fun (content, rest) => (.string (String.ofList content), rest)
      | '[' :: cs =>
        (readEnclosed (readElement fuel) ']' fuel cs).map fun (items, rest) => (.array items, rest)
      | '\x7b' :: cs =>
        (readEnclosed (readMember (readElement fuel)) '\x7d' fuel cs).map
          fun (members, rest) => (.object members, rest)
      | cs => readToken cs
    some (datum, skip rest)

def decode? (text : String) : Option Datum :=
  match readElement (text.toList.length + 1) text.toList with
  | some (datum, []) => some datum
  | _ => none

/-! ### Space and marks -/

/-- Whether nothing follows that can belong to a number or a name. -/
def IsEnd (rest : List Char) : Prop :=
  ∀ c ∈ rest.head?, isStop c = true

theorem skip_append {space : List Char} (h : space.all isSpace = true) (cs : List Char) :
    skip (space ++ cs) = skip cs :=
  List.dropWhile_append_of_pos (List.all_eq_true.1 h)

theorem skip_cons {c : Char} (h : isSpace c = false) (cs : List Char) :
    skip (c :: cs) = c :: cs := by
  simp [skip, h]

theorem isEnd_cons {c : Char} (h : isStop c = true) (rest : List Char) : IsEnd (c :: rest) := by
  simpa [IsEnd] using h

theorem isEnd_append {space : List Char} (h : space.all isSpace = true) {rest : List Char}
    (hrest : IsEnd rest) : IsEnd (space ++ rest) := by
  cases space with
  | nil => exact hrest
  | cons c space =>
    have hc : isSpace c = true := List.all_eq_true.1 h c List.mem_cons_self
    exact isEnd_cons (by simp [isStop, hc]) _

theorem isSpace_of_isStop {c : Char} (h : isStop c = false) : isSpace c = false := by
  rw [isStop, Bool.or_eq_false_iff] at h
  exact h.1

theorem isStop_of_isDigit {c : Char} (h : Number.isDigit c = true) : isStop c = false := by
  have hall : ∀ d ∈ [' ', '\t', '\n', '\r', ',', ':', '"', '[', ']', '\x7b', '\x7d'],
      Number.isDigit d = false := List.all_iff_forall_prop.1 (by decide)
  by_contra hc
  refine absurd h (Bool.eq_false_iff.1 (hall c ?_))
  simpa only [isStop, isSpace, Bool.not_eq_false, Bool.or_eq_true, beq_iff_eq,
    List.contains_iff_mem, List.mem_cons, List.not_mem_nil, or_false, or_assoc] using hc

/-! ### Strings -/

theorem toNat_lt_or_le (c : Char) : c.toNat < 0xd800 ∨ 0xe000 ≤ c.toNat := by
  have hvalid : c.toNat.isValidChar := c.valid
  simp only [Nat.isValidChar] at hvalid
  omega

theorem Spells.readChar_append {c : Char} {text : List Char} (h : Spells c text)
    (rest : List Char) : readChar (text ++ rest) = some (c, rest) := by
  cases h with
  | plain _ hb _ => simp [readChar, hb]
  | @escaped e he =>
    have hu : e ≠ 'u' := by
      rintro rfl
      cases he
    simp [readChar, hu, he]
  | codeUnit hn => simp [readChar, hn, toNat_lt_or_le]
  | surrogates hhigh hfirst hlast hlow _ _ hc =>
    have hbelow := Nat.not_lt.2 hfirst
    have habove := Nat.not_le.2 (hlast.trans (by decide : 0xdc00 < 0xe000))
    simp [readChar, hhigh, hlow, hbelow, habove, ← hc]

theorem Spells.head?_ne {c : Char} {text : List Char} (h : Spells c text) (rest : List Char) :
    (text ++ rest).head? ≠ some '"' ∧ 0 < text.length := by
  cases h with
  | plain hq _ _ => simp [hq]
  | escaped _ => simp
  | codeUnit _ => simp
  | surrogates _ _ _ _ _ _ _ => simp

theorem readString_flatten {spelled : List (Char × List Char)}
    (h : ∀ entry ∈ spelled, Spells entry.1 entry.2) {fuel : Nat}
    (hfuel : (spelled.map Prod.snd).flatten.length < fuel) (rest : List Char) :
    readString fuel ((spelled.map Prod.snd).flatten ++ '"' :: rest) =
      some (spelled.map Prod.fst, rest) := by
  induction spelled generalizing fuel with
  | nil =>
    obtain ⟨fuel, rfl⟩ := Nat.exists_eq_succ_of_ne_zero (Nat.ne_of_gt (Nat.zero_lt_of_lt hfuel))
    rfl
  | cons entry spelled ih =>
    rw [List.forall_mem_cons] at h
    obtain ⟨fuel, rfl⟩ := Nat.exists_eq_succ_of_ne_zero (Nat.ne_of_gt (Nat.zero_lt_of_lt hfuel))
    rw [List.map_cons, List.flatten_cons, List.length_append] at hfuel
    obtain ⟨hhead, hlen⟩ := h.1.head?_ne ((spelled.map Prod.snd).flatten ++ '"' :: rest)
    rw [List.map_cons, List.flatten_cons, List.append_assoc, readString, if_neg hhead,
      h.1.readChar_append]
    simp only [Option.bind_eq_bind, Option.bind_some]
    rw [ih h.2 (by omega)]
    rfl

/-! ### Numbers and names -/

theorem decimals?_eq_some {fraction decimals : List Char} (h : decimals? fraction = some decimals) :
    fraction.tail = decimals ∧ ∀ c ∈ decimals, Number.isDigit c = true := by
  cases fraction with
  | nil =>
    cases h
    simp
  | cons c digits =>
    simp only [decimals?] at h
    split at h
    · cases h
    · next hd =>
      cases h
      simp only [Bool.or_eq_true, not_or, Bool.not_eq_true, Bool.not_eq_false',
        List.all_eq_true] at hd
      exact ⟨rfl, hd.2⟩

theorem exponent?_eq_some {power : List Char} {exponent : Int}
    (h : exponent? power = some exponent) :
    ∃ sign digits, power.tail = sign ++ digits ∧ (sign = [] ∨ sign = ['+'] ∨ sign = ['-']) ∧
      ∀ c ∈ digits, Number.isDigit c = true := by
  cases power with
  | nil => exact ⟨[], [], by simp⟩
  | cons c power =>
    obtain ⟨sign, hpower, hsign⟩ := Number.exists_sign power
    simp only [exponent?] at h
    split at h
    · cases h
    · next hd =>
      simp only [Bool.or_eq_true, not_or, Bool.not_eq_true, Bool.not_eq_false',
        List.all_eq_true] at hd
      exact ⟨sign, _, hpower, hsign, hd.2⟩

/-- Only what follows the mark is told of a part that begins where a mark is looked for. -/
theorem eq_or_mem_tail_of_mem_dropWhile {p : Char → Bool} {cs : List Char} {c : Char}
    (h : c ∈ cs.dropWhile p) : p c = false ∨ c ∈ (cs.dropWhile p).tail := by
  have hhead := List.head?_dropWhile_not p cs
  cases hd : cs.dropWhile p with
  | nil => simp [hd] at h
  | cons d ds =>
    simp only [hd, List.head?_cons] at hhead
    rw [hd, List.mem_cons] at h
    rcases h with rfl | h
    · exact .inl (by simpa using hhead)
    · exact .inr h

theorem isStop_of_unsignedNumber? {negative : Bool} {text : List Char} {value : ℚ}
    (h : unsignedNumber? negative text = some value) :
    text ≠ [] ∧ ∀ c ∈ text, isStop c = false := by
  unfold unsignedNumber? at h
  extract_lets mantissa whole at h
  split at h
  · next hwhole =>
    obtain ⟨decimals, hdecimals, h⟩ := Option.bind_eq_some_iff.1 h
    obtain ⟨exponent, hexponent, -⟩ := Option.bind_eq_some_iff.1 h
    obtain ⟨htail, hfraction⟩ := decimals?_eq_some hdecimals
    obtain ⟨sign, digits, hpower, hsign, hdigits⟩ := exponent?_eq_some hexponent
    simp only [isWhole, Bool.and_eq_true, Bool.not_eq_true', List.isEmpty_eq_false_iff,
      List.all_eq_true] at hwhole
    refine ⟨?_, fun c hc => ?_⟩
    · rintro rfl
      exact hwhole.1.1 rfl
    · rw [← List.takeWhile_append_dropWhile (p := isMantissa) (l := text), List.mem_append] at hc
      rcases hc with hc | hc
      · rw [← List.takeWhile_append_dropWhile (p := (· != '.')) (l := text.takeWhile isMantissa),
          List.mem_append] at hc
        rcases hc with hc | hc
        · exact isStop_of_isDigit (hwhole.1.2 c hc)
        · rcases eq_or_mem_tail_of_mem_dropWhile hc with hpoint | hc
          · obtain rfl : c = '.' := by simpa using hpoint
            decide
          · rw [htail] at hc
            exact isStop_of_isDigit (hfraction c hc)
      · rcases eq_or_mem_tail_of_mem_dropWhile hc with hletter | hc
        · have hc : c = 'e' ∨ c = 'E' := by
            simpa [isMantissa, or_iff_not_imp_left] using hletter
          rcases hc with rfl | rfl <;> decide
        · rw [hpower, List.mem_append] at hc
          rcases hc with hc | hc
          · rcases hsign with rfl | rfl | rfl <;> simp at hc <;> subst hc <;> decide
          · exact isStop_of_isDigit (hdigits c hc)
  · cases h

theorem isStop_of_number? {text : List Char} {value : ℚ} (h : number? text = some value) :
    text ≠ [] ∧ ∀ c ∈ text, isStop c = false := by
  unfold number? at h
  split at h
  · obtain ⟨-, hstop⟩ := isStop_of_unsignedNumber? h
    exact ⟨List.cons_ne_nil _ _, List.forall_mem_cons.2 ⟨by decide, hstop⟩⟩
  · exact isStop_of_unsignedNumber? h

theorem token?_of_number? {text : List Char} {value : ℚ} (h : number? text = some value) :
    token? text = some (.number value) := by
  have hnull : text ≠ "null".toList := by
    rintro rfl
    cases h
  have htrue : text ≠ "true".toList := by
    rintro rfl
    cases h
  have hfalse : text ≠ "false".toList := by
    rintro rfl
    cases h
  rw [token?, if_neg hnull, if_neg htrue, if_neg hfalse, h]
  rfl

/-- A number or a name is read up to where it ends. -/
theorem readToken_append {token rest : List Char} {datum : Datum} (h : token? token = some datum)
    (hstop : ∀ c ∈ token, isStop c = false) (hrest : IsEnd rest) :
    readToken (token ++ rest) = some (datum, rest) := by
  have hgo : ∀ c ∈ token, (!isStop c) = true := fun c hc => by rw [hstop c hc]; rfl
  have htake : rest.takeWhile (!isStop ·) = [] := by
    cases rest with
    | nil => rfl
    | cons c rest => simp [show isStop c = true from hrest c rfl]
  have hdrop : rest.dropWhile (!isStop ·) = rest := by
    cases rest with
    | nil => rfl
    | cons c rest => simp [show isStop c = true from hrest c rfl]
  rw [readToken, List.takeWhile_append_of_pos hgo, List.dropWhile_append_of_pos hgo, htake, hdrop,
    List.append_nil, h]
  rfl

/-! ### Parts -/

section Parts

variable {α : Type} {read : List Char → Option (α × List Char)} {closing : Char}
  {parts : List (List Char × α)}

theorem readParts_intercalate (hclosing : isStop closing = true) (hspace : isSpace closing = false)
    (hcomma : ',' ≠ closing) (hne : parts ≠ [])
    (h : ∀ part ∈ parts, ∀ rest, IsEnd rest → read (part.1 ++ rest) = some (part.2, skip rest))
    {fuel : Nat} (hfuel : parts.length ≤ fuel) (rest : List Char) :
    readParts read closing fuel ([','].intercalate (parts.map Prod.fst) ++ closing :: rest) =
      some (parts.map Prod.snd, rest) := by
  induction parts generalizing fuel with
  | nil => exact absurd rfl hne
  | cons part parts ih =>
    obtain ⟨fuel, rfl⟩ := Nat.exists_eq_succ_of_ne_zero (Nat.ne_of_gt (Nat.zero_lt_of_lt hfuel))
    rw [List.forall_mem_cons] at h
    by_cases hparts : parts = []
    · subst hparts
      have hread := h.1 _ (isEnd_cons hclosing rest)
      rw [skip_cons hspace] at hread
      rw [List.map_singleton, List.intercalate_singleton, readParts, hread]
      simp
    · have hmap : parts.map Prod.fst ≠ [] := by simpa using hparts
      have hread := h.1 _ (isEnd_cons (c := ',') rfl
        ([','].intercalate (parts.map Prod.fst) ++ closing :: rest))
      rw [skip_cons rfl] at hread
      rw [List.map_cons, List.intercalate_cons_of_ne_nil hmap, List.append_assoc, List.append_assoc,
        List.singleton_append, readParts, hread]
      simp [hcomma, ih hparts h.2 (Nat.le_of_succ_le_succ hfuel)]

theorem readEnclosed_intercalate (hclosing : isStop closing = true)
    (hspace : isSpace closing = false) (hcomma : ',' ≠ closing) (hne : parts ≠ [])
    (h : ∀ part ∈ parts, ∀ rest, IsEnd rest → read (part.1 ++ rest) = some (part.2, skip rest))
    {fuel : Nat} (hfuel : parts.length ≤ fuel) (rest : List Char) :
    readEnclosed read closing fuel ([','].intercalate (parts.map Prod.fst) ++ closing :: rest) =
      some (parts.map Prod.snd, rest) := by
  rw [readEnclosed, readParts_intercalate hclosing hspace hcomma hne h hfuel]
  rfl

theorem readEnclosed_space (hspace : isSpace closing = false) {space : List Char}
    (h : space.all isSpace = true) {fuel : Nat} {rest : List Char}
    (hread : read (space ++ closing :: rest) = none) :
    readEnclosed read closing fuel (space ++ closing :: rest) = some ([], rest) := by
  have hparts : readParts read closing fuel (space ++ closing :: rest) = none := by
    cases fuel <;> simp [readParts, hread]
  rw [readEnclosed, hparts, skip_append h, skip_cons hspace]
  simp

/-- Each of some parts is shorter than all with the commas, and there are no more than characters
with the closing mark. -/
theorem length_le_intercalate (hne : parts ≠ []) :
    parts.length ≤ ([','].intercalate (parts.map Prod.fst)).length + 1 ∧
      ∀ part ∈ parts, part.1.length ≤ ([','].intercalate (parts.map Prod.fst)).length := by
  induction parts with
  | nil => exact absurd rfl hne
  | cons part parts ih =>
    by_cases hparts : parts = []
    · subst hparts
      simp
    · have hmap : parts.map Prod.fst ≠ [] := by simpa using hparts
      obtain ⟨hlen, hall⟩ := ih hparts
      rw [List.map_cons, List.intercalate_cons_of_ne_nil hmap]
      simp only [List.length_cons, List.length_append, List.length_nil, List.forall_mem_cons]
      exact ⟨by omega, by omega, fun other hother => by have := hall other hother; omega⟩

end Parts

/-! ### Texts -/

theorem readElement_congr {cs cs' : List Char} (h : skip cs = skip cs') (fuel : Nat) :
    readElement fuel cs = readElement fuel cs' := by
  cases fuel with
  | zero => rfl
  | succ fuel => rw [readElement, readElement, h]

theorem readElement_token {token rest : List Char} {datum : Datum} (h : token? token = some datum)
    (hne : token ≠ []) (hstop : ∀ c ∈ token, isStop c = false) (hrest : IsEnd rest) (fuel : Nat) :
    readElement (fuel + 1) (token ++ rest) = some (datum, skip rest) := by
  have hread := readToken_append h hstop hrest
  obtain ⟨c, token, rfl⟩ := List.exists_cons_of_ne_nil hne
  have hc := hstop c List.mem_cons_self
  rw [List.cons_append] at hread ⊢
  rw [readElement, skip_cons (isSpace_of_isStop hc)]
  split
  · next heq => cases heq; cases hc
  · next heq => cases heq; cases hc
  · next heq => cases heq; cases hc
  · rw [hread]
    rfl

theorem readElement_string {cs rest : List Char} {content : List Char} {fuel : Nat}
    (h : readString fuel cs = some (content, rest)) :
    readElement (fuel + 1) ('"' :: cs) = some (.string (String.ofList content), skip rest) := by
  rw [readElement, skip_cons rfl]
  simp [h]

theorem readElement_array {cs rest : List Char} {items : List Datum} {fuel : Nat}
    (h : readEnclosed (readElement fuel) ']' fuel cs = some (items, rest)) :
    readElement (fuel + 1) ('[' :: cs) = some (.array items, skip rest) := by
  rw [readElement, skip_cons rfl]
  simp [h]

theorem readElement_object {cs rest : List Char} {members : List (String × Datum)} {fuel : Nat}
    (h : readEnclosed (readMember (readElement fuel)) '\x7d' fuel cs = some (members, rest)) :
    readElement (fuel + 1) ('\x7b' :: cs) = some (.object members, skip rest) := by
  rw [readElement, skip_cons rfl]
  simp [h]

/-- No element begins with a mark that ends parts. -/
theorem readElement_closing {closing : Char} (h : closing = ']' ∨ closing = '\x7d')
    {space : List Char} (hspace : space.all isSpace = true) (rest : List Char) (fuel : Nat) :
    readElement fuel (space ++ closing :: rest) = none := by
  rw [readElement_congr (skip_append hspace _)]
  cases fuel with
  | zero => rfl
  | succ fuel => rcases h with rfl | rfl <;> rfl

/-- How the reader of elements reads a phrase that a text begins with. -/
def Phrase.IsReadBy (fuel : Nat) (text : List Char) : Phrase → Prop
  | .value datum | .element datum =>
    ∀ rest, IsEnd rest → readElement fuel (text ++ rest) = some (datum, skip rest)
  | .member name datum =>
    ∀ rest, IsEnd rest →
      readMember (readElement fuel) (text ++ rest) = some ((name, datum), skip rest)

/-- The fuel for parts between marks suffices for each of them. -/
theorem exists_fuel {α : Type} {parts : List (List Char × α)} (hne : parts ≠ [])
    {opening closing : Char} {fuel : Nat}
    (h : (opening :: [','].intercalate (parts.map Prod.fst) ++ [closing]).length ≤ fuel) :
    parts.length ≤ fuel ∧ ∃ less, fuel = less + 1 ∧ ∀ part ∈ parts, part.1.length ≤ less := by
  obtain ⟨hcount, hparts⟩ := length_le_intercalate hne
  simp only [List.length_append, List.length_cons, List.length_nil] at h
  refine ⟨by omega, fuel - 1, by omega, fun part hpart => ?_⟩
  have hpart := hparts part hpart
  omega

/-- Every text of the grammar is read, if the fuel exceeds its length. -/
theorem Writes.isReadBy {text : List Char} {phrase : Phrase} (h : Writes text phrase) {fuel : Nat}
    (hfuel : text.length ≤ fuel) : phrase.IsReadBy (fuel + 1) text := by
  induction h generalizing fuel with
  | null =>
    exact fun rest hrest => readElement_token rfl (by decide)
      (List.all_iff_forall_prop.1 (by decide)) hrest fuel
  | boolean value =>
    intro rest hrest
    cases value <;> exact readElement_token rfl (by decide)
      (List.all_iff_forall_prop.1 (by decide)) hrest fuel
  | number hnumber =>
    obtain ⟨hne, hstop⟩ := isStop_of_number? hnumber
    exact fun rest hrest =>
      readElement_token (token?_of_number? hnumber) hne hstop hrest fuel
  | string hspelled =>
    intro rest hrest
    simp only [List.length_append, List.length_cons, List.length_nil] at hfuel
    rw [List.append_assoc, List.cons_append, List.singleton_append]
    exact readElement_string (readString_flatten hspelled (by omega) rest)
  | emptyArray hspace =>
    intro rest hrest
    rw [List.append_assoc, List.cons_append, List.singleton_append]
    exact readElement_array (readEnclosed_space rfl hspace
      (readElement_closing (.inl rfl) hspace rest fuel))
  | array hne hitems ih =>
    intro rest hrest
    obtain ⟨hcount, less, rfl, hparts⟩ := exists_fuel hne hfuel
    rw [List.append_assoc, List.cons_append, List.singleton_append]
    exact readElement_array (readEnclosed_intercalate rfl rfl (by decide) hne
      (fun item hitem => ih item hitem (hparts item hitem)) hcount rest)
  | emptyObject hspace =>
    intro rest hrest
    rw [List.append_assoc, List.cons_append, List.singleton_append]
    refine readElement_object (readEnclosed_space rfl hspace ?_)
    rw [readMember, readElement_closing (.inr rfl) hspace rest fuel]
  | object hne hmembers ih =>
    intro rest hrest
    obtain ⟨hcount, less, rfl, hparts⟩ := exists_fuel hne hfuel
    rw [List.append_assoc, List.cons_append, List.singleton_append]
    exact readElement_object (readEnclosed_intercalate rfl rfl (by decide) hne
      (fun member hmember => ih member hmember (hparts member hmember)) hcount rest)
  | element hbefore htext hafter ih =>
    intro rest hrest
    simp only [List.length_append] at hfuel
    rw [List.append_assoc, List.append_assoc, readElement_congr (skip_append hbefore _),
      ih (by omega) _ (isEnd_append hafter hrest), skip_append hafter]
  | @member name text key datum hname htext ihName ihText =>
    intro rest hrest
    simp only [List.length_append, List.length_cons] at hfuel
    have hkey : readElement (fuel + 1) (name ++ ':' :: (text ++ rest)) =
        some (.string key, ':' :: (text ++ rest)) := by
      rw [ihName (by omega) _ (isEnd_cons rfl _), skip_cons rfl]
    have hdatum : readElement (fuel + 1) (text ++ rest) = some (datum, skip rest) :=
      ihText (by omega) rest hrest
    rw [List.append_assoc, List.cons_append, readMember, hkey]
    simp [hdatum]

/-- A JSON text is decoded to what it says. -/
theorem IsTextOf.decode?_eq {datum : Datum} {text : String} (h : IsTextOf datum text) :
    decode? text = some datum := by
  have hend : IsEnd [] := nofun
  have hread := Writes.isReadBy h le_rfl [] hend
  rw [List.append_nil] at hread
  rw [decode?, hread]
  rfl

/-- A JSON text says one thing only. -/
theorem IsTextOf.unique {datum other : Datum} {text : String} (h : IsTextOf datum text)
    (h' : IsTextOf other text) : datum = other :=
  Option.some.inj (h.decode?_eq.symm.trans h'.decode?_eq)

/-- A surrogate pair, a slash that need not be escaped, an object with space in it, and a number
with a fraction and an exponent. -/
example : decode? " [\"\\ud83d\\ude00\\/\", \x7b\"a\" : []\x7d] " =
      some (.array [.string "😀/", .object [("a", .array [])]]) ∧
    number? "-12.50e+1".toList = some (-125) :=
  ⟨rfl, by decide +kernel⟩

end LayeredConfig.Text.Datum

/-!
Similarity of two texts by their common blocks: the longest block that both share is matched
first, then the parts to its left and to its right in the same way. The similarity is twice the
number of matched characters over the number of all characters, kept here as that fraction.
-/

namespace LayeredConfig.Text

/-- A block of one text that occurs in another: where it starts in each, and its length. -/
structure Block where
  start : Nat
  otherStart : Nat
  size : Nat

def commonLength : List Char → List Char → Nat
  | a :: as, b :: bs => if a == b then commonLength as bs + 1 else 0
  | _, _ => 0

/-- The longest common block; among equally long ones that which starts first in the first text,
and then first in the second. -/
def longestBlock (as bs : List Char) : Block :=
  (List.range as.length).foldl (fun best i =>
    (List.range bs.length).foldl (fun best j =>
      let size := commonLength (as.drop i) (bs.drop j)
      if best.size < size then ⟨i, j, size⟩ else best) best) ⟨0, 0, 0⟩

/-- The number of characters that the matched blocks of two texts cover. -/
def matched (as bs : List Char) : Nat :=
  match longestBlock as bs with
  | ⟨i, j, size⟩ =>
    if 0 < size ∧ i + size ≤ as.length then
      matched (as.take i) (bs.take j) + size + matched (as.drop (i + size)) (bs.drop (j + size))
    else 0
termination_by as.length
decreasing_by all_goals simp; omega

/-- The similarity of a candidate to a word, as numerator and denominator. -/
structure Similarity where
  candidate : String
  shared : Nat
  total : Nat

def similarity (word candidate : String) : Similarity :=
  ⟨candidate, 2 * matched candidate.toList word.toList, candidate.length + word.length⟩

/-- Whether a similarity is at least three fifths. -/
def Similarity.isClose (s : Similarity) : Bool :=
  3 * s.total ≤ 5 * s.shared

/-- The order of suggestions: the more similar one first, and of two equally similar ones the
greater text. -/
def Similarity.before (s t : Similarity) : Bool :=
  if s.shared * t.total == t.shared * s.total then t.candidate ≤ s.candidate
  else t.shared * s.total < s.shared * t.total

/-- The at most three candidates that are close to a word, the most similar first. -/
def closeMatches (word : String) (candidates : List String) : List String :=
  (((candidates.map (similarity word)).filter Similarity.isClose).mergeSort
    Similarity.before).take 3 |>.map Similarity.candidate

end LayeredConfig.Text

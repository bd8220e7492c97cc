/-!
# Splitting at separators

Cutting a character list at each character of a class. The pieces hold no separator, there is one more
piece than there are separators, and joining them again gives the list back (`joinWith_split`).
-/

namespace Hostcall.Text

/-- The pieces between the characters that satisfy `p`; a list without one is a single piece. -/
def split (p : Char → Bool) : List Char → List (List Char)
  | [] => [[]]
  | c :: cs =>
    if p c then [] :: split p cs
    else match split p cs with
      | [] => [[c]]
      | piece :: pieces => (c :: piece) :: pieces

/-- Pieces with a separator between neighbours. -/
def joinWith (sep : Char) : List (List Char) → List Char
  | [] => []
  | [piece] => piece
  | piece :: pieces => piece ++ sep :: joinWith sep pieces

/-- A text has at least one piece. -/
theorem split_ne_nil (p : Char → Bool) (cs : List Char) : split p cs ≠ [] := by
  cases cs with
  | nil => simp [split]
  | cons c cs => simp only [split]; split <;> try split
                 all_goals simp

/-- Pieces that are joined again are the text. -/
theorem joinWith_split (sep : Char) (cs : List Char) :
    joinWith sep (split (· == sep) cs) = cs := by
  induction cs with
  | nil => rfl
  | cons c cs ih =>
    rcases hs : split (· == sep) cs with _ | ⟨piece, pieces⟩
    · exact absurd hs (split_ne_nil _ _)
    · by_cases hc : c = sep
      · rw [hs] at ih
        simp [split, hc, hs, joinWith, ih]
      · rw [hs] at ih
        cases pieces with
        | nil => simp_all [split, joinWith]
        | cons _ _ => simp_all [split, joinWith]

end Hostcall.Text

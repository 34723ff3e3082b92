/-!
Texts cut into pieces, and pieces put together.
-/

namespace ArrayTransfer.Text

/-- The pieces of a text between the characters that `p` holds of; there is always one piece more than there are
    such characters. -/
def splitAt (p : Char → Bool) (cs : List Char) : List (List Char) :=
  cs.foldr
    (fun c pieces =>
      if p c then [] :: pieces
      else match pieces with
        | [] => [[c]]
        | piece :: rest => (c :: piece) :: rest)
    [[]]

def joinWith (separator : Char) : List (List Char) → List Char
  | [] => []
  | [piece] => piece
  | piece :: pieces => piece ++ separator :: joinWith separator pieces

/-- What stands before the first character that `p` holds of, and the rest from it on. -/
def cut (p : Char → Bool) (cs : List Char) : List Char × List Char := (cs.takeWhile (!p ·), cs.dropWhile (!p ·))

theorem cut_append {p : Char → Bool} {front rest : List Char} (clear : ∀ c ∈ front, p c = false)
    (starts : ∀ c ∈ rest.head?, p c = true) : cut p (front ++ rest) = (front, rest) := by
  have before : ∀ c ∈ front, (!p c) = true := fun c hc => by rw [clear c hc]; rfl
  unfold cut
  rw [List.takeWhile_append_of_pos before, List.dropWhile_append_of_pos before]
  cases rest with
  | nil => simp
  | cons c rest => simp [starts c rfl]

end ArrayTransfer.Text

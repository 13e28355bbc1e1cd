/-!
# Lines

A line ends with a line feed, before which a carriage return may stand that is no
part of the line.
-/

namespace Coprocessor.Text

/-- A text with no carriage returns before line feeds. -/
def withLineFeeds : List Char → List Char
  | [] => []
  | '\r' :: '\n' :: r => '\n' :: withLineFeeds r
  | c :: r => c :: withLineFeeds r

/-- What stands between the occurrences of a character. -/
def cutAt (sep : Char) : List Char → List (List Char)
  | [] => [[]]
  | c :: r =>
    if c = sep then [] :: cutAt sep r
    else
      match cutAt sep r with
      | [] => [[c]]
      | piece :: pieces => (c :: piece) :: pieces

/-- The lines of a text, the last of which ends with the text. -/
def lines (s : String) : List String :=
  let line (l : List Char) := if l.getLast? = some '\r' then l.dropLast else l
  (cutAt '\n' s.toList).map (String.ofList ∘ line)

/-- There is always a piece, if an empty one. -/
theorem cutAt_ne_nil (sep : Char) (s : List Char) : cutAt sep s ≠ [] := by
  cases s with
  | nil => simp [cutAt]
  | cons c r =>
    simp only [cutAt]
    split
    · simp
    · split <;> simp

/-- The pieces are the text again, with the character between them. -/
theorem intercalate_cutAt (sep : Char) (s : List Char) : [sep].intercalate (cutAt sep s) = s := by
  induction s with
  | nil => rfl
  | cons c r ih =>
    obtain ⟨l, ls, hr⟩ := List.exists_cons_of_ne_nil (cutAt_ne_nil sep r)
    rw [hr] at ih
    simp only [cutAt, hr]
    split
    · next h => simp [h, List.intercalate_cons_cons, ih]
    · cases ls with
      | nil => simpa [List.intercalate] using ih
      | cons m ms => simpa [List.intercalate_cons_cons] using ih

end Coprocessor.Text

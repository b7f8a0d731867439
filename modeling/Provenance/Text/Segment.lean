/-!
# Text — Segment

Maximal stretches of a text whose first character is of one class and whose other characters are of
another.
-/

namespace Provenance.Text

theorem length_dropWhile_le {α : Type} (p : α → Bool) (xs : List α) :
    (xs.dropWhile p).length ≤ xs.length :=
  (List.dropWhile_sublist p).length_le

/-- The stretches that begin with a character of the class `first` and go on as long as the
characters are of the class `inside`, found from left to right. -/
def segments (first inside : Char → Bool) : List Char → List (List Char)
  | [] => []
  | c :: cs =>
    have := length_dropWhile_le inside cs
    if first c then (c :: cs.takeWhile inside) :: segments first inside (cs.dropWhile inside)
    else segments first inside cs
termination_by cs => cs.length

end Provenance.Text

/-!
# Number — Total

The sum of a list of numbers, from the right.
-/

namespace Provenance

/-- The sum of a list of numbers. -/
def total {α : Type} [Add α] [OfNat α 0] (xs : List α) : α := xs.foldr (· + ·) 0

@[simp] theorem total_nil {α : Type} [Add α] [OfNat α 0] : total ([] : List α) = 0 := rfl

@[simp] theorem total_cons {α : Type} [Add α] [OfNat α 0] (x : α) (xs : List α) :
    total (x :: xs) = x + total xs := rfl

end Provenance

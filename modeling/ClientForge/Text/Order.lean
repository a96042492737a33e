/-!
Sorting by a text, in code point order. Elements with equal texts keep their order.
-/

namespace ClientForge.Text

variable {α : Type}

/-- Puts an element before the first one whose text is not smaller. -/
def insertOn (key : α → String) (x : α) : List α → List α
  | [] => [x]
  | y :: rest => if key y < key x then y :: insertOn key x rest else x :: y :: rest

def sortOn (key : α → String) (xs : List α) : List α := xs.foldr (insertOn key) []

def sorted (texts : List String) : List String := sortOn id texts

theorem insertOn_perm (key : α → String) (x : α) (xs : List α) : (insertOn key x xs).Perm (x :: xs) := by
  induction xs with
  | nil => exact .refl _
  | cons y rest ih =>
    by_cases h : key y < key x
    · simpa [insertOn, h] using (ih.cons y).trans (.swap x y rest)
    · simp [insertOn, h]

theorem sortOn_perm (key : α → String) (xs : List α) : (sortOn key xs).Perm xs := by
  induction xs with
  | nil => exact .refl _
  | cons x xs ih => exact (insertOn_perm key x _).trans (ih.cons x)

end ClientForge.Text

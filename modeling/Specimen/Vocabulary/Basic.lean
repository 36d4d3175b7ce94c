set_option autoImplicit false

/-!
# Word lists

The word lists are written in lines, with commas between the entries of a line.

## Main definitions

* `Specimen.Vocabulary.items` — the entries of a list.
-/

namespace Specimen.Vocabulary

/-- The entries of a list written in lines, with commas between those of a line. -/
def items (lines : List String) : Array String :=
  (lines.flatMap fun line => (line.toList.splitOn ',').map String.ofList).toArray

/-- Every line has an entry. -/
theorem toList_items_cons_ne_nil (line : String) (lines : List String) :
    (items (line :: lines)).toList ≠ [] := by
  simp [items, List.splitOn_ne_nil]

end Specimen.Vocabulary

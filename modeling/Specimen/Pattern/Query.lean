import Specimen.Pattern.Tree
import Specimen.Text.Age
import Specimen.Text.Segmentation

set_option autoImplicit false

/-!
# Queries about characters

A name asks for a property, a category or a script, in this order. A property with a value asks for
a category, for a script, with or without the characters that it shares, for an age, or for what
characters are where a text is cut.

## Main definitions

* `Specimen.Pattern.PropertyQuery.codes?` — the characters for which a query is answered by yes.
-/

namespace Specimen.Pattern

open Specimen.Text

/-- The properties with values, by their names, and the characters with a value. -/
def valuedProperties : List (List String × (List Char → Option CodeSet)) := [
  (["General_Category", "gc"], Category.codes?),
  (["Script", "sc"], fun value => (Script.find? value).map Script.codes),
  (["Script_Extensions", "scx"], fun value => (Script.find? value).map Script.extendedCodes),
  (["Age"], Age.codes?),
  (["Grapheme_Cluster_Break", "GCB"], fun value => findLoose? value Segmentation.graphemeBreaks),
  (["Word_Break", "WB"], fun value => findLoose? value Segmentation.wordBreaks),
  (["Sentence_Break", "SB"], fun value => findLoose? value Segmentation.sentenceBreaks)]

/-- The characters for which a query is answered by yes; nothing when it has no sense. -/
def PropertyQuery.codes? : PropertyQuery → Option CodeSet
  | .named name =>
    match Property.codes? name, Category.codes? name with
    | some codes, _ => some codes
    | none, some codes => some codes
    | none, none => (Script.find? name).map Script.codes
  | .valued property value => do (← findLoose? property valuedProperties) value

end Specimen.Pattern

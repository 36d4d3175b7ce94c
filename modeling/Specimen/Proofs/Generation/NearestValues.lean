import Specimen.Generation.Setup
import Specimen.Proofs.Generation.References

set_option autoImplicit false

/-!
# References by name

A reference without points reads the scope of its member. The scope is that of the object, in which
the values of the members before have been kept, so that the reference means the value of the last
member of its name before it, or, without such a member, what the scope of the object holds. What
the objects inside these members keep is kept in scopes of their own.

## Main results

* `Specimen.Scope.local?_recordAll` — what a scope holds after values have been kept in it.
* `Specimen.Engine.generateIn_nearest` — a reference by name means the nearest value before it.
-/

namespace Specimen

/-- A scope holds the last value that was kept under a name. -/
theorem Scope.local?_recordAll (scope : Scope) (values : List (String × Json)) (name : String) :
    (scope.recordAll values).local? name =
      (Dictionary.last? values name).or (scope.local? name) :=
  Dictionary.get?_setAll scope.locals values name

/-- A place knows what the place around it knows. -/
theorem Scope.local?_child (scope : Scope) (name other : String) :
    (scope.child name).local? other = scope.local? other := rfl

namespace Engine

variable (engine : Engine)

/-- A text that is a reference by name means the value that its scope holds under the name; nothing
is drawn for it. -/
theorem run_generateIn_reference {name : String} (hname : IsReferenceName name)
    (hletter : name.toList.head?.any Text.isAsciiLetter = true) {scope : Scope} {value : Json}
    (hvalue : scope.local? name = some value) (start : Progress) :
    (engine.generateIn (.str ("@" ++ name)) scope).run start = (value, start) := by
  have htext : Path.text [name] = name := String.intercalate_singleton
  have hproper : Path.IsProper [name] := fun other ho => List.mem_singleton.1 ho ▸ hname
  have hfind : scope.find? start.ledger (Path.text [name]) = some value := by
    rw [htext, Scope.find?_name _ _ hname]
    exact hvalue
  have hrun := engine.run_produceText_reference hproper hletter hfind
  rwa [htext] at hrun

/-- A member whose text is a reference by name has the value that its scope holds under the name. -/
theorem run_produceEntry_reference {key name : String} (hkey : Key.split? key = none)
    (hname : IsReferenceName name) (hletter : name.toList.head?.any Text.isAsciiLetter = true)
    {scope : Scope} {value : Json} (hvalue : scope.local? name = some value) (start : Progress) :
    (produceEntry (engine.entry (key, .str ("@" ++ name))) scope).run start = (value, start) := by
  rw [← Scope.local?_child scope key] at hvalue
  rw [engine.produceEntry_of_split? hkey]
  exact engine.run_generateIn_reference hname hletter hvalue start

/-- **A reference by name means the nearest value before it**: the value generated for the last
member of the name before the reference or, without such a member, the value that the scope of the
object holds. This value, as it is, appears under the key of the reference, when no member behind it
has the same name; and the reference draws nothing.

**Proof sketch.** The reference is generated in the scope of the object in which the values of the
members before it have been kept. Members of other names behind it leave its value. -/
theorem generateIn_nearest {before after : List (String × Json)} {key name : String}
    (hkey : Key.split? key = none) (hafter : ∀ member ∈ after, Key.name member.1 ≠ key)
    (hname : IsReferenceName name) (hletter : name.toList.head?.any Text.isAsciiLetter = true)
    (scope : Scope) (start : Progress) {value : Json}
    (hvalue : (Dictionary.last? ((namedValues (before.map engine.entry) scope).run start).1
      name).or (scope.local? name) = some value) :
    (∃ made, ((engine.generateIn (.obj (before ++ (key, .str ("@" ++ name)) :: after))
        scope).run start).1 = .obj made ∧ Dictionary.get? made key = some value) ∧
      ((engine.generateIn (.obj (before ++ [(key, .str ("@" ++ name))])) scope).run
          start).2.source =
        ((engine.generateIn (.obj before) scope).run start).2.source := by
  have hplain : Key.name key = key := Key.name_eq_self hkey
  have hothers : ∀ entry ∈ after.map engine.entry, Key.name entry.key ≠ key := by
    intro entry hentry
    obtain ⟨member, hmember, rfl⟩ := List.mem_map.1 hentry
    exact hafter member hmember
  have hlocal := (Scope.local?_recordAll scope _ name).trans hvalue
  have hentry := engine.run_produceEntry_reference hkey hname hletter hlocal
  constructor
  · rw [generateIn_obj, produceEntries, run_map, List.map_append, List.map_cons,
      run_produceEntriesFrom_append, run_produceEntriesFrom_cons, hentry]
    refine ⟨_, rfl, (get?_produceEntriesFrom_of_ne hothers _ _ _).trans ?_⟩
    rw [Dictionary.get?_set, entry, if_pos hplain]
  · rw [generateIn_obj, generateIn_obj, produceEntries, produceEntries, run_map, run_map,
      List.map_append, List.map_singleton, run_produceEntriesFrom_append,
      run_produceEntriesFrom_cons, hentry]
    rfl

/-- The name is that of a placeholder, too, an object between has a value of its own for it, and
there is another value behind the reference. -/
theorem generateIn_nearest_name :
    (standard ⟨.enUS, 0⟩).registry.contains "name" = true ∧
    (Dictionary.last? ((namedValues
        ([("name|+1", .num (.int 7)), ("in", .obj [("name", .null)])].map
          (standard ⟨.enUS, 0⟩).entry) Scope.root).run ⟨default, Ledger.empty⟩).1 "name").or
      (Scope.root.local? "name") = some (.num (.int 7)) ∧
    ∃ made, (((standard ⟨.enUS, 0⟩).generateIn (.obj ([("name|+1", .num (.int 7)),
        ("in", .obj [("name", .null)])] ++ ("copy", .str ("@" ++ "name")) :: [("name", .null)]))
          Scope.root).run ⟨default, Ledger.empty⟩).1 = .obj made ∧
      Dictionary.get? made "copy" = some (.num (.int 7)) := by
  have hregistry : (standard ⟨.enUS, 0⟩).registry.contains "name" = true := by decide +kernel
  have hvalue : (Dictionary.last? ((namedValues
      ([("name|+1", .num (.int 7)), ("in", .obj [("name", .null)])].map
        (standard ⟨.enUS, 0⟩).entry) Scope.root).run ⟨default, Ledger.empty⟩).1 "name").or
      (Scope.root.local? "name") = some (.num (.int 7)) := by cbv
  exact ⟨hregistry, hvalue, (generateIn_nearest _ (by decide) (by decide) (by decide) (by decide)
    _ _ hvalue).1⟩

end Engine

end Specimen

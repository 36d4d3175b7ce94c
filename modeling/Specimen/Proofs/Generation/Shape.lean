import Specimen.Generation.Setup
import Specimen.Proofs.Generation.NearestValues

set_option autoImplicit false

/-!
# The shape of what is generated

An array becomes an array of as many items, each generated from what the items before it leave. An
object becomes an object with the names of its keys, each once, where it comes first; when several
members have one name, the last of them gives the value. This value is also what references behind
the member mean, since the object and the scope take in the same values in the same order.

## Main definitions

* `Specimen.Engine.scopeBehind` — the scope in which a member behind others is generated.

## Main results

* `Specimen.Dictionary.names_setAll_nil` — the names of a dictionary made of values in order.
* `Specimen.Dictionary.setAll_setAll_nil` — a dictionary stands for the values of which it is made.
* `Specimen.Engine.generateIn_shape` — the shape of generated objects and arrays.
-/

namespace Specimen

/-! ## Dictionaries made of values in order -/

namespace Dictionary

variable {α : Type}

theorem setAll_append_singleton (entries : Dictionary α) (values : List (String × α))
    (last : String × α) :
    entries.setAll (values ++ [last]) = (entries.setAll values).set last.1 last.2 :=
  List.foldl_append

/-- **The names are those of the values**, each once and in the order in which they come first. -/
theorem names_setAll_nil (values : List (String × α)) :
    (setAll [] values).names = (values.map Prod.fst).eraseDups := by
  induction values using List.reverseRecOn with
  | nil => rfl
  | append_singleton values last ih =>
    have hlast : [last.1].eraseDups = [last.1] := rfl
    rw [setAll_append_singleton, names_set, ih, List.map_append, List.eraseDups_append]
    simp only [List.mem_eraseDups, List.map_singleton, List.cons_removeAll]
    by_cases h : last.1 ∈ values.map Prod.fst <;> simp [h, hlast]

theorem nodup_names_setAll_nil (values : List (String × α)) : (setAll [] values).names.Nodup := by
  induction values using List.reverseRecOn with
  | nil => exact List.nodup_nil
  | append_singleton values last ih =>
    rw [setAll_append_singleton]
    exact nodup_names_set ih _ _

/-- The value of a name that is there can be changed before or after values of other names. -/
theorem set_setAll {entries values : Dictionary α} {name : String} (hname : name ∈ entries.names)
    (hvalues : name ∉ values.names) (value : α) :
    (entries.setAll values).set name value = (entries.set name value).setAll values := by
  induction values generalizing entries with
  | nil => rfl
  | cons entry rest ih =>
    obtain ⟨hne, hrest⟩ := not_or.1 (mt List.mem_cons.2 hvalues)
    have hmem : name ∈ (entries.set entry.1 entry.2).names := mem_names_set.2 (.inr hname)
    have hnext := ih hmem hrest
    rw [set_comm hname hne] at hnext
    exact hnext

/-- A value can be put under its name in a dictionary of values, or behind them. -/
theorem setAll_set {values : Dictionary α} (h : values.names.Nodup) (entries : Dictionary α)
    (name : String) (value : α) :
    entries.setAll (values.set name value) = (entries.setAll values).set name value := by
  induction values generalizing entries with
  | nil => rfl
  | cons entry rest ih =>
    obtain ⟨key, old⟩ := entry
    obtain ⟨hkey, hrest⟩ := List.nodup_cons.1 h
    by_cases hname : key = name
    · subst hname
      have hmem : key ∈ (entries.set key old).names := mem_names_set.2 (.inl rfl)
      have hset := set_setAll hmem hkey value
      rw [set_set] at hset
      rw [set, if_pos rfl]
      exact hset.symm
    · rw [set, if_neg hname]
      exact ih hrest _

/-- **A dictionary stands for the values of which it is made.** -/
theorem setAll_setAll_nil (entries : Dictionary α) (values : List (String × α)) :
    entries.setAll (setAll [] values) = entries.setAll values := by
  induction values using List.reverseRecOn with
  | nil => rfl
  | append_singleton values last ih =>
    rw [setAll_append_singleton, setAll_append_singleton,
      setAll_set (nodup_names_setAll_nil values), ih]

end Dictionary

namespace Engine

variable (engine : Engine)

/-! ## Objects -/

/-- The scope in which a member behind others is generated: the values of the object that the others
make are kept in it. -/
def scopeBehind (before : List (String × Json)) (scope : Scope) : Gen Scope := do
  match ← engine.generateIn (.obj before) scope with
  | .obj made => pure (scope.recordAll made)
  | _ => pure scope

theorem run_generateIn_obj (members : List (String × Json)) (scope : Scope) (start : Progress) :
    (engine.generateIn (.obj members) scope).run start =
      ((produceEntriesFrom (members.map engine.entry) [] scope).run start).map Json.obj id := by
  rw [generateIn_obj]
  rfl

/-- A member is generated in the scope in which the values before it have been kept one by one. -/
theorem run_scopeBehind (before : List (String × Json)) (scope : Scope) (start : Progress) :
    (engine.scopeBehind before scope).run start =
      ((namedValues (before.map engine.entry) scope).run start).map scope.recordAll id := by
  rw [scopeBehind, run_bind, run_generateIn_obj, run_produceEntriesFrom]
  exact Prod.ext (congrArg (Scope.mk scope.path) (Dictionary.setAll_setAll_nil _ _)) rfl

/-- The values of members have the names of their keys. -/
theorem names_namedValues (members : List (String × Json)) (scope : Scope) (start : Progress) :
    ((namedValues (members.map engine.entry) scope).run start).1.map Prod.fst =
      members.map fun member => Key.name member.1 := by
  induction members generalizing scope start with
  | nil => rfl
  | cons member members ih =>
    rw [List.map_cons, run_namedValues_cons, Prod.map_fst, List.map_cons, ih]
    rfl

section LastMember

variable (before : List (String × Json)) (member : String × Json) {after : List (String × Json)}
  (hafter : ∀ other ∈ after, Key.name other.1 ≠ Key.name member.1) (scope : Scope)
  (start : Progress)

include hafter

/-- **The last member of a name gives the value**: under its name the object has what the member is
generated as behind the members before it. -/
theorem get?_of_last :
    ((produceEntriesFrom ((before ++ member :: after).map engine.entry) [] scope).run start).1.get?
        (Key.name member.1) =
      some ((engine.scopeBehind before scope >>= produceEntry (engine.entry member)).run
        start).1 := by
  have hothers : ∀ entry ∈ after.map engine.entry, Key.name entry.key ≠ Key.name member.1 := by
    intro entry hentry
    obtain ⟨other, hother, rfl⟩ := List.mem_map.1 hentry
    exact hafter other hother
  rw [List.map_append, List.map_cons, run_produceEntriesFrom_append, run_produceEntriesFrom_cons,
    get?_produceEntriesFrom_of_ne hothers, Dictionary.get?_set, run_bind, run_scopeBehind,
    run_produceEntriesFrom]
  exact if_pos rfl

/-- So does the scope behind these members. -/
theorem local?_of_last :
    ((engine.scopeBehind (before ++ member :: after) scope).run start).1.local?
        (Key.name member.1) =
      some ((engine.scopeBehind before scope >>= produceEntry (engine.entry member)).run
        start).1 := by
  have hmade := engine.get?_of_last before member hafter scope start
  rw [get?_produceEntriesFrom, Dictionary.get?, Option.or_none] at hmade
  rw [run_scopeBehind, Prod.map_fst, Scope.local?_recordAll, hmade, Option.some_or]

end LastMember

/-! ## Arrays -/

theorem run_generateIn_arr (items : List Json) (scope : Scope) (start : Progress) :
    (engine.generateIn (.arr items) scope).run start =
      ((produceItemsFrom (items.map engine.generateIn) scope).run start).map Json.arr id := by
  rw [generateIn_arr]
  rfl

/-- Items behind others are generated from what these leave. -/
theorem run_produceItemsFrom_append (first second : List Producer) (scope : Scope)
    (start : Progress) :
    (produceItemsFrom (first ++ second) scope).run start =
      ((produceItemsFrom second scope).run ((produceItemsFrom first scope).run start).2).map
        (((produceItemsFrom first scope).run start).1 ++ ·) id := by
  induction first generalizing start with
  | nil => rfl
  | cons producer first ih =>
    rw [List.cons_append, run_produceItemsFrom_cons, run_produceItemsFrom_cons, ih]
    rfl

theorem length_produceItemsFrom (producers : List Producer) (scope : Scope) (start : Progress) :
    ((produceItemsFrom producers scope).run start).1.length = producers.length := by
  induction producers generalizing start with
  | nil => rfl
  | cons producer producers ih =>
    rw [run_produceItemsFrom_cons, List.length_cons, ih, List.length_cons]

/-- The items behind others stand behind theirs, and the first of them is generated from what the
others leave. -/
theorem getElem?_produceItemsFrom (before after : List Json) (item : Json) (scope : Scope)
    (start : Progress) :
    ((produceItemsFrom ((before ++ item :: after).map engine.generateIn) scope).run
        start).1[before.length]? =
      some ((engine.generateIn item scope).run
        ((engine.generateIn (.arr before) scope).run start).2).1 := by
  have hlength := length_produceItemsFrom (before.map engine.generateIn) scope start
  rw [List.length_map] at hlength
  rw [List.map_append, run_produceItemsFrom_append, Prod.map_fst, ← hlength,
    List.getElem?_append_right (Nat.le_refl _), Nat.sub_self, List.map_cons,
    run_produceItemsFrom_cons, run_generateIn_arr]
  rfl

/-! ## Objects and arrays -/

/-- **The shape of what is generated.** An object becomes an object whose names are those of its
keys, each once, in the order in which they come first. Under a name it has what its last member of
the name is generated as, behind the members before it; a member without value has none. References
to the name behind this member, whatever members stand between, mean the same value. An array
becomes an array of as many items, each generated in the scope of the array from what the items
before it leave.

**Proof sketch.** The members give values with the names of their keys, and both the object and the
scope of what stands behind them are made of these values in order. In a dictionary that is made
like this a name stands where it comes first, with the last value under it. -/
theorem generateIn_shape (scope : Scope) (start : Progress) :
    (∀ members : List (String × Json), ∃ made : Dictionary Json,
      ((engine.generateIn (.obj members) scope).run start).1 = .obj made ∧
      made.names = (members.map fun member => Key.name member.1).eraseDups ∧ made.names.Nodup ∧
      ∀ (before after : List (String × Json)) (key : String) (value : Json),
        members = before ++ (key, value) :: after →
        (∀ other ∈ after, Key.name other.1 ≠ Key.name key) →
        ∃ result : Json, made.get? (Key.name key) = some result ∧
          ((engine.scopeBehind before scope >>= produceEntry (engine.entry (key, value))).run
            start).1 = result ∧
          (value = .null → result = .null) ∧
          (IsReferenceName (Key.name key) →
            (Key.name key).toList.head?.any Text.isAsciiLetter = true →
            ∀ between rest, after = between ++ rest → ∀ (other : String) (reached : Progress),
              (engine.generateIn (.str ("@" ++ Key.name key))
                (((engine.scopeBehind (before ++ (key, value) :: between) scope).run
                  start).1.child other)).run reached = (result, reached))) ∧
    ∀ items : List Json, ∃ made : List Json,
      ((engine.generateIn (.arr items) scope).run start).1 = .arr made ∧
      made.length = items.length ∧
      ∀ (before after : List Json) (item : Json), items = before ++ item :: after →
        made[before.length]? = some ((engine.generateIn item scope).run
          ((engine.generateIn (.arr before) scope).run start).2).1 := by
  constructor
  · intro members
    refine ⟨((produceEntriesFrom (members.map engine.entry) [] scope).run start).1,
      congrArg Prod.fst (engine.run_generateIn_obj members scope start), ?_, ?_, ?_⟩
    · rw [run_produceEntriesFrom, Prod.map_fst, Dictionary.names_setAll_nil, names_namedValues]
    · rw [run_produceEntriesFrom]
      exact Dictionary.nodup_names_setAll_nil _
    · rintro before after key value rfl hafter
      refine ⟨_, engine.get?_of_last before (key, value) hafter scope start, rfl, ?_, ?_⟩
      · rintro rfl
        rfl
      · rintro hname hletter between rest rfl other reached
        have hbetween : ∀ other ∈ between, Key.name other.1 ≠ Key.name key :=
          fun other ho => hafter other (List.mem_append_left _ ho)
        have hlocal := engine.local?_of_last before (key, value) hbetween scope start
        rw [← Scope.local?_child _ other] at hlocal
        exact engine.run_generateIn_reference hname hletter hlocal reached
  · intro items
    refine ⟨((produceItemsFrom (items.map engine.generateIn) scope).run start).1,
      congrArg Prod.fst (engine.run_generateIn_arr items scope start), ?_, ?_⟩
    · rw [length_produceItemsFrom, List.length_map]
    · rintro before after item rfl
      exact engine.getElem?_produceItemsFrom before after item scope start

/-- A name with two members, whose keys differ: the counter is the last of them, and stands where
the number stood. A reference behind the counter means its number. -/
theorem generateIn_shape_last :
    (∀ other ∈ [("c", Json.str "@a")], Key.name other.1 ≠ Key.name "a|+2") ∧
    ∃ made : Dictionary Json,
      (((standard ⟨.enUS, 0⟩).generateIn (.obj [("a", .num (.int 1)), ("b|3", .null),
          ("a|+2", .num (.int 7)), ("c", .str "@a")]) Scope.root).run
            ⟨default, Ledger.empty⟩).1 = .obj made ∧
      made.names = ["a", "b", "c"] ∧ made.get? "a" = some (.num (.int 7)) ∧
      (((standard ⟨.enUS, 0⟩).generateIn (.str "@a")
        ((((standard ⟨.enUS, 0⟩).scopeBehind [("a", .num (.int 1)), ("b|3", .null),
          ("a|+2", .num (.int 7))] Scope.root).run ⟨default, Ledger.empty⟩).1.child "c")).run
            default).1 = .num (.int 7) := by
  have hafter : ∀ other ∈ [("c", Json.str "@a")], Key.name other.1 ≠ Key.name "a|+2" := by decide
  obtain ⟨made, hmade, hnames, -, hlast⟩ := (generateIn_shape (standard ⟨.enUS, 0⟩) Scope.root
    ⟨default, Ledger.empty⟩).1 [("a", .num (.int 1)), ("b|3", .null), ("a|+2", .num (.int 7)),
      ("c", .str "@a")]
  obtain ⟨result, hget, hbehind, -, hreference⟩ := hlast [("a", .num (.int 1)), ("b|3", .null)]
    [("c", .str "@a")] "a|+2" (.num (.int 7)) rfl hafter
  have hresult : ((((standard ⟨.enUS, 0⟩).scopeBehind [("a", .num (.int 1)), ("b|3", .null)]
      Scope.root) >>= produceEntry ((standard ⟨.enUS, 0⟩).entry ("a|+2", .num (.int 7)))).run
        ⟨default, Ledger.empty⟩).1 = .num (.int 7) := by cbv
  obtain rfl := hbehind.symm.trans hresult
  have hname : Key.name "a|+2" = "a" := by decide
  rw [hname] at hget hreference
  have hmeans := hreference (by decide) (by decide) [] [("c", .str "@a")] rfl "c" default
  exact ⟨hafter, made, hmade, hnames.trans (by decide), hget, congrArg Prod.fst hmeans⟩

end Engine

end Specimen

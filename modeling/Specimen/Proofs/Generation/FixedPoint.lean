import Specimen.Generation.Setup
import Specimen.Proofs.Generation.PlainTemplate

set_option autoImplicit false

/-!
# Generated values as templates

Generation takes the rule off every key, and what stays of a key does not come apart again. The
texts of a template without at signs and slashes are copied or repeated. When no rule has a point,
so that no value is kept with its parts as they are, the generated value therefore has no directives
left: as a template it is a fixed point of every engine.

## Main definitions

* `Specimen.Json.IsElementary` — texts without at signs and slashes, and rules without points.
* `Specimen.Json.IsSettled` — a value without directives that is generated as it is.

## Main results

* `Specimen.Engine.gives_settled` — what such a template is generated as is settled.
* `Specimen.Engine.generate_generate` — a generated value is a fixed point.
-/

namespace Specimen

namespace Json

/-- A text without at sign and slash, or an object no key of which has a rule text with a point. -/
def IsElementary : Json → Prop
  | .str text => '@' ∉ text.toList ∧ '/' ∉ text.toList
  | .obj members => ∀ member ∈ members, ∀ parts ∈ Key.split? member.1, '.' ∉ parts.2.toList
  | _ => True

instance : DecidablePred IsElementary
  | .str text => inferInstanceAs (Decidable ('@' ∉ text.toList ∧ '/' ∉ text.toList))
  | .obj members => inferInstanceAs (Decidable (∀ member ∈ members,
      ∀ parts ∈ Key.split? member.1, '.' ∉ parts.2.toList))
  | .null | .bool _ | .num _ | .arr _ => isTrue trivial

theorem selective_isElementary : Selective IsElementary :=
  fun _ _ hsub h member hm => h member (hsub member hm)

/-! ## Settled values -/

/-- A value without directives that every engine generates as it is, at every place. -/
structure IsSettled (value : Json) : Prop where
  /-- The texts and keys of the value have no directives. -/
  plain : value.Everywhere IsPlain
  /-- The value is generated as it is, and at most values are recorded. -/
  fixed : ∀ (engine : Engine) (scope : Scope), (engine.generateIn value scope).OnlyRecords value

/-- Values without texts and parts are settled. -/
theorem isSettled_of_kind? {value : Json}
    (h : value.kind? = none ∨ value.kind? = some .number ∨ value.kind? = some .boolean) :
    value.IsSettled := by
  cases value with
  | null | bool | num =>
    exact ⟨fun node hnode => List.mem_singleton.1 hnode ▸ trivial,
      fun _ _ progress => ⟨progress.ledger.values, rfl⟩⟩
  | str | arr | obj => rcases h with h | h | h <;> cases h

/-- A text without at sign and slash is settled. -/
theorem isSettled_str {text : String} (h : IsElementary (.str text)) :
    (Json.str text).IsSettled := by
  obtain ⟨hat, hslash⟩ : '@' ∉ text.toList ∧ '/' ∉ text.toList := h
  have hplain : IsPlain (.str text) :=
    ⟨Pattern.count_slash_le hslash, Token.isFree_of_not_mem hat⟩
  exact ⟨fun node hnode => List.mem_singleton.1 hnode ▸ hplain, fun engine scope progress =>
    ⟨progress.ledger.values, engine.run_produceText_of_not_mem hat hslash scope progress⟩⟩

/-- An array of settled items is settled. -/
theorem isSettled_arr {items : List Json} (h : ∀ item ∈ items, item.IsSettled) :
    (Json.arr items).IsSettled := by
  refine ⟨everywhere_arr.2 ⟨trivial, fun item hitem => (h item hitem).plain⟩,
    fun engine scope progress => ?_⟩
  obtain ⟨values, hrun⟩ := engine.onlyRecords_produceItemsFrom
    (fun item hitem => (h item hitem).fixed engine scope) progress
  refine ⟨values, ?_⟩
  rw [engine.generateIn_arr, Engine.produceItems, run_map, hrun]

end Json

/-- Members with different names and without rules, whose values are settled. -/
structure Dictionary.IsSettled (members : Dictionary Json) : Prop where
  /-- The names are different. -/
  names : members.names.Nodup
  /-- No name has a rule. -/
  rules : ∀ member ∈ members, Key.split? member.1 = none
  /-- The values are settled. -/
  values : ∀ member ∈ members, member.2.IsSettled

/-- Settled members make a settled object. -/
theorem Json.isSettled_obj {members : Dictionary Json} (h : members.IsSettled) :
    (Json.obj members).IsSettled := by
  refine ⟨everywhere_obj.2 ⟨h.rules, fun member hmember => (h.values member hmember).plain⟩,
    fun engine scope progress => ?_⟩
  obtain ⟨values, hrun⟩ := engine.onlyRecords_produceEntriesFrom [] scope h.rules
    (fun member hmember => (h.values member hmember).fixed engine) h.names progress
  refine ⟨values, ?_⟩
  rw [engine.generateIn_obj, Engine.produceEntries, run_map, hrun]
  rfl

/-- A settled value under the name of a key joins settled members: what stays of a key does not
come apart again. -/
theorem Dictionary.IsSettled.set {members : Dictionary Json} (h : members.IsSettled) (key : String)
    {value : Json} (hvalue : value.IsSettled) :
    Dictionary.IsSettled (members.set (Key.name key) value) := by
  refine ⟨nodup_names_set h.names _ _, fun member hmember => ?_, fun member hmember => ?_⟩
  · rcases mem_set hmember with rfl | hold
    · exact Key.split?_name key
    · exact h.rules member hold
  · rcases mem_set hmember with rfl | hold
    · exact hvalue
    · exact h.values member hold

/-! ## Generated values -/

/-- A text without at signs and slashes is repeated, or kept, without them. -/
theorem Rule.isElementary_repeatText {text : String} (h : Json.IsElementary (.str text))
    (count : Int) :
    ∃ repeated, repeatText (.str text) count = .str repeated ∧
      Json.IsElementary (.str repeated) := by
  unfold repeatText
  split
  · refine ⟨_, rfl, ?_⟩
    have hchars : ∀ c ∈ (List.replicate count.toNat text.toList).flatten, c ∈ text.toList := by
      intro c hc
      obtain ⟨copy, hcopy, hc⟩ := List.mem_flatten.1 hc
      exact List.eq_of_mem_replicate hcopy ▸ hc
    rw [Json.IsElementary, String.toList_ofList]
    exact ⟨fun hmem => h.1 (hchars _ hmem), fun hmem => h.2 (hchars _ hmem)⟩
  · exact ⟨text, rfl, h⟩

namespace Engine

variable (engine : Engine)

/-- **A member is settled when the parts of its value are.**

**Proof sketch.** What a rule generates are parts, or arrays of parts; what it makes itself is a
number, a truth value, an empty array or a repeated text. The value itself is a result only of rules
with a point. -/
theorem gives_settled_produceEntry {member : String × Json}
    (hrule : ∀ parts ∈ Key.split? member.1, '.' ∉ parts.2.toList)
    (htext : ∀ text, member.2 = .str text → Json.IsElementary (.str text))
    (hparts : ∀ part, Json.IsPart part member.2 → ∀ scope,
      Gives (engine.generateIn part scope) Json.IsSettled) (scope : Scope) :
    Gives (produceEntry (engine.entry member) scope) Json.IsSettled := by
  intro start
  obtain ⟨finish, hfinish, houtcome⟩ := engine.exists_outcome member scope start
  rw [hfinish]
  cases houtcome with
  | part source hpart => exact hparts _ hpart _ _
  | turn hvalue hitem hrule => exact hparts _ (hvalue ▸ .item hitem) _ _
  | @picks items count source hvalue hitems =>
    have hpick : Gives (Rule.pickItem (items.map engine.generateIn)
        (scope.child (Key.name member.1))) Json.IsSettled := by
      intro reached
      obtain ⟨item, hitem, drawn, hrun⟩ :=
        Rule.run_pickItem engine.generateIn hitems (scope.child (Key.name member.1)) reached
      rw [hrun]
      exact hparts item (hvalue ▸ .item hitem) _ _
    have hpicks := hpick.many count
    exact Json.isSettled_arr (hpicks { start with source := source }).2
  | empty source hvalue => exact Json.isSettled_arr nofun
  | repeated count source hvalue =>
    rw [hvalue]
    obtain ⟨repeated, hrepeat, helementary⟩ := Rule.isElementary_repeatText (htext _ hvalue) count
    rw [hrepeat]
    exact Json.isSettled_str helementary
  | counted hrule => exact Json.isSettled_of_kind? (Or.inr (Or.inl rfl))
  | drawn source hresult => exact Json.isSettled_of_kind? (Or.inr hresult)
  | kept source hfound hfraction =>
    obtain ⟨name, text, kind, hsplit, -, hread, -⟩ := Key.of_usable?_eq_some hfound
    exact absurd (Rule.point_mem_of_read? hread hfraction) (hrule _ hsplit)

/-- Settled members stay settled when members are added whose values are. -/
theorem gives_settled_produceEntriesFrom {entries : List Entry}
    (hentry : ∀ entry ∈ entries, ∀ scope, Gives (produceEntry entry scope) Json.IsSettled)
    {made : Dictionary Json} (hmade : made.IsSettled) (scope : Scope) :
    Gives (produceEntriesFrom entries made scope) Dictionary.IsSettled := by
  induction entries generalizing made scope with
  | nil => exact gives_pure hmade
  | cons entry entries ih =>
    refine (hentry entry (List.mem_cons_self ..) scope).bind fun value hvalue => ?_
    intro reached
    exact ih (fun other ho => hentry other (List.mem_cons_of_mem _ ho))
      (hmade.set entry.key hvalue) _ _

/-- **What an elementary template is generated as is settled**, by induction over values and their
parts.

**Proof sketch.** Texts are copied, and an elementary rule puts a settled value in place of a
settled one. The object that is made has distinct names without rules, because each was cut at its
bar already. -/
theorem gives_settled {template : Json} (h : template.Everywhere Json.IsElementary)
    (scope : Scope) : Gives (engine.generateIn template scope) Json.IsSettled := by
  induction h using Json.Everywhere.parts_induction Json.selective_isElementary
    generalizing scope with
  | null => exact gives_pure (Json.isSettled_of_kind? (Or.inl rfl))
  | bool => exact gives_pure (Json.isSettled_of_kind? (Or.inr (Or.inr rfl)))
  | num => exact gives_pure (Json.isSettled_of_kind? (Or.inr (Or.inl rfl)))
  | str text hnode =>
    intro start
    obtain ⟨hat, hslash⟩ : '@' ∉ text.toList ∧ '/' ∉ text.toList := hnode.top
    rw [generateIn_str, engine.run_produceText_of_not_mem hat hslash]
    exact Json.isSettled_str hnode.top
  | arr items _ ih =>
    have hitems : ∀ producer ∈ items.map engine.generateIn,
        Gives (producer scope) Json.IsSettled := by
      intro producer hproducer
      obtain ⟨item, hitem, rfl⟩ := List.mem_map.1 hproducer
      exact ih item hitem scope
    rw [generateIn_arr]
    exact (gives_produceItemsFrom hitems).bind fun made hmade =>
      gives_pure (Json.isSettled_arr hmade)
  | obj members hnode ih =>
    have hentries : ∀ entry ∈ members.map engine.entry, ∀ inner,
        Gives (produceEntry entry inner) Json.IsSettled := by
      intro entry hentry
      obtain ⟨member, hmember, rfl⟩ := List.mem_map.1 hentry
      refine engine.gives_settled_produceEntry (hnode.top member hmember) (fun text htext => ?_)
        (ih member hmember)
      exact htext ▸ ((Json.everywhere_obj.1 hnode).2 member hmember).top
    have hempty : Dictionary.IsSettled [] := ⟨List.nodup_nil, nofun, nofun⟩
    rw [generateIn_obj]
    exact (gives_settled_produceEntriesFrom hentries hempty scope).bind fun made hmade =>
      gives_pure (Json.isSettled_obj hmade)

/-- **A generated value is a fixed point** when the texts of its template have no at signs and
slashes and no rule text of a key has a point: it has no directives left, so that every engine
generates it as it is, from no random words.

**Proof sketch.** The value is settled, and a settled value is generated as it is from the start. -/
theorem generate_generate {template : Json} (h : template.Everywhere Json.IsElementary)
    (source : Source) :
    (∀ (other : Engine) (again : Source),
      (other.generate ((engine.generate template).run source).1).run again =
        (((engine.generate template).run source).1, again)) ∧
      ((engine.generate template).run source).1.Everywhere Json.IsPlain := by
  have hsettled : ((engine.generate template).run source).1.IsSettled :=
    engine.gives_settled h Scope.root ⟨source, Ledger.empty⟩
  generalize ((engine.generate template).run source).1 = value at hsettled
  refine ⟨fun other again => ?_, hsettled.plain⟩
  obtain ⟨values, hrun⟩ := hsettled.fixed other Scope.root ⟨again, Ledger.empty⟩
  change (((other.generateIn value Scope.root).run ⟨again, Ledger.empty⟩).1,
    ((other.generateIn value Scope.root).run ⟨again, Ledger.empty⟩).2.source) = _
  rw [hrun]

/-- Keys with bars in odd places, a repeated list, and two keys of one name. -/
theorem generate_generate_bars :
    (Json.obj [("a||+1", .num (.int 1)), ("|b", .str "x|y"),
      ("c|2", .arr [.obj [("d|3", .str "z")]]), ("c|1", .null)]).Everywhere Json.IsElementary ∧
    (∀ (other : Engine) (again : Source),
      (other.generate (((standard ⟨.enUS, 0⟩).generate (.obj [("a||+1", .num (.int 1)),
        ("|b", .str "x|y"), ("c|2", .arr [.obj [("d|3", .str "z")]]), ("c|1", .null)])).run
          default).1).run again =
        ((((standard ⟨.enUS, 0⟩).generate (.obj [("a||+1", .num (.int 1)),
          ("|b", .str "x|y"), ("c|2", .arr [.obj [("d|3", .str "z")]]), ("c|1", .null)])).run
            default).1, again)) := by
  have helementary : (Json.obj [("a||+1", .num (.int 1)), ("|b", .str "x|y"),
      ("c|2", .arr [.obj [("d|3", .str "z")]]), ("c|1", .null)]).Everywhere Json.IsElementary := by
    decide
  exact ⟨helementary, (generate_generate (standard ⟨.enUS, 0⟩) helementary default).1⟩

end Engine

end Specimen

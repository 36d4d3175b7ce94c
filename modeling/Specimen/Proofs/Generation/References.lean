import Mathlib
import Specimen.Generation.Setup
import Specimen.Proofs.Generation.IdleRules
import Specimen.Proofs.Scope.Path
import Specimen.Proofs.Text.Tokens

set_option autoImplicit false

/-!
# References to paths

Every value that is generated for a property is kept in the ledger under the path of the property.
A path can be visited more than once, by the items of an array or by picks that are repeated, and
what a visit has left there stays when its value is not used. What the result does hold at a path is
nevertheless what the ledger holds there: the value comes from the last visit, and that visit has
written everything below the path that the value holds.

A reference by path, which reads the ledger, therefore means the value in the result.

## Main definitions

* `Specimen.Ledger.AgreeOutside` — two ledgers differ below a path at most.
* `Specimen.Ledger.Holds` — a ledger holds what a value holds below a path.
* `Specimen.Engine.Mirrors` — a run writes below its path only, and leaves its result there.
* `Specimen.Json.IsReferable` — names and texts that do not interfere with references.

## Main results

* `Specimen.Engine.mirrors_generateIn` — the ledger mirrors the generated value.
* `Specimen.Engine.run_generate_reference` — a reference by path means the value in the result.
-/

namespace Specimen

/-! ## Ledgers and paths -/

namespace Ledger

/-- A record is found under its own path only. -/
theorem value?_record_text (ledger : Ledger) {path other : Path} (hpath : path.IsProper)
    (hother : other.IsProper) (value : Json) :
    (ledger.record path.text value).value? other.text =
      if path = other then some value else ledger.value? other.text := by
  have htext : path.text = other.text ↔ path = other :=
    ⟨Path.text_injective hpath.isPlain hother.isPlain, congrArg Path.text⟩
  simp only [value?_record, htext]

/-- Two ledgers have the same values at all paths but those that go on below a path. -/
def AgreeOutside (path : Path) (first second : Ledger) : Prop :=
  ∀ other : Path, other.IsProper → (∀ chain, chain ≠ [] → other ≠ path ++ chain) →
    second.value? other.text = first.value? other.text

namespace AgreeOutside

variable {path : Path} {first second third : Ledger}

theorem refl (path : Path) (ledger : Ledger) : AgreeOutside path ledger ledger :=
  fun _ _ _ => rfl

theorem trans (h1 : AgreeOutside path first second) (h2 : AgreeOutside path second third) :
    AgreeOutside path first third :=
  fun other hproper hother => (h2 other hproper hother).trans (h1 other hproper hother)

/-- What is below a property is below the place of the property. -/
theorem widen {name : String} (h : AgreeOutside (path ++ [name]) first second) :
    AgreeOutside path first second := fun other hproper hother =>
  h other hproper fun chain _ => by
    rw [List.append_assoc]
    exact hother _ (by simp)

/-- The value of a property is kept below the place of the property. -/
theorem record {name : String} (h : AgreeOutside path first second)
    (hproper : Path.IsProper (path ++ [name])) (value : Json) :
    AgreeOutside path first (second.record (Path.text (path ++ [name])) value) := by
  intro other hother hout
  rw [value?_record_text second hproper hother, if_neg (hout [name] (by simp)).symm]
  exact h other hother hout

end AgreeOutside

/-- The ledger holds, below a path, what a value holds at its paths. -/
def Holds (ledger : Ledger) (path : Path) (value : Json) : Prop :=
  ∀ (chain : Path) (found : Json), chain ≠ [] → value.at? chain = some found →
    chain.IsProper ∧ ledger.value? (Path.text (path ++ chain)) = some found

/-- In a value that is no object there is nothing to hold. -/
theorem holds_of_kind? {ledger : Ledger} {path : Path} {value : Json}
    (h : value.kind? ≠ some .object) : ledger.Holds path value := by
  intro chain found hne hfound
  rw [Json.at?_eq_none h hne] at hfound
  cases hfound

/-- **What one member adds**: its value has been generated below its own path, and is then kept
there; the members before it have stayed as they were.

**Proof sketch.** A path into the object begins with some name. With the name of the new member it
leads to the value, which is kept last, or on into it. With another name it leads where it led
before, and neither the generation of the value nor its record is at that path. -/
theorem Holds.set {path : Path} {name : String} {made : Dictionary Json} {value : Json}
    {before after : Ledger} (hpath : path.IsProper) (hname : IsReferenceName name)
    (hmade : before.Holds path (.obj made)) (hframe : AgreeOutside (path ++ [name]) before after)
    (hvalue : after.Holds (path ++ [name]) value) :
    (after.record (Path.text (path ++ [name])) value).Holds path (.obj (made.set name value)) := by
  have hproper := hpath.concat hname
  intro chain found hne hfound
  obtain ⟨head, rest, rfl⟩ := List.exists_cons_of_ne_nil hne
  rw [Json.at?, Dictionary.get?_set] at hfound
  by_cases hhead : name = head
  · subst hhead
    rw [if_pos rfl, Option.bind_some] at hfound
    by_cases hrest : rest = []
    · subst hrest
      obtain rfl : value = found := Option.some.inj hfound
      refine ⟨fun n hn => List.mem_singleton.1 hn ▸ hname, ?_⟩
      rw [value?_record_text after hproper hproper, if_pos rfl]
    · obtain ⟨hchain, hheld⟩ := hvalue rest found hrest hfound
      have happend : path ++ name :: rest = path ++ [name] ++ rest := by simp
      have hlong : path ++ [name] ≠ path ++ [name] ++ rest := by simpa using hrest
      refine ⟨List.forall_mem_cons.2 ⟨hname, hchain⟩, ?_⟩
      rw [happend, value?_record_text after hproper (hproper.append hchain), if_neg hlong]
      exact hheld
  · rw [if_neg hhead] at hfound
    obtain ⟨hchain, hheld⟩ := hmade (head :: rest) found (by simp) hfound
    have hwhole : Path.IsProper (path ++ head :: rest) := hpath.append hchain
    have hout : ∀ further, path ++ head :: rest ≠ path ++ [name] ++ further := fun further h => by
      simp only [List.append_assoc, List.append_cancel_left_eq, List.cons_append,
        List.cons.injEq] at h
      exact hhead h.1.symm
    have hother : path ++ [name] ≠ path ++ head :: rest := by simpa using (hout []).symm
    refine ⟨hchain, ?_⟩
    rw [value?_record_text after hproper hwhole, if_neg hother,
      hframe _ hwhole fun further _ => hout further]
    exact hheld

end Ledger

/-! ## Runs and paths -/

/-- A text without at sign and slash, or an object whose members have names for references and no
usable rules with a point on values that have parts, as when no text of a rule there has a
point. -/
def Json.IsReferable : Json → Prop
  | .str text => '@' ∉ text.toList ∧ '/' ∉ text.toList
  | .obj members => (∀ member ∈ members, IsReferenceName (Key.name member.1)) ∧
      HasFlatFractions (.obj members)
  | _ => True

instance : DecidablePred Json.IsReferable
  | .str text => inferInstanceAs (Decidable ('@' ∉ text.toList ∧ '/' ∉ text.toList))
  | .obj members => inferInstanceAs (Decidable ((∀ member ∈ members,
      IsReferenceName (Key.name member.1)) ∧ Json.HasFlatFractions (.obj members)))
  | .null | .bool _ | .num _ | .arr _ => isTrue trivial

theorem Json.selective_isReferable : Json.Selective Json.IsReferable :=
  fun chosen members hsub h => ⟨fun member hm => h.1 member (hsub member hm),
    Json.selective_hasFlatFractions chosen members hsub h.2⟩

namespace Engine

/-- The ledger is written below a path only. -/
def WritesBelow (path : Path) (start finish : Progress) : Prop :=
  start.ledger.AgreeOutside path finish.ledger

/-- A run that starts at a path writes below the path only, and leaves its result there. -/
structure Mirrors (path : Path) (start : Progress) (finish : Json × Progress) : Prop where
  /-- The ledger holds the result. -/
  holds : finish.2.ledger.Holds path finish.1
  /-- What is not below the path has stayed. -/
  frame : WritesBelow path start finish.2

theorem writesBelow_refl (path : Path) (start : Progress) : WritesBelow path start start :=
  .refl path start.ledger

theorem writesBelow_trans (path : Path) (start middle finish : Progress)
    (h1 : WritesBelow path start middle) (h2 : WritesBelow path middle finish) :
    WritesBelow path start finish :=
  h1.trans h2

/-- A result that is no object is mirrored when nothing was written outside the path. -/
theorem mirrors_of_kind? {path : Path} {start : Progress} {finish : Json × Progress}
    (hkind : finish.1.kind? ≠ some .object) (hframe : WritesBelow path start finish.2) :
    Mirrors path start finish :=
  ⟨Ledger.holds_of_kind? hkind, hframe⟩

/-- A text that is repeated, or kept, is a text. -/
theorem kind?_repeatText (text : String) (count : Int) :
    (Rule.repeatText (.str text) count).kind? = some .string := by
  unfold Rule.repeatText
  split <;> rfl

variable (engine : Engine)

/-- **A member is mirrored when the parts of its value are.**

**Proof sketch.** Where a rule generates a part of the value, the part is mirrored; where it picks
many items, the result is an array, and each pick writes below the path. All other results are no
objects: the value itself is a result only of rules with a point, and then it has no parts. -/
theorem mirrors_produceEntry {member : String × Json} {path : Path} {scope : Scope}
    (hflat : member.2.isContainer = true →
      ∀ rule ∈ Key.usable? member.1 member.2, rule.isFraction = false)
    (hparts : ∀ part, Json.IsPart part member.2 → ∀ start,
      Mirrors path start ((engine.generateIn part (scope.child (Key.name member.1))).run start))
    (start : Progress) :
    Mirrors path start ((produceEntry (engine.entry member) scope).run start) := by
  have hrefl := writesBelow_refl path start
  obtain ⟨finish, hfinish, houtcome⟩ := engine.exists_outcome member scope start
  rw [hfinish]
  cases houtcome with
  | part source hpart =>
    obtain ⟨hholds, hframe⟩ := hparts _ hpart { start with source := source }
    exact ⟨hholds, hframe⟩
  | turn hvalue hitem hrule =>
    -- The counter of the turn is no value, so the run of the item starts with the same values.
    rw [hvalue] at hparts
    obtain ⟨hholds, hframe⟩ := hparts _ (.item hitem) _
    exact ⟨hholds, hframe⟩
  | picks count source hvalue hitems =>
    rw [hvalue] at hparts
    refine mirrors_of_kind? nofun (Gen.keeps_many (writesBelow_refl path) (writesBelow_trans path)
      (fun reached => ?_) count { start with source := source })
    obtain ⟨item, hitem, drawn, hrun⟩ :=
      Rule.run_pickItem engine.generateIn hitems (scope.child (Key.name member.1)) reached
    rw [hrun]
    exact (hparts item (.item hitem) _).frame
  | empty source hvalue => exact mirrors_of_kind? nofun hrefl
  | repeated count source hvalue =>
    exact mirrors_of_kind? (by rw [hvalue, kind?_repeatText]; exact nofun) hrefl
  | counted hrule => exact mirrors_of_kind? nofun hrefl
  | drawn source hresult =>
    refine mirrors_of_kind? ?_ hrefl
    rcases hresult with h | h <;> rw [h] <;> exact nofun
  | kept source hrule hfraction =>
    refine mirrors_of_kind? ?_ hrefl
    intro hkind
    have hobject : ∃ members, member.2 = .obj members := Json.exists_eq_obj hkind
    obtain ⟨members, hvalue⟩ := hobject
    have hnone := hflat (by rw [hvalue]; rfl) _ hrule
    rw [hfraction] at hnone
    cases hnone

/-- **Members that are mirrored make an object that is mirrored**: the loop keeps the ledger in step
with what has been made.

**Proof sketch.** By induction on the members. A member is mirrored under its own name and changes
nothing at other names of the object, so that what was made before it stays mirrored when its value
is kept. -/
theorem mirrors_produceEntriesFrom {members : List (String × Json)} {path : Path}
    (hpath : path.IsProper) (hnames : ∀ member ∈ members, IsReferenceName (Key.name member.1))
    (hentry : ∀ member ∈ members, ∀ scope : Scope, scope.path = path.text → ∀ start,
      Mirrors (path ++ [Key.name member.1]) start
        ((produceEntry (engine.entry member) scope).run start))
    {made : Dictionary Json} {scope : Scope} (hscope : scope.path = path.text) (start : Progress)
    (hmade : start.ledger.Holds path (.obj made)) :
    Mirrors path start
      ((produceEntriesFrom (members.map engine.entry) made scope).run start |>.map .obj id) := by
  induction members generalizing made scope start with
  | nil => exact ⟨hmade, writesBelow_refl path start⟩
  | cons member members ih =>
    have hname := hnames member (List.mem_cons_self ..)
    obtain ⟨hholds, hframe⟩ := hentry member (List.mem_cons_self ..) scope hscope start
    have hkey : scope.key (Key.name (engine.entry member).key) =
        Path.text (path ++ [Key.name member.1]) := Scope.key_eq_text hpath.isPlain hscope _
    rw [List.map_cons, run_produceEntriesFrom_cons, hkey]
    generalize (produceEntry (engine.entry member) scope).run start = reached at hholds hframe ⊢
    have hnext : (scope.record (Key.name (engine.entry member).key) reached.1).path = path.text :=
      hscope
    have hrest := ih (fun other ho => hnames other (List.mem_cons_of_mem _ ho))
      (fun other ho => hentry other (List.mem_cons_of_mem _ ho)) hnext
      { reached.2 with
        ledger := reached.2.ledger.record (Path.text (path ++ [Key.name member.1])) reached.1 }
      (hmade.set hpath hname hframe hholds)
    exact ⟨hrest.holds, (hframe.widen.record (hpath.concat hname) reached.1).trans hrest.frame⟩

/-- **The ledger mirrors the generated value**: a run that starts at a path writes below the path
only, and what its result holds the ledger holds below the path.

**Proof sketch.** By induction over values and their parts. A text without directives is itself. An
array is no object, and its items write below the path. The members of an object are mirrored at
their own paths because the parts of their values are. -/
theorem mirrors_generateIn {template : Json} (h : template.Everywhere Json.IsReferable)
    (path : Path) (hpath : path.IsProper) {scope : Scope} (hscope : scope.path = path.text)
    (start : Progress) : Mirrors path start ((engine.generateIn template scope).run start) := by
  induction h using Json.Everywhere.parts_induction Json.selective_isReferable
    generalizing path scope start with
  | null => exact mirrors_of_kind? nofun (writesBelow_refl path start)
  | bool => exact mirrors_of_kind? nofun (writesBelow_refl path start)
  | num => exact mirrors_of_kind? nofun (writesBelow_refl path start)
  | str text hnode =>
    obtain ⟨hat, hslash⟩ : '@' ∉ text.toList ∧ '/' ∉ text.toList := hnode.top
    rw [generateIn_str, engine.run_produceText_of_not_mem hat hslash]
    exact mirrors_of_kind? nofun (writesBelow_refl path start)
  | arr items _ ih =>
    rw [generateIn_arr]
    refine mirrors_of_kind? nofun (keeps_produceItemsFrom (writesBelow_refl path)
      (writesBelow_trans path) (fun producer hp reached => ?_) start)
    obtain ⟨item, hitem, rfl⟩ := List.mem_map.1 hp
    exact (ih item hitem path hpath hscope reached).frame
  | obj members hnode ih =>
    obtain ⟨hnames, hflat⟩ : (∀ member ∈ members, IsReferenceName (Key.name member.1)) ∧
      Json.HasFlatFractions (.obj members) := hnode.top
    rw [generateIn_obj]
    refine engine.mirrors_produceEntriesFrom hpath hnames (fun member hmember inner hinner => ?_)
      hscope start ?_
    · refine engine.mirrors_produceEntry (hflat member hmember) fun part hpart reached => ?_
      exact ih member hmember part hpart _ (hpath.concat (hnames member hmember))
        (Scope.key_eq_text hpath.isPlain hinner _) reached
    · intro chain found hne hfound
      obtain ⟨name, rest, rfl⟩ := List.exists_cons_of_ne_nil hne
      cases hfound

/-! ## References -/

/-- A single token that means a value is that value. -/
theorem run_resolve_reference {references : References} {name : List Char} {value : Json}
    (hwhole : Token.whole? ('@' :: name) = some ⟨name, none⟩)
    (hvalue : references (String.ofList name) = some value) (source : Source) :
    (engine.resolve references ('@' :: name)).run source = (value, source) := by
  rw [resolve, hwhole]
  simp only [engine.resolveToken_of_value hvalue]
  rfl

/-- A text that is a reference means what the reference means, and nothing is drawn. -/
theorem run_produceText_reference {first : String} {rest : Path}
    (hproper : Path.IsProper (first :: rest))
    (hletter : first.toList.head?.any Text.isAsciiLetter = true) {scope : Scope}
    {progress : Progress} {value : Json}
    (hvalue : scope.find? progress.ledger (Path.text (first :: rest)) = some value) :
    (engine.produceText ("@" ++ Path.text (first :: rest)) scope).run progress =
      (value, progress) := by
  have hchars : ("@" ++ Path.text (first :: rest)).toList =
      '@' :: (Path.text (first :: rest)).toList := by rw [String.toList_append]; rfl
  have hslash : ('@' :: (Path.text (first :: rest)).toList).count '/' ≤ 1 := by
    refine Pattern.count_slash_le fun hmem => ?_
    rcases List.mem_cons.1 hmem with h | h
    · cases h
    · rcases Path.mem_text hproper h with hname | hpoint
      · cases hname
      · cases hpoint
  have hfind : scope.find? progress.ledger (String.ofList (Path.text (first :: rest)).toList) =
      some value := by
    rw [String.ofList_toList, hvalue]
  have hexpand := Pattern.run_expand_of_count_le hslash progress.source
  have hresolve := engine.run_resolve_reference (Path.whole?_text hproper hletter) hfind
    progress.source
  rw [run_produceText, hchars, hexpand, hresolve]

/-- A name of a generated object was there before or is that of an entry. -/
theorem mem_names_produceEntriesFrom {name : String} {entries : List Entry} {made : Dictionary Json}
    {scope : Scope} {start : Progress}
    (h : name ∈ ((produceEntriesFrom entries made scope).run start).1.names) :
    name ∈ made.names ∨ ∃ entry ∈ entries, Key.name entry.key = name := by
  induction entries generalizing made scope start with
  | nil => exact Or.inl h
  | cons entry entries ih =>
    rw [run_produceEntriesFrom_cons] at h
    rcases ih h with hmade | ⟨other, hother, hname⟩
    · rcases Dictionary.mem_names_set.1 hmade with rfl | hmade
      · exact Or.inr ⟨entry, List.mem_cons_self .., rfl⟩
      · exact Or.inl hmade
    · exact Or.inr ⟨other, List.mem_cons_of_mem _ hother, hname⟩

/-- A reference behind the other members adds the value that the ledger then holds at its path. -/
theorem run_produceEntriesFrom_reference {entries : List Entry} {made : Dictionary Json}
    {scope : Scope} {start : Progress} {finish : Dictionary Json × Progress}
    (hrun : (produceEntriesFrom entries made scope).run start = finish) {reference : String}
    (hbar : '|' ∉ reference.toList) (hnew : reference ∉ finish.1.names) {first : String}
    {rest : Path} (hproper : Path.IsProper (first :: rest))
    (hletter : first.toList.head?.any Text.isAsciiLetter = true) (hrest : rest ≠ []) {value : Json}
    (hvalue : finish.2.ledger.value? (Path.text (first :: rest)) = some value) :
    ∃ ledger, (produceEntriesFrom (entries ++
        [engine.entry (reference, .str ("@" ++ Path.text (first :: rest)))]) made scope).run start =
      (finish.1 ++ [(reference, value)], ⟨finish.2.source, ledger⟩) := by
  have hsplit : Key.split? reference = none := Key.split?_eq_none hbar
  have hname : Key.name reference = reference := Key.name_eq_self hsplit
  have hlast := run_produceEntriesFrom_append entries
    [engine.entry (reference, .str ("@" ++ Path.text (first :: rest)))] made scope start
  generalize scope.recordAll _ = last at hlast
  have hplain : ∀ text : String, produceEntry (engine.entry (reference, .str text)) last =
      engine.produceText text (last.child reference) :=
    fun text => engine.produceEntry_of_split? hsplit last
  have hentry : (produceEntry (engine.entry
      (reference, .str ("@" ++ Path.text (first :: rest)))) last).run finish.2 =
      (value, finish.2) := by
    rw [hplain]
    exact engine.run_produceText_reference hproper hletter
      ((Scope.find?_text _ _ first hrest).trans hvalue)
  rw [hlast, hrun, run_produceEntriesFrom_cons, hentry]
  simp only [entry, hname, Dictionary.set_eq_append hnew]
  exact ⟨_, rfl⟩

/-- **A reference by path means the value in the result.** When a template generates an object that
holds a value at a path of at least two names, the template with a reference to the path as one more
member generates the same object with that value as one more member, of the same kind and from the
same source.

**Proof sketch.** The ledger mirrors the object when all members but the last have been generated.
The last reads the ledger at the path, and its name, being new, goes to the end. -/
theorem run_generate_reference {members : List (String × Json)}
    (htemplate : (Json.obj members).Everywhere Json.IsReferable)
    (hletters : ∀ member ∈ members,
      (Key.name member.1).toList.head?.any Text.isAsciiLetter = true)
    {reference : String} (hbar : '|' ∉ reference.toList)
    (hfresh : ∀ member ∈ members, Key.name member.1 ≠ reference)
    {path : Path} (hpath : 2 ≤ path.length) {source : Source} {value : Json}
    (hvalue : ((engine.generate (.obj members)).run source).1.at? path = some value) :
    ∃ made finish, (engine.generate (.obj members)).run source = (.obj made, finish) ∧
      (engine.generate (.obj (members ++ [(reference, .str ("@" ++ path.text))]))).run source =
        (.obj (made ++ [(reference, value)]), finish) := by
  obtain ⟨finish, hrun⟩ : ∃ finish, (produceEntriesFrom (members.map engine.entry) []
    Scope.root).run ⟨source, Ledger.empty⟩ = finish := ⟨_, rfl⟩
  have hgenerate : (engine.generate (.obj members)).run source =
      (.obj finish.1, finish.2.source) := by
    rw [run_generate_obj, hrun]
  have hmirrors := engine.mirrors_generateIn htemplate [] nofun
    (show Scope.root.path = Path.text [] from rfl) ⟨source, Ledger.empty⟩
  rw [generateIn_obj, produceEntries, run_map, hrun] at hmirrors
  have hnames : ∀ name ∈ finish.1.names, ∃ member ∈ members, Key.name member.1 = name := by
    intro name hname
    rw [← hrun] at hname
    rcases mem_names_produceEntriesFrom hname with h | ⟨entry, hentry, hkey⟩
    · cases h
    · obtain ⟨member, hmember, rfl⟩ := List.mem_map.1 hentry
      exact ⟨member, hmember, hkey⟩
  rw [hgenerate] at hvalue
  obtain ⟨first, rest, rfl⟩ := List.exists_cons_of_length_pos (by omega : 0 < path.length)
  obtain ⟨hproper, hheld⟩ := hmirrors.holds (first :: rest) value (by simp) hvalue
  have hletter : first.toList.head?.any Text.isAsciiLetter = true := by
    -- The path leads somewhere, so its first name is that of a member of the template.
    obtain ⟨inner, hinner, -⟩ := Option.bind_eq_some_iff.1 hvalue
    obtain ⟨member, hmember, rfl⟩ := hnames first (Dictionary.mem_names_of_get? hinner)
    exact hletters member hmember
  have hnew : reference ∉ finish.1.names := fun hname => by
    obtain ⟨member, hmember, heq⟩ := hnames reference hname
    exact hfresh member hmember heq
  have hrest : rest ≠ [] := by
    rintro rfl
    simp at hpath
  obtain ⟨ledger, hlast⟩ := engine.run_produceEntriesFrom_reference hrun hbar hnew hproper hletter
    hrest hheld
  refine ⟨finish.1, finish.2.source, hgenerate, ?_⟩
  rw [run_generate_obj, List.map_append, List.map_singleton, hlast]

/-- The path leads into an item of an array that takes the place of the array. -/
theorem run_generate_reference_turn :
    (Json.obj [("user|+1", .arr [.obj [("id", .num (.int 7))], .null])]).Everywhere
        Json.IsReferable ∧
      (((standard ⟨.enUS, 0⟩).generate
        (.obj [("user|+1", .arr [.obj [("id", .num (.int 7))], .null])])).run default).1.at?
          ["user", "id"] = some (.num (.int 7)) ∧
      ∃ made finish,
        ((standard ⟨.enUS, 0⟩).generate
          (.obj [("user|+1", .arr [.obj [("id", .num (.int 7))], .null])])).run default =
            (.obj made, finish) ∧
        ((standard ⟨.enUS, 0⟩).generate
          (.obj [("user|+1", .arr [.obj [("id", .num (.int 7))], .null]),
            ("copy", .str ("@" ++ Path.text ["user", "id"]))])).run default =
            (.obj (made ++ [("copy", .num (.int 7))]), finish) := by
  have htemplate : (Json.obj [("user|+1", .arr [.obj [("id", .num (.int 7))], .null])]).Everywhere
      Json.IsReferable := by decide
  have hvalue : (((standard ⟨.enUS, 0⟩).generate
      (.obj [("user|+1", .arr [.obj [("id", .num (.int 7))], .null])])).run default).1.at?
        ["user", "id"] = some (.num (.int 7)) := by cbv
  exact ⟨htemplate, hvalue, run_generate_reference _ htemplate (by decide) (by decide) (by decide)
    (by decide) hvalue⟩

end Engine

end Specimen

import Specimen.Proofs.Generation.PlainTemplate
import Specimen.Proofs.Json.Scalars

set_option autoImplicit false

/-!
# Values that are read back

Both printed forms of a value differ in spaces only, which stand in front of items, members and
closing brackets and behind colons. A value is read back from either of them when no array or object
is nested too deeply, when its numbers are integers that sixty-four bits can hold, and when its
objects have each key once. A template without directives is then generated as the text that it was
read from.

## Main definitions

* `Specimen.Json.joined` — texts with commas between them.
* `Specimen.Json.Layout` — a way to write values, with spaces around items and members.
* `Specimen.Json.Layout.compact`, `Specimen.Json.Layout.pretty` — the two printed forms.

## Main results

* `Specimen.Json.readItems_joined`, `Specimen.Json.readMembers_joined` — items and members are read
  back.
* `Specimen.Json.Layout.reads` — a value is read back from any layout.
* `Specimen.Json.readTemplate?_render` — the boundary of texts loses nothing.
-/

namespace Specimen.Json

/-! ## Items and members -/

/-- Texts with commas between them, each behind the same lead. -/
def joined (lead : List Char) : List (List Char) → List Char
  | [] => []
  | [text] => lead ++ text
  | text :: texts => lead ++ (text ++ ',' :: joined lead texts)

theorem joined_cons_cons (lead text second : List Char) (texts : List (List Char)) :
    joined lead (text :: second :: texts) =
      lead ++ (text ++ ',' :: joined lead (second :: texts)) := rfl

/-- Joined texts begin with the first of them. -/
theorem exists_joined_cons (lead text : List Char) (texts : List (List Char)) :
    ∃ behind, joined lead (text :: texts) = lead ++ (text ++ behind) := by
  cases texts with
  | nil => exact ⟨[], by rw [joined, List.append_nil]⟩
  | cons second texts => exact ⟨_, joined_cons_cons ..⟩

/-- Each text that is not empty takes at least one character. -/
theorem length_le_length_joined {α : Type} (lead : List Char) {write : α → List Char}
    {items : List α} (h : ∀ item ∈ items, write item ≠ []) :
    items.length ≤ (joined lead (items.map write)).length := by
  induction items with
  | nil => exact Nat.zero_le _
  | cons item items ih =>
    have hpos : 0 < (write item).length := List.length_pos_iff.2 (h item (List.mem_cons_self ..))
    cases items with
    | nil =>
      simp only [List.map_cons, List.map_nil, joined, List.length_append, List.length_cons,
        List.length_nil]
      omega
    | cons second items =>
      have hmore := ih fun other ho => h other (List.mem_cons_of_mem _ ho)
      simp only [List.map_cons, joined_cons_cons, List.length_append, List.length_cons] at hmore ⊢
      omega

/-- How a member is written, with a gap behind its colon. -/
def memberText (gap : List Char) (write : Json → List Char) (member : String × Json) : List Char :=
  quote member.1 ++ ':' :: (gap ++ write member.2)

theorem memberText_ne_nil (gap : List Char) (write : Json → List Char) (member : String × Json) :
    memberText gap write member ≠ [] := by simp [memberText, quote]

/-- A member begins with the quotation mark of its name. -/
theorem skipSpaces_memberText (gap : List Char) (write : Json → List Char)
    (member : String × Json) (more : List Char) :
    skipSpaces (memberText gap write member ++ more) =
      '"' :: (member.1.toList.flatMap escape ++
        '"' :: ':' :: (gap ++ (write member.2 ++ more))) := by
  simp [memberText, quote, skipSpaces, isSpace]

section Lists

variable {item : ValueReader} {lead gap trail : List Char} (hlead : IsSpaces lead)
  (hgap : IsSpaces gap) (htrail : IsSpaces trail) {write : Json → List Char}

include hlead in
/-- In front of the first text the lead is skipped. -/
theorem exists_skipSpaces_joined (text : List Char) (texts : List (List Char))
    (after : List Char) :
    ∃ behind, skipSpaces (joined lead (text :: texts) ++ after) = skipSpaces (text ++ behind) := by
  obtain ⟨behind, hjoined⟩ := exists_joined_cons lead text texts
  refine ⟨behind ++ after, ?_⟩
  rw [hjoined, List.append_assoc, hlead.skipSpaces, List.append_assoc]

include hlead in
/-- An item before a comma is followed by others. -/
theorem readItems_comma {value : Json} (h : Reads item (write value) value) (bound : Nat)
    (more : List Char) :
    readItems item (bound + 1) (lead ++ (write value ++ ',' :: more)) =
      (readItems item bound more).map fun (values, rest) => (value :: values, rest) := by
  have hcomma : skipSpaces (',' :: more) = ',' :: more := rfl
  rw [readItems, hlead.skipSpaces, h.skipSpaces, h.reads _ (endsNumber_cons (by decide) _)]
  simp only [Option.bind_eq_bind, Option.bind_some, hcomma]
  cases readItems item bound more <;> rfl

include hlead htrail in
/-- An item before the bracket is the last. -/
theorem readItems_close {value : Json} (h : Reads item (write value) value) (bound : Nat)
    (rest : List Char) :
    readItems item (bound + 1) (lead ++ (write value ++ (trail ++ ']' :: rest))) =
      some ([value], rest) := by
  have hclose : skipSpaces (trail ++ ']' :: rest) = ']' :: rest := htrail.skipSpaces _
  have hends : EndsNumber (trail ++ ']' :: rest) :=
    htrail.endsNumber (endsNumber_cons (by decide) _)
  rw [readItems, hlead.skipSpaces, h.skipSpaces, h.reads _ hends]
  simp only [Option.bind_eq_bind, Option.bind_some, hclose]

include hlead htrail in
/-- **Items are read back** up to the bracket.

**Proof sketch.** By induction on the items. Each one is read up to the comma or the bracket behind
it, whatever spaces stand around it. -/
theorem readItems_joined {items : List Json} (hne : items ≠ [])
    (hitems : ∀ value ∈ items, Reads item (write value) value) {bound : Nat}
    (hbound : items.length ≤ bound) (rest : List Char) :
    readItems item bound (joined lead (items.map write) ++ (trail ++ ']' :: rest)) =
      some (items, rest) := by
  induction items generalizing bound with
  | nil => exact absurd rfl hne
  | cons value items ih =>
    have hvalue := hitems value (List.mem_cons_self ..)
    obtain ⟨bound, rfl⟩ : ∃ less, bound = less + 1 :=
      ⟨bound - 1, by rw [List.length_cons] at hbound; omega⟩
    cases items with
    | nil =>
      rw [List.map_cons, List.map_nil, joined, List.append_assoc]
      exact readItems_close hlead htrail hvalue bound rest
    | cons second items =>
      have hmore := ih (by simp) (fun other ho => hitems other (List.mem_cons_of_mem _ ho))
        (Nat.le_of_succ_le_succ hbound)
      rw [List.map_cons, List.map_cons, joined_cons_cons, List.append_assoc, List.append_assoc,
        List.cons_append, readItems_comma hlead hvalue, ← List.map_cons, hmore]
      rfl

include hlead hgap in
/-- A member before a comma is followed by others. -/
theorem readMembers_comma {member : String × Json} (h : Reads item (write member.2) member.2)
    (bound : Nat) (more : List Char) :
    readMembers item (bound + 1) (lead ++ (memberText gap write member ++ ',' :: more)) =
      (readMembers item bound more).map fun (members, rest) => (member :: members, rest) := by
  have hcolon : ∀ after, skipSpaces (':' :: after) = ':' :: after := fun _ => rfl
  have hcomma : skipSpaces (',' :: more) = ',' :: more := rfl
  have hends : EndsNumber (',' :: more) := endsNumber_cons (by decide) _
  rw [readMembers, hlead.skipSpaces, skipSpaces_memberText]
  simp only [readText_flatMap_escape, hcolon, hgap.skipSpaces, h.skipSpaces, h.reads _ hends,
    Option.bind_eq_bind, Option.bind_some, String.ofList_toList, hcomma]
  cases readMembers item bound more <;> rfl

include hlead hgap htrail in
/-- A member before the brace is the last. -/
theorem readMembers_close {member : String × Json} (h : Reads item (write member.2) member.2)
    (bound : Nat) (rest : List Char) :
    readMembers item (bound + 1)
        (lead ++ (memberText gap write member ++ (trail ++ '}' :: rest))) =
      some ([member], rest) := by
  have hcolon : ∀ after, skipSpaces (':' :: after) = ':' :: after := fun _ => rfl
  have hclose : skipSpaces (trail ++ '}' :: rest) = '}' :: rest := htrail.skipSpaces _
  have hends : EndsNumber (trail ++ '}' :: rest) :=
    htrail.endsNumber (endsNumber_cons (by decide) _)
  rw [readMembers, hlead.skipSpaces, skipSpaces_memberText]
  simp only [readText_flatMap_escape, hcolon, hgap.skipSpaces, h.skipSpaces, h.reads _ hends,
    Option.bind_eq_bind, Option.bind_some, String.ofList_toList, hclose]

include hlead hgap htrail in
/-- **Members are read back** up to the brace. -/
theorem readMembers_joined {members : List (String × Json)} (hne : members ≠ [])
    (hmembers : ∀ member ∈ members, Reads item (write member.2) member.2) {bound : Nat}
    (hbound : members.length ≤ bound) (rest : List Char) :
    readMembers item bound
        (joined lead (members.map (memberText gap write)) ++ (trail ++ '}' :: rest)) =
      some (members, rest) := by
  induction members generalizing bound with
  | nil => exact absurd rfl hne
  | cons member members ih =>
    have hmember := hmembers member (List.mem_cons_self ..)
    obtain ⟨bound, rfl⟩ : ∃ less, bound = less + 1 :=
      ⟨bound - 1, by rw [List.length_cons] at hbound; omega⟩
    cases members with
    | nil =>
      rw [List.map_cons, List.map_nil, joined, List.append_assoc]
      exact readMembers_close hlead hgap htrail hmember bound rest
    | cons second members =>
      have hmore := ih (by simp) (fun other ho => hmembers other (List.mem_cons_of_mem _ ho))
        (Nat.le_of_succ_le_succ hbound)
      rw [List.map_cons, List.map_cons, joined_cons_cons, List.append_assoc, List.append_assoc,
        List.cons_append, readMembers_comma hlead hgap hmember, ← List.map_cons, hmore]
      rfl

end Lists

/-! ## Layouts -/

/-- A way to write values: scalars in their compact form, items and members with commas between them
and spaces around them that depend on the level. -/
structure Layout where
  /-- How a value is written at a level. -/
  write : Nat → Json → List Char
  /-- What stands in front of items, members and closing brackets at a level. -/
  line : Nat → List Char
  /-- What stands behind colons. -/
  gap : List Char
  /-- Nothing but spaces stands in front. -/
  isSpaces_line : ∀ level, IsSpaces (line level)
  /-- Nothing but spaces stands behind colons. -/
  isSpaces_gap : IsSpaces gap
  /-- Scalars have their compact form. -/
  write_scalar : ∀ level value, value.depth = 0 → write level value = Json.compact value
  /-- An array without items is closed at once. -/
  write_arr_nil : ∀ level, write level (.arr []) = ['[', ']']
  /-- An object without members is closed at once. -/
  write_obj_nil : ∀ level, write level (.obj []) = ['{', '}']
  /-- Items stand one level further in. -/
  write_arr : ∀ level items, items ≠ [] → write level (.arr items) =
    '[' :: (joined (line (level + 1)) (items.map (write (level + 1))) ++ (line level ++ [']']))
  /-- Members stand one level further in. -/
  write_obj : ∀ level members, members ≠ [] → write level (.obj members) =
    '{' :: (joined (line (level + 1)) (members.map (memberText gap (write (level + 1)))) ++
      (line level ++ ['}']))

theorem compactItems_eq (items : List Json) :
    compactItems items = joined [] (items.map compact) := by
  induction items with
  | nil => rfl
  | cons item items ih =>
    cases items with
    | nil => rfl
    | cons second items => rw [compactItems.eq_3 _ _ (by simp), ih]; rfl

theorem compactMembers_eq (members : List (String × Json)) :
    compactMembers members = joined [] (members.map (memberText [] compact)) := by
  induction members with
  | nil => rfl
  | cons member members ih =>
    obtain ⟨name, value⟩ := member
    cases members with
    | nil => rfl
    | cons second members =>
      rw [compactMembers.eq_3 _ _ _ (by simp), ih]
      simp [joined, memberText]

theorem prettyItems_eq (level : Nat) (items : List Json) :
    prettyItems level items = joined (lineAt level) (items.map (prettyAt level)) := by
  induction items with
  | nil => rfl
  | cons item items ih =>
    cases items with
    | nil => rfl
    | cons second items => rw [prettyItems.eq_3 _ _ _ (by simp), ih]; rfl

theorem prettyMembers_eq (level : Nat) (members : List (String × Json)) :
    prettyMembers level members =
      joined (lineAt level) (members.map (memberText [' '] (prettyAt level))) := by
  induction members with
  | nil => rfl
  | cons member members ih =>
    obtain ⟨name, value⟩ := member
    cases members with
    | nil => rfl
    | cons second members =>
      rw [prettyMembers.eq_3 _ _ _ _ (by simp), ih]
      simp [joined, memberText]

/-- A new line and its indentation are spaces. -/
theorem isSpaces_lineAt (level : Nat) : IsSpaces (lineAt level) := by
  intro c hc
  rcases List.mem_cons.1 hc with rfl | hblank
  · rfl
  · rw [List.eq_of_mem_replicate hblank]
    rfl

namespace Layout

/-- The compact form. -/
def compact : Layout where
  write _ := Json.compact
  line _ := []
  gap := []
  isSpaces_line _ := nofun
  isSpaces_gap := nofun
  write_scalar _ _ _ := rfl
  write_arr_nil _ := rfl
  write_obj_nil _ := rfl
  write_arr _ items _ := by rw [Json.compact, compactItems_eq]; rfl
  write_obj _ members _ := by rw [Json.compact, compactMembers_eq]; rfl

/-- The pretty form. -/
def pretty : Layout where
  write := prettyAt
  line := lineAt
  gap := [' ']
  isSpaces_line := isSpaces_lineAt
  isSpaces_gap c hc := by rw [List.mem_singleton.1 hc]; rfl
  write_scalar level value h := by cases value <;> first | rfl | cases h
  write_arr_nil _ := rfl
  write_obj_nil _ := rfl
  write_arr level items hne := by
    obtain ⟨item, items, rfl⟩ := List.exists_cons_of_ne_nil hne
    rw [prettyAt, prettyItems_eq]
  write_obj level members hne := by
    obtain ⟨member, members, rfl⟩ := List.exists_cons_of_ne_nil hne
    rw [prettyAt, prettyMembers_eq]

end Layout

/-! ## Values -/

/-- What is not closed at once has items. -/
theorem readValue_arr {body : List Char} (h : ∀ more, skipSpaces body ≠ ']' :: more)
    (depth : Nat) :
    readValue (depth + 1) ('[' :: body) =
      (readItems (readValue depth) body.length body).map fun (items, rest) =>
        (.arr items, rest) := by
  rw [readValue]
  split
  · rename_i more heq
    exact absurd heq (h more)
  · rfl

/-- What is not closed at once has members. -/
theorem readValue_obj {body : List Char} (h : ∀ more, skipSpaces body ≠ '}' :: more)
    (depth : Nat) :
    readValue (depth + 1) ('{' :: body) =
      (readMembers (readValue depth) body.length body).map fun (members, rest) =>
        (.obj (Dictionary.ofEntries members), rest) := by
  rw [readValue]
  split
  · rename_i more heq
    exact absurd heq (h more)
  · rfl

namespace Layout

variable (layout : Layout) {depth level : Nat}

/-- An array is read back when its items are. -/
theorem reads_arr {items : List Json}
    (h : ∀ item ∈ items, Reads (readValue depth) (layout.write (level + 1) item) item) :
    Reads (readValue (depth + 1)) (layout.write level (.arr items)) (.arr items) := by
  cases items with
  | nil =>
    rw [layout.write_arr_nil]
    exact ⟨⟨_, _, rfl, by decide, by decide⟩, fun _ _ => rfl⟩
  | cons first items =>
    have hfirst := h first (List.mem_cons_self ..)
    have hlead := layout.isSpaces_line (level + 1)
    rw [layout.write_arr level _ (by simp)]
    refine ⟨⟨_, _, rfl, by decide, by decide⟩, fun rest _ => ?_⟩
    have hopen : ∀ after more, skipSpaces (joined (layout.line (level + 1))
        ((first :: items).map (layout.write (level + 1))) ++ after) ≠ ']' :: more := by
      intro after more heq
      obtain ⟨behind, hskip⟩ := exists_skipSpaces_joined hlead (layout.write (level + 1) first)
        (items.map (layout.write (level + 1))) after
      obtain ⟨c, text, htext, -, hc⟩ := hfirst.opens
      rw [List.map_cons, hskip, hfirst.skipSpaces, htext] at heq
      exact hc (List.cons.inj heq).1
    have hlength := length_le_length_joined (layout.line (level + 1))
      (fun item hitem => (h item hitem).ne_nil)
    rw [List.cons_append, List.append_assoc, List.append_assoc, readValue_arr (hopen _),
      List.singleton_append,
      readItems_joined hlead (layout.isSpaces_line level) (by simp) h
        (by rw [List.length_append]; omega)]
    rfl

/-- An object is read back when the values of its members are, and no key occurs twice. -/
theorem reads_obj {members : List (String × Json)} (hkeys : (Dictionary.names members).Nodup)
    (h : ∀ member ∈ members,
      Reads (readValue depth) (layout.write (level + 1) member.2) member.2) :
    Reads (readValue (depth + 1)) (layout.write level (.obj members)) (.obj members) := by
  cases members with
  | nil =>
    rw [layout.write_obj_nil]
    exact ⟨⟨_, _, rfl, by decide, by decide⟩, fun _ _ => rfl⟩
  | cons first members =>
    have hlead := layout.isSpaces_line (level + 1)
    rw [layout.write_obj level _ (by simp)]
    refine ⟨⟨_, _, rfl, by decide, by decide⟩, fun rest _ => ?_⟩
    have hopen : ∀ after more, skipSpaces (joined (layout.line (level + 1))
        ((first :: members).map (memberText layout.gap (layout.write (level + 1)))) ++ after) ≠
          '}' :: more := by
      intro after more heq
      obtain ⟨behind, hskip⟩ := exists_skipSpaces_joined hlead
        (memberText layout.gap (layout.write (level + 1)) first)
        (members.map (memberText layout.gap (layout.write (level + 1)))) after
      rw [List.map_cons, hskip, skipSpaces_memberText] at heq
      cases (List.cons.inj heq).1
    have hlength : (first :: members).length ≤ (joined (layout.line (level + 1))
        ((first :: members).map (memberText layout.gap (layout.write (level + 1))))).length :=
      length_le_length_joined _ fun member _ => memberText_ne_nil _ _ member
    rw [List.cons_append, List.append_assoc, List.append_assoc, readValue_obj (hopen _),
      List.singleton_append,
      readMembers_joined hlead layout.isSpaces_gap (layout.isSpaces_line level) (by simp) h
        (by rw [List.length_append]; omega), Option.map_some]
    simp only [Dictionary.ofEntries_eq_self hkeys]

end Layout

/-- An item is at most as deep as the deepest. -/
theorem depth_le_depthItems {item : Json} {items : List Json} (h : item ∈ items) :
    item.depth ≤ depthItems items := by
  induction items with
  | nil => cases h
  | cons first items ih =>
    rw [depthItems]
    rcases List.mem_cons.1 h with rfl | hmem
    · exact Nat.le_max_left ..
    · exact Nat.le_trans (ih hmem) (Nat.le_max_right ..)

/-- The value of a member is at most as deep as the deepest. -/
theorem depth_le_depthMembers {member : String × Json} {members : List (String × Json)}
    (h : member ∈ members) : member.2.depth ≤ depthMembers members := by
  induction members with
  | nil => cases h
  | cons first members ih =>
    obtain ⟨name, value⟩ := first
    rw [depthMembers]
    rcases List.mem_cons.1 h with rfl | hmem
    · exact Nat.le_max_left ..
    · exact Nat.le_trans (ih hmem) (Nat.le_max_right ..)

/-- A scalar is the same in all layouts. -/
theorem Layout.reads_scalar (layout : Layout) {value : Json} (hscalar : value.depth = 0)
    (hnumber : value.HasExactNumbers) (depth level : Nat) :
    Reads (readValue depth) (layout.write level value) value := by
  rw [layout.write_scalar level value hscalar]
  exact Json.reads_scalar hscalar hnumber depth

/-- **A value is read back from any layout**, by a reader that goes as deep as the value.

**Proof sketch.** By induction on the value. The parts of an array or object are read by the reader
for the level below, which goes as deep as they do. -/
theorem Layout.reads (layout : Layout) {value : Json}
    (hnumbers : value.Everywhere HasExactNumbers) (hkeys : value.Everywhere HasDistinctKeys)
    {depth : Nat} (hdepth : value.depth ≤ depth) (level : Nat) :
    Reads (readValue depth) (layout.write level value) value := by
  induction value using values_induction generalizing depth level with
  | null => exact layout.reads_scalar rfl hnumbers.top depth level
  | bool value => exact layout.reads_scalar rfl hnumbers.top depth level
  | num number => exact layout.reads_scalar rfl hnumbers.top depth level
  | str text => exact layout.reads_scalar rfl hnumbers.top depth level
  | arr items ih =>
    rw [Json.depth] at hdepth
    obtain ⟨depth, rfl⟩ : ∃ less, depth = less + 1 := ⟨depth - 1, by omega⟩
    refine layout.reads_arr fun item hmem => ?_
    have hle := depth_le_depthItems hmem
    exact ih item hmem ((everywhere_arr.1 hnumbers).2 item hmem)
      ((everywhere_arr.1 hkeys).2 item hmem) (by omega) (level + 1)
  | obj members ih =>
    rw [Json.depth] at hdepth
    obtain ⟨depth, rfl⟩ : ∃ less, depth = less + 1 := ⟨depth - 1, by omega⟩
    obtain ⟨hnodup, hvalues⟩ := everywhere_obj.1 hkeys
    refine layout.reads_obj hnodup fun member hmem => ?_
    have hle := depth_le_depthMembers hmem
    exact ih member hmem ((everywhere_obj.1 hnumbers).2 member hmem) (hvalues member hmem)
      (by omega) (level + 1)

/-! ## Whole texts -/

/-- A value is read back from a text that has nothing else. -/
theorem read?_ofList {text : List Char} {value : Json} (h : Reads (readValue maxDepth) text value) :
    read? (String.ofList text) = some value := by
  have hskip := h.skipSpaces []
  have hread := h.reads [] nofun
  rw [List.append_nil] at hskip hread
  rw [read?, String.toList_ofList, hskip, hread]
  rfl

/-- An array or object is a template. -/
theorem readTemplate?_of_read? {text : String} {value : Json} (h : read? text = some value)
    (hkind : value.kind? = some .array ∨ value.kind? = some .object) :
    readTemplate? text = .ok value := by
  rw [readTemplate?, h]
  cases value with
  | arr items => rfl
  | obj members => rfl
  | _ => rcases hkind with heq | heq <;> cases heq

/-- **The boundary of texts loses nothing.** An array or object is read back from both of its
printed forms, with its keys in order, when nothing is nested more than 127 levels deep and its
numbers are integers that sixty-four bits can hold. If it has no directives, any engine generates
from its compact form that form, and draws nothing.

**Proof sketch.** Both printers are layouts, and a layout is read back by induction over the value,
one level of depth for each level of nesting. A value without directives is generated as it is, and
printed again. -/
theorem readTemplate?_render {value : Json}
    (hkind : value.kind? = some .array ∨ value.kind? = some .object) (hdepth : value.depth ≤ 127)
    (hnumbers : value.Everywhere HasExactNumbers) (hkeys : value.Everywhere HasDistinctKeys) :
    readTemplate? value.render = .ok value ∧ readTemplate? value.renderPretty = .ok value ∧
      (value.Everywhere IsPlain → ∀ (engine : Engine) (source : Source),
        (engine.generateText value.render).run source = (.ok value.render, source)) := by
  have hread : ∀ layout : Layout,
      readTemplate? (String.ofList (layout.write 0 value)) = .ok value := fun layout =>
    readTemplate?_of_read? (read?_ofList (layout.reads hnumbers hkeys hdepth 0)) hkind
  refine ⟨hread .compact, hread .pretty, fun hplain engine source => ?_⟩
  obtain ⟨values, hrun⟩ := engine.generateIn_plain hplain hkeys Scope.root ⟨source, Ledger.empty⟩
  have hcompact : readTemplate? value.render = .ok value := hread .compact
  have hgenerate : (engine.generate value).run source = (value, source) := by
    change (((engine.generateIn value Scope.root).run ⟨source, Ledger.empty⟩).1,
      ((engine.generateIn value Scope.root).run ⟨source, Ledger.empty⟩).2.source) = _
    rw [hrun]
  rw [Engine.generateText, hcompact]
  dsimp only
  rw [run_map, hgenerate]

/-- One key has a quotation mark and a control character, one lies outside the first plane, an array
is empty, and the number is the greatest that can be held. -/
theorem readTemplate?_render_signs :
    (Json.arr [.obj [("\"\x01", .arr []), ("😀", .num (.int 18446744073709551615))]]).Everywhere
        HasExactNumbers ∧
      (Json.arr [.obj [("\"\x01", .arr []), ("😀", .num (.int 18446744073709551615))]]).Everywhere
        HasDistinctKeys ∧
      readTemplate? (Json.arr [.obj [("\"\x01", .arr []),
          ("😀", .num (.int 18446744073709551615))]]).renderPretty =
        .ok (.arr [.obj [("\"\x01", .arr []), ("😀", .num (.int 18446744073709551615))]]) ∧
      ((Engine.standard ⟨.enUS, 0⟩).generateText (Json.arr [.obj [("\"\x01", .arr []),
          ("😀", .num (.int 18446744073709551615))]]).render).run default =
        (.ok (Json.arr [.obj [("\"\x01", .arr []),
          ("😀", .num (.int 18446744073709551615))]]).render, default) := by
  have hnumbers : (Json.arr [.obj [("\"\x01", .arr []),
      ("😀", .num (.int 18446744073709551615))]]).Everywhere HasExactNumbers := by decide
  have hkeys : (Json.arr [.obj [("\"\x01", .arr []),
      ("😀", .num (.int 18446744073709551615))]]).Everywhere HasDistinctKeys := by decide
  obtain ⟨-, hpretty, hplain⟩ := readTemplate?_render (Or.inl rfl) (by decide) hnumbers hkeys
  exact ⟨hnumbers, hkeys, hpretty, hplain (by decide) _ _⟩

end Specimen.Json

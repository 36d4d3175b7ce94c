import Specimen.Proofs.Random.Samples
import Specimen.Proofs.Rule.Outcome

set_option autoImplicit false

/-!
# Numbers of pieces

Six rules say of how many pieces a value is made: of how many copies a text, of how many members an
object, of how many picks an array. The number is given, or drawn between two bounds, and a number
that is given is one between equal bounds, for which nothing is drawn. What is made of that many
pieces is the same in both cases.

## Main definitions

* `Specimen.Rule.pieces?` — the kind of values that a rule makes of pieces, and the bounds of their
  number.
* `Specimen.Rule.Picks` — picks from an array and their generation, one after the other.

## Main results

* `Specimen.Rule.execute_of_pieces?` — the number is drawn, and the pieces are made.
* `Specimen.Rule.handsOver_members` — an object with some of its members is generated once.
* `Specimen.Rule.run_execute_repeated` — a text is repeated, and picks from an array are generated.
-/

namespace Specimen

/-! ## Members at positions -/

namespace Parts

variable {α : Type} {index : Nat} {member : α} {members : List α} {positions : List Nat}

/-- Positions behind the first member are those of the others, one further on. -/
theorem map_getElem?_cons (h : ∀ n ∈ positions, index + 1 ≤ n) :
    positions.map (fun n => (member :: members)[n - index]?) =
      positions.map fun n => members[n - (index + 1)]? := by
  refine List.map_congr_left fun n hn => ?_
  have hle := h n hn
  have hshift : n - index = n - (index + 1) + 1 := by omega
  rw [hshift, List.getElem?_cons_succ]

/-- Each position gives its member. The invariant of going through members and positions side by
side is that the positions left are ascending and those of members left. -/
theorem map_some_selectFrom (hascending : positions.Pairwise (· < ·))
    (hbound : ∀ n ∈ positions, index ≤ n ∧ n < index + members.length) :
    (selectFrom index members positions).map some =
      positions.map fun n => members[n - index]? := by
  induction members generalizing index positions with
  | nil =>
    have hnone : positions = [] := by
      refine List.eq_nil_iff_forall_not_mem.2 fun n hn => ?_
      obtain ⟨hlow, hhigh⟩ := hbound n hn
      exact absurd hhigh (Nat.not_lt.2 hlow)
    rw [hnone]
    rfl
  | cons member members ih =>
    have hlater : ∀ later : List Nat, later.Pairwise (· < ·) → later ⊆ positions →
        (∀ n ∈ later, index < n) → (selectFrom (index + 1) members later).map some =
          later.map fun n => (member :: members)[n - index]? := by
      intro later hpairwise hsubset hbehind
      rw [map_getElem?_cons hbehind]
      refine ih hpairwise fun n hn => ⟨hbehind n hn, ?_⟩
      have hhigh := (hbound n (hsubset hn)).2
      rw [List.length_cons] at hhigh
      omega
    unfold selectFrom
    split
    · -- The first position left is that of the first member left, and all others are behind it.
      rename_i hhead
      obtain ⟨rest, rfl⟩ := List.head?_eq_some_iff.1 hhead
      obtain ⟨hbehind, hrest⟩ := List.pairwise_cons.1 hascending
      rw [List.tail_cons, List.map_cons, List.map_cons, Nat.sub_self,
        hlater rest hrest (List.subset_cons_self _ _) hbehind]
      rfl
    · -- All positions left are behind the first member left.
      rename_i hhead
      refine hlater positions hascending (List.Subset.refl _) fun n hn => ?_
      cases positions with
      | nil => cases hn
      | cons first rest =>
        have hfirst : index < first := Nat.lt_of_le_of_ne
          (hbound first (List.mem_cons_self ..)).1 fun heq => hhead (heq ▸ rfl)
        rcases List.mem_cons.1 hn with rfl | hmem
        · exact hfirst
        · exact Nat.lt_trans hfirst ((List.pairwise_cons.1 hascending).1 n hmem)

/-- **What is selected at ascending positions** are the members that stand there.

**Proof sketch.** The two lists are gone through side by side. As the positions ascend, the first
one left is never behind the member that is reached, so that none is missed. -/
theorem map_some_select (hascending : positions.Pairwise (· < ·))
    (hbound : ∀ n ∈ positions, n < members.length) :
    (select members positions).map some = positions.map (members[·]?) :=
  map_some_selectFrom hascending fun n hn => ⟨Nat.zero_le n, by simpa using hbound n hn⟩

end Parts

/-- A draw that comes first hands its result on, and moves the source only. -/
theorem Gen.run_draw_bind {α β : Type} {step : Draw α} {next : α → Gen β} {start : Progress}
    {result : α} {source : Source} (h : step.run start.source = (result, source)) :
    (Gen.draw step >>= next).run start = (next result).run { start with source := source } := by
  change (next (step.run start.source).1).run
    { start with source := (step.run start.source).2 } = _
  rw [h]

namespace Rule

/-! ## The number of pieces -/

/-- The kind of values that a rule makes of pieces, and the bounds of the number of pieces. -/
def pieces? : Rule → Option (Kind × Int × Int)
  | .stringCount count => some (.string, count, count)
  | .stringRange min max => some (.string, min, max)
  | .objectCount count => some (.object, count, count)
  | .objectRange min max => some (.object, min, max)
  | .arrayRepeatCount count => some (.array, count, count)
  | .arrayRepeatRange min max => some (.array, min, max)
  | _ => none

/-- What is made of so many pieces of a value. -/
def assemble (kind : Kind) (value : Json) (parts : Parts) (count : Int) : Producer := fun scope =>
  match kind with
  | .string => pure (repeatText value count)
  | .object => pickMembers value parts count scope
  | .array => repeatPicks value parts count scope
  | _ => pure value

variable {rule : Rule} {kind : Kind} {low high : Int}

/-- The number of pieces is drawn between its bounds, and so many pieces are put together. -/
theorem execute_of_pieces? (hrule : rule.pieces? = some (kind, low, high))
    (hvalid : rule.isValid = true) (value : Json) (parts : Parts) (scope : Scope) :
    execute (some rule) value parts scope =
      Gen.draw (Draw.integer low high) >>= fun count => assemble kind value parts count scope := by
  rw [execute, if_pos hvalid]
  cases rule <;> simp only [pieces?, Option.some.injEq, Prod.mk.injEq, reduceCtorEq] at hrule
  case stringCount | objectCount | arrayRepeatCount =>
    obtain ⟨rfl, rfl, rfl⟩ := hrule
    rw [Draw.integer_self]
    rfl
  all_goals
    obtain ⟨rfl, rfl, rfl⟩ := hrule
    rfl

/-- Bounds without fault are in order, and no text is repeated and no picks are made too often. -/
theorem bounds_of_pieces? (hrule : rule.pieces? = some (kind, low, high))
    (hvalid : rule.isValid = true) :
    0 ≤ low ∧ low ≤ high ∧ (kind ≠ .object → high ≤ maxRepeat) := by
  have hadmissible := isValid_iff.1 hvalid
  cases rule <;> simp only [pieces?, Option.some.injEq, Prod.mk.injEq, reduceCtorEq] at hrule
  all_goals
    obtain ⟨rfl, rfl, rfl⟩ := hrule
    unfold IsAdmissible at hadmissible
    unfold maxRepeat
  case objectCount | objectRange => exact ⟨by omega, by omega, fun hkind => absurd rfl hkind⟩
  all_goals exact ⟨by omega, by omega, fun _ => by omega⟩

/-- The number that is drawn is between the bounds. -/
theorem count_mem (hrule : rule.pieces? = some (kind, low, high)) (hvalid : rule.isValid = true)
    (hhigh : Integer.InRange high) (source : Source) :
    low ≤ ((Draw.integer low high).run source).1 ∧
      ((Draw.integer low high).run source).1 ≤ high := by
  obtain ⟨hlow, hle, -⟩ := bounds_of_pieces? hrule hvalid
  have hrange : Integer.InRange low := by
    unfold Integer.InRange Integer.least at hhigh ⊢
    omega
  have hmem := Draw.integer_mem hrange hhigh source
  rwa [Int.min_eq_left hle, Int.max_eq_right hle] at hmem

/-! ## Members of objects -/

/-- **An object with some of its members is generated once.** The sampler is one that can be relied
on. It draws as many positions as the number that is drawn, or all when there are no more; the
members of the object are those at these positions, each once and in their order.

**Proof sketch.** The positions are different, so they ascend strictly when they are sorted, and the
members that are selected at ascending positions are those that stand there. -/
theorem handsOver_members {sampler : Sampler} (hsampler : sampler.IsExact)
    (hrule : rule.pieces? = some (.object, low, high)) (hvalid : rule.isValid = true)
    (hhigh : Integer.InRange high) (members : List (String × Json)) (scope : Scope)
    (start : Progress) :
    ∃ (count : Int) (middle source : Source) (picked positions : List Nat)
      (chosen : List (String × Json)),
      (Draw.integer low high).run start.source = (count, middle) ∧ low ≤ count ∧ count ≤ high ∧
      (sampler members.length (min count.toNat members.length)).run middle = (picked, source) ∧
      positions.Perm picked ∧ positions.Pairwise (· < ·) ∧
      chosen.map some = positions.map (members[·]?) ∧
      chosen.Sublist members ∧ (chosen.length : Int) = min count members.length ∧
      HandsOver sampler rule (.obj members) scope start (.obj chosen)
        { start with source := source } := by
  obtain ⟨hlow, -, -⟩ := bounds_of_pieces? hrule hvalid
  have hcount := count_mem hrule hvalid hhigh start.source
  rcases hdrawn : (Draw.integer low high).run start.source with ⟨count, middle⟩
  rw [hdrawn] at hcount
  have hsample := hsampler members.length (min count.toNat members.length) (Nat.min_le_right _ _)
    middle
  rcases hpicked : (sampler members.length (min count.toNat members.length)).run middle with
    ⟨picked, source⟩
  rw [hpicked] at hsample
  have hsorted := hsample.mergeSort
  have hascending := Draw.pairwise_lt_mergeSort hsample.nodup
  have hsampled : (Draw.sample sampler members.length count.toNat).run middle =
      (picked.mergeSort (· ≤ ·), source) := by
    rw [Draw.sample, run_bind, hpicked, run_pure]
  refine ⟨count, middle, source, picked, picked.mergeSort (· ≤ ·),
    Parts.select members (picked.mergeSort (· ≤ ·)), rfl, hcount.1, hcount.2, hpicked,
    List.mergeSort_perm picked _, hascending, Parts.map_some_select hascending hsorted.lt,
    Parts.select_sublist _ _, ?_, fun generate => ?_⟩
  · have hselected := congrArg List.length (Parts.map_some_select hascending hsorted.lt)
    rw [List.length_map, List.length_map, hsorted.length_eq] at hselected
    rw [hselected]
    omega
  · rw [execute_of_pieces? hrule hvalid, Gen.run_draw_bind hdrawn]
    exact Gen.run_draw_bind hsampled

/-- Two members of three: the second draw hits the position of the first one, which gives way to the
last, and the member in the middle is left out. -/
theorem handsOver_members_around :
    Draw.positions.IsExact ∧ pieces? (.objectRange 2 5) = some (.object, 2, 5) ∧
      isValid (.objectRange 2 5) = true ∧ Integer.InRange 5 ∧
      ∃ source, HandsOver Draw.positions (.objectRange 2 5)
        (.obj [("a", .null), ("b|1", .bool true), ("c", .arr [])]) Scope.root
        ⟨default, Ledger.empty⟩ (.obj [("a", .null), ("c", .arr [])]) ⟨source, Ledger.empty⟩ := by
  have hvalid : isValid (.objectRange 2 5) = true := by decide
  have hrange : Integer.InRange 5 := by decide
  refine ⟨Draw.isExact_positions, rfl, hvalid, hrange, ?_⟩
  obtain ⟨count, middle, source, picked, positions, chosen, hdrawn, -, -, hpicked, hperm,
    hascending, hchosen, -, -, hover⟩ :=
    handsOver_members Draw.isExact_positions rfl hvalid hrange
      [("a", .null), ("b|1", .bool true), ("c", .arr [])] Scope.root ⟨default, Ledger.empty⟩
  have hcount : ((Draw.integer 2 5).run default).1 = 2 := by decide
  obtain rfl : (2 : Int) = count := hcount.symm.trans (congrArg Prod.fst hdrawn)
  have hmiddle : ((Draw.integer 2 5).run default).2 = middle := congrArg Prod.snd hdrawn
  have htwo : ((Draw.positions 3 2).run middle).1 = [2, 0] := by
    rw [← hmiddle]
    decide +kernel
  obtain rfl : [2, 0] = picked := htwo.symm.trans (congrArg Prod.fst hpicked)
  have hsorted : positions = [0, 2] :=
    (hperm.trans (List.Perm.swap 0 2 [])).eq_of_pairwise
      (fun _ _ _ _ hlt hgt => absurd hlt (Nat.lt_asymm hgt)) hascending (by decide)
  rw [hsorted] at hchosen
  obtain rfl : [("a", .null), ("c", .arr [])] = chosen :=
    ((List.map_inj_right fun _ _ => Option.some.inj).1 hchosen).symm
  exact ⟨source, hover⟩

/-! ## Copies of texts and picks from arrays -/

/-- Picks from an array, one after the other: a position is drawn, and the item there is generated
in the state that this leaves. -/
inductive Picks (generate : Json → Producer) (items : List Json) (scope : Scope) :
    Progress → List Json → Progress → Prop
  /-- There is no further pick. -/
  | done (now : Progress) : Picks generate items scope now [] now
  /-- There is a pick, and further ones. -/
  | pick {now later finish : Progress} {position : Nat} {source : Source} {item value : Json}
    {values : List Json} : (Draw.index items.length).run now.source = (position, source) →
    items[position]? = some item →
    (generate item scope).run { now with source := source } = (value, later) →
    Picks generate items scope later values finish →
    Picks generate items scope now (value :: values) finish

/-- Picks that are made so many times. -/
theorem picks_many (generate : Json → Producer) {items : List Json} (hitems : items ≠ [])
    (scope : Scope) (count : Nat) (now : Progress) :
    Picks generate items scope now
      ((many count (pickItem (items.map generate) scope)).run now).1
      ((many count (pickItem (items.map generate) scope)).run now).2 := by
  induction count generalizing now with
  | zero => exact .done now
  | succ count ih =>
    obtain ⟨item, hitem, hrun⟩ := run_pickItem_drawn generate hitems scope now
    exact .pick rfl hitem hrun.symm (ih _)

/-- A number of picks within the limit is made as it is. -/
theorem run_repeatPicks (sampler : Sampler) (generate : Json → Producer) {items : List Json}
    (hitems : items ≠ []) {count : Int} (hlow : 0 ≤ count) (hhigh : count ≤ maxRepeat)
    (scope : Scope) (now : Progress) :
    ∃ results finish,
      (repeatPicks (.arr items) (Parts.of sampler generate (.arr items)) count scope).run now =
        (.arr results, finish) ∧
      (results.length : Int) = count ∧ Picks generate items scope now results finish := by
  have hcapped : max 0 (min count maxRepeat) = count := by omega
  have hpicks :
      (repeatPicks (.arr items) (Parts.of sampler generate (.arr items)) count scope).run now =
      (Json.arr <$> many count.toNat (pickItem (items.map generate) scope)).run now := by
    obtain ⟨first, rest, rfl⟩ := List.exists_cons_of_ne_nil hitems
    change (Json.arr <$> (many (max 0 (min count maxRepeat)).toNat _ : Gen (List Json))).run _ = _
    rw [hcapped]
    rfl
  have hany : Gives (pickItem (items.map generate) scope) fun _ => True := fun _ => trivial
  obtain ⟨hlength, -⟩ := hany.many count.toNat now
  refine ⟨_, _, hpicks.trans (run_map ..), ?_, picks_many generate hitems scope _ _⟩
  rw [hlength]
  exact Int.toNat_of_nonneg hlow

/-- A number of copies within the limit repeats the text. -/
theorem repeatText_str {text : String} {count : Int} (hlow : 0 ≤ count)
    (hhigh : count ≤ maxRepeat) :
    repeatText (.str text) count = .str (String.join (List.replicate count.toNat text)) := by
  rw [repeatText, if_pos ⟨hlow, hhigh⟩, Json.asText]
  refine congrArg _ (String.toList_inj.1 ?_)
  rw [String.toList_ofList, String.toList_join, List.flatMap_def, List.map_replicate]

/-- **So many copies of a text, or picks from an array.** The number is drawn between the bounds of
the rule and is at most ten thousand. A text is repeated so many times, and nothing is generated.
From an array with items so many picks are made and generated, one after the other and each in the
state that the one before leaves; without items the array stays empty.

**Proof sketch.** A number within the limit is taken as it is, so the picks are as many as the
number that is drawn. -/
theorem run_execute_repeated (hrule : rule.pieces? = some (kind, low, high))
    (hkind : kind ≠ .object) (hvalid : rule.isValid = true) (sampler : Sampler) (scope : Scope)
    (start : Progress) :
    ∃ count source, (Draw.integer low high).run start.source = (count, source) ∧
      low ≤ count ∧ count ≤ high ∧ count ≤ 10000 ∧
      (kind = .array → ∀ generate : Json → Producer,
        (execute (some rule) (.arr []) (Parts.of sampler generate (.arr [])) scope).run start =
          (.arr [], { start with source := source }) ∧
        ∀ items : List Json, items ≠ [] → ∃ results finish,
          (execute (some rule) (.arr items) (Parts.of sampler generate (.arr items)) scope).run
            start = (.arr results, finish) ∧
          (results.length : Int) = count ∧
          Picks generate items scope { start with source := source } results finish) ∧
      (kind = .string → ∀ (generate : Json → Producer) (text : String),
        (execute (some rule) (.str text) (Parts.of sampler generate (.str text)) scope).run start =
          (.str (String.join (List.replicate count.toNat text)),
            { start with source := source })) := by
  obtain ⟨hlow, hle, hlimit⟩ := bounds_of_pieces? hrule hvalid
  have hmax := hlimit hkind
  have hhigh : Integer.InRange high := by
    unfold Integer.InRange Integer.least Integer.greatest
    unfold maxRepeat at hmax
    omega
  have hcount := count_mem hrule hvalid hhigh start.source
  rcases hdrawn : (Draw.integer low high).run start.source with ⟨count, source⟩
  rw [hdrawn] at hcount
  obtain ⟨hmin, hmaxcount⟩ := hcount
  have hpositive : 0 ≤ count := by omega
  have hcapped : count ≤ maxRepeat := by omega
  have hrun : ∀ (value : Json) (parts : Parts), (execute (some rule) value parts scope).run start =
      (assemble kind value parts count scope).run { start with source := source } := by
    intro value parts
    rw [execute_of_pieces? hrule hvalid, Gen.run_draw_bind hdrawn]
  refine ⟨count, source, rfl, hmin, hmaxcount, hcapped, ?_, ?_⟩
  · rintro rfl generate
    refine ⟨hrun _ _, fun items hitems => ?_⟩
    rw [hrun]
    exact run_repeatPicks sampler generate hitems hpositive hcapped scope _
  · rintro rfl generate text
    rw [hrun, assemble, repeatText_str hpositive hcapped]
    rfl

/-- Three picks from two items, and two copies of a text. -/
theorem run_execute_repeated_pair :
    (pieces? (.arrayRepeatCount 3) = some (.array, 3, 3) ∧ Kind.array ≠ .object ∧
      isValid (.arrayRepeatCount 3) = true ∧ ∃ source results finish,
        (execute (some (.arrayRepeatCount 3)) (.arr [.str "x", .str "y"])
          (Parts.of Draw.positions (fun value _ => pure value) (.arr [.str "x", .str "y"]))
          Scope.root).run ⟨default, Ledger.empty⟩ = (.arr results, finish) ∧
        (results.length : Int) = 3 ∧
        Picks (fun value _ => pure value) [.str "x", .str "y"] Scope.root ⟨source, Ledger.empty⟩
          results finish) ∧
    (pieces? (.stringRange 2 2) = some (.string, 2, 2) ∧ Kind.string ≠ .object ∧
      isValid (.stringRange 2 2) = true ∧ ∃ source,
        (execute (some (.stringRange 2 2)) (.str "ab")
          (Parts.of Draw.positions (fun value _ => pure value) (.str "ab")) Scope.root).run
            ⟨default, Ledger.empty⟩ = (.str "abab", ⟨source, Ledger.empty⟩)) := by
  have harray : isValid (.arrayRepeatCount 3) = true := by decide
  have hstring : isValid (.stringRange 2 2) = true := by decide
  refine ⟨⟨rfl, by decide, harray, ?_⟩, rfl, by decide, hstring, ?_⟩
  · obtain ⟨count, source, -, hlow, hhigh, -, hpicks, -⟩ :=
      run_execute_repeated rfl (by decide) harray Draw.positions Scope.root ⟨default, Ledger.empty⟩
    obtain ⟨-, hitems⟩ := hpicks rfl fun value _ => pure value
    obtain ⟨results, finish, hrun, hlength, hpicked⟩ :=
      hitems [.str "x", .str "y"] (List.cons_ne_nil _ _)
    exact ⟨source, results, finish, hrun, by omega, hpicked⟩
  · obtain ⟨count, source, -, hlow, hhigh, -, -, hcopies⟩ :=
      run_execute_repeated rfl (by decide) hstring Draw.positions Scope.root ⟨default, Ledger.empty⟩
    obtain rfl : count = 2 := by omega
    exact ⟨source, hcopies rfl (fun value _ => pure value) "ab"⟩

end Rule

end Specimen

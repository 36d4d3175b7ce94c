import Specimen.Placeholder.Argument
import Specimen.Proofs.Placeholder.Concatenation
import Specimen.Proofs.Rule.Numeral

set_option autoImplicit false

/-!
# Lists of arguments that are written and read

Integers are written in decimal, truth values as words and texts between quotes. A quote at the
beginning of a token decides that it is a text, whatever the text looks like; integers and truth
values do not begin with one. Blanks around the tokens do not matter, and a comma ends each of them,
as long as the texts have none.

## Main definitions

* `Specimen.Argument.Literal` — a value that can be written as an argument.
* `Specimen.Argument.Literal.written` — how it is written.
* `Specimen.Argument.Entry` — a literal between blanks.

## Main results

* `Specimen.Text.IsTight.trim_append` — blanks around a text are trimmed.
* `Specimen.Argument.read_written` — a literal is read back, whatever the coercers are.
* `Specimen.Argument.readList_intercalate` — a list of literals is read back.
-/

namespace Specimen

/-! ## Blanks -/

namespace Text

/-- Characters that are not blank are a text without blanks at its ends. -/
theorem isTight_of_forall {text : List Char} (hne : text ≠ [])
    (h : ∀ c ∈ text, isBlank c = false) : IsTight text := by
  have hhead := List.head?_eq_some_head hne
  have hlast := List.getLast?_eq_some_getLast hne
  exact ⟨⟨_, hhead, h _ (List.head_mem hne)⟩, _, hlast, h _ (List.getLast_mem hne)⟩

/-- Blanks around a text are trimmed. -/
theorem IsTight.trim_append {lead text trail : List Char} (h : IsTight text)
    (hlead : ∀ c ∈ lead, isBlank c = true) (htrail : ∀ c ∈ trail, isBlank c = true) :
    trim (lead ++ text ++ trail) = text := by
  obtain ⟨⟨first, hfirst, hstart⟩, last, hlast, hend⟩ := h
  have hstart' : trimStart (lead ++ (text ++ trail)) = text ++ trail := by
    refine (takeWhile_run hlead ?_).2
    intro c hc
    rw [List.mem_head?_append_of_mem_head? hfirst] at hc
    obtain rfl := Option.some.inj hc
    exact hstart
  have hend' : (trail.reverse ++ text.reverse).dropWhile isBlank = text.reverse := by
    refine (takeWhile_run (fun c hc => htrail c (List.mem_reverse.1 hc)) ?_).2
    intro c hc
    rw [List.head?_reverse, hlast] at hc
    obtain rfl := Option.some.inj hc
    exact hend
  rw [List.append_assoc, trim, hstart', trimEnd, List.reverse_append, hend', List.reverse_reverse]

/-- Only blanks are trimmed to nothing. -/
theorem trim_ne_nil {text : List Char} {c : Char} (hc : c ∈ text) (hblank : isBlank c = false) :
    trim text ≠ [] := by
  intro htrim
  obtain ⟨lead, trail, htext, hlead, htrail⟩ := exists_eq_trim text
  rw [htrim, List.nil_append] at htext
  rw [htext, List.mem_append] at hc
  rcases hc with hc | hc
  · simp [hlead c hc] at hblank
  · simp [htrail c hc] at hblank

end Text

namespace Integer

theorem toString_ne_nil (n : Int) : (toString n).toList ≠ [] := by
  rw [Int.toString_eq_repr, Int.repr_eq_if]
  split
  · rw [Nat.toList_repr]
    exact Nat.toDigits_ne_nil
  · simp

/-- The numeral of an integer is of digits and a sign. -/
theorem mem_toString {n : Int} {c : Char} (h : c ∈ (toString n).toList) :
    c = '-' ∨ isDigit c = true := by
  rw [Int.toString_eq_repr, Int.repr_eq_if] at h
  split at h
  · rw [Nat.toList_repr] at h
    exact Or.inr (isDigit_of_mem_toDigits h)
  · rw [String.toList_append, List.mem_append, Nat.toList_repr] at h
    rcases h with hsign | hdigit
    · exact Or.inl (List.mem_singleton.1 hsign)
    · exact Or.inr (isDigit_of_mem_toDigits hdigit)

/-- No digit is blank. -/
theorem isBlank_of_isDigit {c : Char} (h : isDigit c = true) : Text.isBlank c = false := by
  have hdigit : 48 ≤ c.toNat ∧ c.toNat ≤ 57 := by
    simpa [isDigit, Char.le_def, UInt32.le_iff_toNat_le] using h
  simp only [Text.isBlank]
  grind

end Integer

namespace Argument

/-! ## Literals -/

/-- A quote around a text. -/
inductive Quote where
  /-- The double quote. -/
  | double
  /-- The single quote. -/
  | single

/-- The character of a quote. -/
def Quote.char : Quote → Char
  | double => '"'
  | single => '\''

/-- A value that can be written as an argument. -/
inductive Literal where
  /-- An integer in range. -/
  | integer (n : Int) (inRange : Integer.InRange n)
  /-- A truth value. -/
  | truth (b : Bool)
  /-- A text without commas, with the quote around it. -/
  | text (quote : Quote) (content : String) (noComma : ',' ∉ content.toList)

namespace Literal

/-- The value itself. -/
def value : Literal → Json
  | integer n _ => .ofInt n
  | truth b => .bool b
  | text _ content _ => .str content

/-- The value as it is written. -/
def written : Literal → List Char
  | integer n _ => (toString n).toList
  | truth b => (toString b).toList
  | text quote content _ => quote.char :: (content.toList ++ [quote.char])

/-- A literal begins and ends without blanks. -/
theorem isTight_written (literal : Literal) : Text.IsTight literal.written := by
  cases literal with
  | integer n _ =>
    refine Text.isTight_of_forall (Integer.toString_ne_nil n) ?_
    intro c hc
    rcases Integer.mem_toString hc with rfl | hdigit
    · decide
    · exact Integer.isBlank_of_isDigit hdigit
  | truth b =>
    have hall : (toString b).toList.all (!Text.isBlank ·) = true := by cases b <;> decide
    refine Text.isTight_of_forall (by cases b <;> decide) fun c hc => ?_
    simpa using List.all_eq_true.mp hall c hc
  | text quote content _ =>
    have hquote : Text.isBlank quote.char = false := by cases quote <;> decide
    have hlast : quote.char ∈ (written (.text quote content ‹_›)).getLast? := by
      rw [written, ← List.cons_append, List.getLast?_concat]
      rfl
    exact ⟨⟨_, rfl, hquote⟩, _, hlast, hquote⟩

/-- A literal has no commas. -/
theorem not_mem_written (literal : Literal) : ',' ∉ literal.written := by
  cases literal with
  | integer n _ =>
    intro hmem
    rcases Integer.mem_toString hmem with h | h
    · simp at h
    · simp [Integer.isDigit] at h
  | truth b => cases b <;> decide
  | text quote content noComma =>
    have hquote : quote.char ≠ ',' := by cases quote <;> decide
    simp [written, noComma, hquote.symm]

end Literal

/-! ## Reading literals -/

/-- In a token without quotes there is nothing between quotes. -/
theorem unquote?_eq_none {token : List Char} (h : ∀ quote : Quote, quote.char ∉ token) :
    unquote? token = none := by
  cases token with
  | nil => rfl
  | cons c rest =>
    have hdouble : c ≠ '"' := fun heq => h .double (heq ▸ List.mem_cons_self ..)
    have hsingle : c ≠ '\'' := fun heq => h .single (heq ▸ List.mem_cons_self ..)
    simp [unquote?, between?, hdouble, hsingle]

/-- The text between two quotes. -/
theorem unquote?_quoted (quote : Quote) (content : List Char) :
    unquote? (quote.char :: (content ++ [quote.char])) = some content := by
  cases quote <;> simp [unquote?, between?, Quote.char]

/-- **A literal is read back**, whatever the coercers are.

**Proof sketch.** By the kind of the literal. A text in quotes is taken first, and the numeral of an
integer and the two words of truth have no quotes. -/
theorem read_written (coercers : List Coercer) (literal : Literal) :
    read coercers literal.written = literal.value := by
  cases literal with
  | integer n inRange =>
    have hunquoted : unquote? (toString n).toList = none := by
      refine unquote?_eq_none fun quote hmem => ?_
      rcases Integer.mem_toString hmem with h | h <;> cases quote <;> revert h <;> decide
    rw [read, Literal.written, hunquoted]
    simp only [Integer.read?_toString inRange]
    rfl
  | truth b =>
    cases b <;> rfl
  | text quote content _ =>
    rw [read, Literal.written, unquote?_quoted]
    simp only [String.ofList_toList]
    rfl

/-! ## Lists -/

/-- A literal between blanks. -/
structure Entry where
  /-- What stands in front of the literal. -/
  lead : List Char
  /-- The literal. -/
  literal : Literal
  /-- What stands behind the literal. -/
  trail : List Char
  /-- In front of the literal stand only blanks. -/
  lead_blank : ∀ c ∈ lead, Text.isBlank c = true
  /-- Behind the literal stand only blanks. -/
  trail_blank : ∀ c ∈ trail, Text.isBlank c = true

namespace Entry

/-- The literal with the blanks around it. -/
def written (entry : Entry) : List Char := entry.lead ++ entry.literal.written ++ entry.trail

/-- The blanks are trimmed. -/
theorem trim_written (entry : Entry) : Text.trim entry.written = entry.literal.written :=
  entry.literal.isTight_written.trim_append entry.lead_blank entry.trail_blank

/-- Some character is not blank. -/
theorem exists_mem_written (entry : Entry) : ∃ c ∈ entry.written, Text.isBlank c = false := by
  obtain ⟨⟨c, hc, hblank⟩, -⟩ := entry.literal.isTight_written
  have hmem : c ∈ entry.literal.written := List.mem_of_mem_head? hc
  exact ⟨c, by simp [written, hmem], hblank⟩

/-- Between the blanks as well there is no comma. -/
theorem not_mem_written (entry : Entry) : ',' ∉ entry.written := by
  have hblank : ∀ {blanks : List Char}, (∀ c ∈ blanks, Text.isBlank c = true) → ',' ∉ blanks := by
    intro blanks h hmem
    exact absurd (h _ hmem) (by decide)
  have hlead := hblank entry.lead_blank
  have htrail := hblank entry.trail_blank
  simp [written, hlead, entry.literal.not_mem_written, htrail]

end Entry

/-- **A list of literals is read back**, whatever blanks stand around the commas and whatever the
coercers are.

**Proof sketch.** No literal has a comma, so the list is split where it was joined. Trimming takes
the blanks of an entry away and leaves its literal, which is read back. -/
theorem readList_intercalate (coercers : List Coercer) (entries : List Entry)
    (hne : entries ≠ []) :
    readList coercers ([','].intercalate (entries.map Entry.written)) =
      entries.map fun entry => entry.literal.value := by
  have hsplit : ([','].intercalate (entries.map Entry.written)).splitOn ',' =
      entries.map Entry.written := by
    refine List.splitOn_intercalate ',' (fun part hpart => ?_) (by simpa using hne)
    obtain ⟨entry, -, rfl⟩ := List.mem_map.1 hpart
    exact entry.not_mem_written
  have hsome : Text.trim ([','].intercalate (entries.map Entry.written)) ≠ [] := by
    obtain ⟨first, rest, rfl⟩ := List.exists_cons_of_ne_nil hne
    obtain ⟨c, hc, hblank⟩ := first.exists_mem_written
    have hmem : c ∈ [','].intercalate ((first :: rest).map Entry.written) := by
      cases rest with
      | nil => simpa using hc
      | cons next rest =>
        rw [List.map_cons, List.map_cons, List.intercalate_cons_cons]
        exact List.mem_append_left _ (List.mem_append_left _ hc)
    exact Text.trim_ne_nil hmem hblank
  rw [readList, if_neg (by simpa using hsome), hsplit, List.map_map]
  refine List.map_congr_left fun entry _ => ?_
  rw [Function.comp_apply, entry.trim_written, read_written]

/-- A quote inside other quotes, texts that look like a number and like what a coercer knows, the
empty text, and different blanks around the commas. -/
theorem readList_intercalate_mixed :
    readList [.exact "true" .null, .phoneKinds] "-7, '\"', '12' ,\ttrue,\"mobile\", ''".toList =
      [.ofInt (-7), .str "\"", .str "12", .bool true, .str "mobile", .str ""] := by
  have hnone : ∀ c ∈ [], Text.isBlank c = true := List.forall_mem_nil _
  have hblank : ∀ c ∈ [' '], Text.isBlank c = true := List.forall_mem_singleton.mpr rfl
  have htab : ∀ c ∈ ['\t'], Text.isBlank c = true := List.forall_mem_singleton.mpr rfl
  have h := readList_intercalate [.exact "true" .null, .phoneKinds]
    [⟨[], .integer (-7) (by decide), [], hnone, hnone⟩,
      ⟨[' '], .text .single "\"" (by decide), [], hblank, hnone⟩,
      ⟨[' '], .text .single "12" (by decide), [' '], hblank, hblank⟩,
      ⟨['\t'], .truth true, [], htab, hnone⟩,
      ⟨[], .text .double "mobile" (by decide), [], hnone, hnone⟩,
      ⟨[' '], .text .single "" (by decide), [], hblank, hnone⟩]
    (by simp)
  exact h

end Argument

end Specimen

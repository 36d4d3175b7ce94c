import Mathlib.Data.List.Induction
import Mathlib.Data.List.TakeWhile
import Specimen.Placeholder.Token
import Specimen.Scope.Basic

set_option autoImplicit false

/-!
# Paths of names

A path is written as its names with points between them. What is written determines the path when no
name has a point and the first name is not empty, as it is with names of letters, digits and
underscores. Such a path can be referred to by a token when it begins with a letter, and in a value
it leads from object to object.

## Main definitions

* `Specimen.IsReferenceName` — ASCII letters, digits and underscores, at least one of them.
* `Specimen.Path`, `Specimen.Path.text` — names, and how they are written.
* `Specimen.Path.IsProper`, `Specimen.Path.IsPlain` — paths of names that can stand in references,
  and paths that are known from what is written.
* `Specimen.Path.place` — the place to which a path leads in a template.
* `Specimen.Json.at?` — the value to which a path leads.

## Main results

* `Specimen.Path.text_injective` — what is written determines the path.
* `Specimen.Scope.key_eq_text`, `Specimen.Path.path_place` — the key of a property is its path as
  written.
* `Specimen.Path.whole?_text` — a path behind an at sign is a token without arguments.
-/

namespace Specimen

/-! ## Names -/

/-- At least one character, and only ASCII letters, digits and underscores. -/
def IsReferenceName (name : String) : Prop :=
  name ≠ "" ∧ ∀ c ∈ name.toList, Token.isNameChar c = true

instance (name : String) : Decidable (IsReferenceName name) :=
  decidable_of_iff (name ≠ "" ∧ name.toList.all Token.isNameChar = true)
    (and_congr_right fun _ => List.all_eq_true)

/-- A character of a name is no blank. -/
theorem Token.isBlank_of_isNameChar {c : Char} (h : isNameChar c = true) :
    Text.isBlank c = false := by
  simp only [isNameChar, Text.isAsciiLetter, Text.isAsciiUpper, Text.isAsciiLower,
    Integer.isDigit, Bool.or_eq_true, Bool.and_eq_true, decide_eq_true_eq, beq_iff_eq,
    Char.le_def, UInt32.le_iff_toNat_le] at h
  have hbounds : 48 ≤ c.val.toNat ∧ c.val.toNat ≤ 122 := by
    rcases h with (((h | h) | h) | rfl)
    · change 65 ≤ c.val.toNat ∧ c.val.toNat ≤ 90 at h
      omega
    · change 97 ≤ c.val.toNat ∧ c.val.toNat ≤ 122 at h
      omega
    · change 48 ≤ c.val.toNat ∧ c.val.toNat ≤ 57 at h
      omega
    · decide
  simp only [Text.isBlank, Char.toNat, Bool.or_eq_false_iff, Bool.and_eq_false_iff,
    decide_eq_false_iff_not, beq_eq_false_iff_ne]
  omega

theorem IsReferenceName.not_mem {name : String} (h : IsReferenceName name) {c : Char}
    (hc : Token.isNameChar c = false) : c ∉ name.toList := fun hmem => by
  rw [h.2 c hmem] at hc
  cases hc

/-! ## Paths -/

/-- Names that lead from an object to a value in it, the outermost first. -/
abbrev Path := List String

namespace Path

/-- Every name can stand in a reference. -/
def IsProper (path : Path) : Prop := ∀ name ∈ path, IsReferenceName name

theorem IsProper.append {first second : Path} (h1 : first.IsProper) (h2 : second.IsProper) :
    Path.IsProper (first ++ second) := fun name hname =>
  (List.mem_append.1 hname).elim (h1 name) (h2 name)

theorem IsProper.concat {path : Path} (h : path.IsProper) {name : String}
    (hname : IsReferenceName name) : Path.IsProper (path ++ [name]) :=
  h.append fun _ hmem => List.mem_singleton.1 hmem ▸ hname

/-- The names with points between them. -/
def text (path : Path) : String := ".".intercalate path

theorem toList_text (path : Path) : path.text.toList = ['.'].intercalate (path.map String.toList) :=
  String.toList_intercalate

/-- No name has a point, and the first name is not empty. -/
def IsPlain (path : Path) : Prop := path.head? ≠ some "" ∧ ∀ name ∈ path, '.' ∉ name.toList

instance (path : Path) : Decidable path.IsPlain :=
  inferInstanceAs (Decidable (path.head? ≠ some "" ∧ ∀ name ∈ path, '.' ∉ name.toList))

/-- Names that can stand in references are not empty and have no points. -/
theorem IsProper.isPlain {path : Path} (h : path.IsProper) : path.IsPlain := by
  refine ⟨fun hhead => ?_, fun name hname => (h name hname).not_mem (by decide)⟩
  exact (h "" (List.mem_of_mem_head? hhead)).1 rfl

/-- What comes first in a plain path is plain. -/
theorem IsPlain.of_append {first second : Path} (h : Path.IsPlain (first ++ second)) :
    first.IsPlain := by
  refine ⟨fun hhead => h.1 ?_, fun name hname => h.2 name (List.mem_append_left second hname)⟩
  rw [List.head?_append, hhead]
  rfl

/-- A path with names is not written as nothing. -/
theorem text_ne_empty {path : Path} (h : path.IsPlain) (hne : path ≠ []) : path.text ≠ "" := by
  cases path with
  | nil => exact absurd rfl hne
  | cons name rest =>
    have hname : name ≠ "" := fun heq => h.1 (by rw [heq]; rfl)
    cases rest with
    | nil => simpa [text] using hname
    | cons second rest => simp [text, hname]

theorem text_append_singleton {path : Path} (hne : path ≠ []) (name : String) :
    (path ++ [name]).text = path.text ++ "." ++ name := by
  rw [text, String.intercalate_append_of_ne_nil hne (List.cons_ne_nil name []),
    String.intercalate_singleton]
  rfl

/-- **What is written determines the path**, because names have no points.

**Proof sketch.** Splitting at the points gives the names back. -/
theorem text_injective {first second : Path} (h1 : first.IsPlain) (h2 : second.IsPlain)
    (h : first.text = second.text) : first = second := by
  have hsplit : ∀ path : Path, path.IsPlain → path ≠ [] →
      path.text.toList.splitOn '.' = path.map String.toList := by
    intro path hplain hne
    rw [toList_text]
    refine List.splitOn_intercalate '.' (fun part hpart => ?_) (by simpa using hne)
    obtain ⟨name, hname, rfl⟩ := List.mem_map.1 hpart
    exact hplain.2 name hname
  by_cases hne1 : first = []
  · subst hne1
    by_contra hne
    exact text_ne_empty h2 (Ne.symm hne) h.symm
  · by_cases hne2 : second = []
    · subst hne2
      exact absurd h (text_ne_empty h1 hne1)
    · have hmaps := hsplit first h1 hne1
      rw [h, hsplit second h2 hne2] at hmaps
      exact ((List.map_inj_right fun _ _ => String.toList_inj.1).1 hmaps).symm

end Path

/-- The key of a property depends on the place only. -/
theorem Scope.key_congr {first second : Scope} (h : first.path = second.path) (name : String) :
    first.key name = second.key name := by
  rw [key, key, h]

/-- The key of a property in the place of a path is the path of the property as written. -/
theorem Scope.key_eq_text {scope : Scope} {path : Path} (hplain : path.IsPlain)
    (hpath : scope.path = path.text) (name : String) :
    scope.key name = Path.text (path ++ [name]) := by
  unfold key
  by_cases hne : path = []
  · subst hne
    rw [if_pos (by rw [hpath]; rfl)]
    simp [Path.text]
  · rw [hpath, if_neg (Path.text_ne_empty hplain hne), Path.text_append_singleton hne]

/-- The place to which names lead from the place where a run begins. -/
def Path.place (path : Path) : Scope := path.foldl Scope.child Scope.root

theorem Path.place_append_singleton (path : Path) (name : String) :
    Path.place (path ++ [name]) = path.place.child name := by
  rw [place, List.foldl_append]
  rfl

/-- The path of a place is the path that leads to it, as written. -/
theorem Path.path_place {path : Path} (h : path.IsPlain) : path.place.path = path.text := by
  induction path using List.reverseRecOn with
  | nil => rfl
  | append_singleton path name ih =>
    rw [place_append_singleton]
    exact Scope.key_eq_text h.of_append (ih h.of_append) name

/-! ## Paths as tokens -/

namespace Token

/-- A name is read to its end. -/
theorem nameTail_append {name : List Char} (h : ∀ c ∈ name, isNameChar c = true)
    (rest : List Char) : nameTail (name ++ rest) = name ++ nameTail rest := by
  induction name with
  | nil => rfl
  | cons c name ih =>
    have hc := h c (List.mem_cons_self ..)
    have hpoint : ∀ (d : Char) (others : List Char), c = '.' → name ++ rest = d :: others → False :=
      fun _ _ heq _ => by rw [heq] at hc; cases hc
    rw [List.cons_append, nameTail.eq_2 c (name ++ rest) hpoint, if_pos hc,
      ih fun d hd => h d (List.mem_cons_of_mem _ hd), List.cons_append]

/-- A point is read with the name behind it. -/
theorem nameTail_point {name : List Char} (hne : name ≠ []) (h : ∀ c ∈ name, isNameChar c = true)
    (rest : List Char) : nameTail ('.' :: (name ++ rest)) = '.' :: (name ++ nameTail rest) := by
  obtain ⟨c, others, rfl⟩ := List.exists_cons_of_ne_nil hne
  rw [List.cons_append, nameTail.eq_1, if_pos (h c (List.mem_cons_self ..)),
    nameTail_append fun d hd => h d (List.mem_cons_of_mem _ hd), List.cons_append]

/-- A letter begins a token, which has no arguments when the name goes to the end of the text. -/
theorem at?_of_nameTail {letter : Char} {tail : List Char}
    (hletter : Text.isAsciiLetter letter = true) (htail : nameTail tail = tail) :
    at? (letter :: tail) = some ⟨letter :: tail, none⟩ := by
  simp only [at?, hletter, if_true, htail, List.drop_length, arguments?]

/-- Such a text is a token from its at sign to its end. -/
theorem exactly?_of_nameTail {letter : Char} {tail : List Char}
    (hletter : Text.isAsciiLetter letter = true) (htail : nameTail tail = tail) :
    exactly? ('@' :: letter :: tail) = some ⟨letter :: tail, none⟩ := by
  simp [exactly?, at?_of_nameTail hletter htail, Token.text]

end Token

/-- A path is written as its first name, and the other names each behind a point. -/
theorem Path.toList_text_cons (first : String) (rest : Path) :
    (Path.text (first :: rest)).toList =
      first.toList ++ rest.flatMap fun name => '.' :: name.toList := by
  induction rest generalizing first with
  | nil => simp [text]
  | cons second rest ih =>
    have hcons : Path.text (first :: second :: rest) = first ++ "." ++ Path.text (second :: rest) :=
      String.intercalate_cons_cons
    rw [hcons, String.toList_append, String.toList_append, ih second, List.flatMap_cons]
    simp

/-- A path of at least two names means what the ledger holds there. -/
theorem Scope.find?_text (scope : Scope) (ledger : Ledger) (first : String) {rest : Path}
    (hrest : rest ≠ []) :
    scope.find? ledger (Path.text (first :: rest)) =
      ledger.value? (Path.text (first :: rest)) := by
  have hpoint : '.' ∈ (Path.text (first :: rest)).toList := by
    obtain ⟨second, others, rfl⟩ := List.exists_cons_of_ne_nil hrest
    rw [Path.toList_text_cons]
    simp
  rw [find?, if_pos hpoint]

/-- A name means what the scope holds under it. -/
theorem Scope.find?_name (scope : Scope) (ledger : Ledger) {name : String}
    (h : IsReferenceName name) : scope.find? ledger name = scope.local? name := by
  rw [find?, if_neg (h.not_mem (by decide))]

/-- Names behind points are read to the end of the last. -/
theorem Path.nameTail_points {path : Path} (h : path.IsProper) :
    Token.nameTail (path.flatMap fun name => '.' :: name.toList) =
      path.flatMap fun name => '.' :: name.toList := by
  induction path with
  | nil => rfl
  | cons name rest ih =>
    obtain ⟨hne, hchars⟩ := h name (List.mem_cons_self ..)
    rw [List.flatMap_cons, List.cons_append, Token.nameTail_point (by simpa using hne) hchars,
      ih fun other ho => h other (List.mem_cons_of_mem _ ho)]

/-- A text without blanks is not trimmed. -/
theorem Text.trim_eq_self {text : List Char} (h : ∀ c ∈ text, isBlank c = false) :
    trim text = text := by
  have hdrop : ∀ text : List Char, (∀ c ∈ text, isBlank c = false) →
      text.dropWhile isBlank = text := fun text h =>
    List.dropWhile_eq_self_iff.2 fun hpos => by simp [h _ (List.getElem_mem hpos)]
  rw [trim, trimStart, hdrop text h, trimEnd, hdrop _ fun c hc => h c (List.mem_reverse.1 hc),
    List.reverse_reverse]

/-- What a path is written with: characters of names, and points. -/
theorem Path.mem_text {path : Path} (h : path.IsProper) {c : Char} (hc : c ∈ path.text.toList) :
    Token.isNameChar c = true ∨ c = '.' := by
  cases path with
  | nil => simp [text] at hc
  | cons first rest =>
    rw [toList_text_cons, List.mem_append, List.mem_flatMap] at hc
    rcases hc with hfirst | ⟨name, hname, hc⟩
    · exact Or.inl ((h first (List.mem_cons_self ..)).2 c hfirst)
    · rcases List.mem_cons.1 hc with hpoint | hc
      · exact Or.inr hpoint
      · exact Or.inl ((h name (List.mem_cons_of_mem _ hname)).2 c hc)

/-- **A path behind an at sign is a token without arguments** when it begins with a letter. -/
theorem Path.whole?_text {first : String} {rest : Path} (h : Path.IsProper (first :: rest))
    (hletter : first.toList.head?.any Text.isAsciiLetter = true) :
    Token.whole? ('@' :: (Path.text (first :: rest)).toList) =
      some ⟨(Path.text (first :: rest)).toList, none⟩ := by
  have hblank : ∀ c ∈ '@' :: (Path.text (first :: rest)).toList, Text.isBlank c = false := by
    intro c hc
    rcases List.mem_cons.1 hc with rfl | hc
    · decide
    · rcases mem_text h hc with hname | rfl
      · exact Token.isBlank_of_isNameChar hname
      · decide
  have hchars := (h first (List.mem_cons_self ..)).2
  have htail := nameTail_points fun other ho => h other (List.mem_cons_of_mem first ho)
  rw [Token.whole?, Text.trim_eq_self hblank, toList_text_cons]
  generalize first.toList = letters at hletter hchars
  cases letters with
  | nil => cases hletter
  | cons letter letters =>
    rw [List.cons_append]
    refine Token.exactly?_of_nameTail (by simpa using hletter) ?_
    rw [Token.nameTail_append fun c hc => hchars c (List.mem_cons_of_mem _ hc), htail]

/-! ## Values at paths -/

/-- The value to which a path leads, through objects only. -/
def Json.at? : Json → Path → Option Json
  | value, [] => some value
  | .obj members, name :: rest => (Dictionary.get? members name).bind fun value => value.at? rest
  | _, _ :: _ => none

/-- In a value that is no object a path with names leads nowhere. -/
theorem Json.at?_eq_none {value : Json} (h : value.kind? ≠ some .object) {path : Path}
    (hne : path ≠ []) : value.at? path = none := by
  obtain ⟨name, rest, rfl⟩ := List.exists_cons_of_ne_nil hne
  cases value with
  | obj members => exact absurd rfl h
  | _ => rfl

end Specimen

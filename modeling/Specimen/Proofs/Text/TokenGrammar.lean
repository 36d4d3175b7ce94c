import Specimen.Proofs.Text.Tokens

set_option autoImplicit false

/-!
# The grammar of tokens

A token is written as an at sign, a name and perhaps arguments in parentheses. The name is an ASCII
letter, further characters of names, and groups of such characters, each behind a point. The
arguments have no closing parenthesis. What is read behind an at sign is the longest token that
stands there, and when nothing is read none stands there.

## Main definitions

* `Specimen.Token.IsTail`, `Specimen.Token.IsName`, `Specimen.Token.IsProper` — the grammar.
* `Specimen.Token.IsLongest` — a token at the front of a text that is at least as long as any other
  there.

## Main results

* `Specimen.Token.nameTail_eq_append` — no tail of a name goes further than the one that is read.
* `Specimen.Token.eq_or_length_lt` — all other tokens there are shorter than the one that is read.
* `Specimen.Token.at?_eq_some_iff`, `Specimen.Token.at?_eq_none_iff` — what is read.
* `Specimen.Token.whole?_eq_none_iff` — when a text is more, or less, than a token.
-/

namespace Specimen.Token

/-! ## The grammar -/

/-- What carries a name on behind its first letter: characters of names, and groups of such
characters, each behind a point. -/
def IsTail (tail : List Char) : Prop :=
  ∃ (word : List Char) (groups : List (List Char)),
    tail = word ++ groups.flatMap (fun group => '.' :: group) ∧
      (∀ c ∈ word, isNameChar c = true) ∧
      ∀ group ∈ groups, group ≠ [] ∧ ∀ c ∈ group, isNameChar c = true

/-- A letter, and what carries a name on. -/
def IsName (name : List Char) : Prop :=
  ∃ (letter : Char) (tail : List Char),
    name = letter :: tail ∧ Text.isAsciiLetter letter = true ∧ IsTail tail

/-- A name, perhaps with arguments that have no closing parenthesis. -/
def IsProper (token : Token) : Prop :=
  IsName token.name ∧ ∀ arguments, token.arguments = some arguments → ')' ∉ arguments

/-- The token stands at the front of a text, and no longer token does. -/
def IsLongest (token : Token) (text : List Char) : Prop :=
  token.IsProper ∧ token.text <+: text ∧
    ∀ other : Token, other.IsProper → other.text <+: text →
      other.text.length ≤ token.text.length

/-! ## Tails of names -/

/-- A character of a name goes on with a tail. -/
theorem IsTail.cons {tail : List Char} (h : IsTail tail) {c : Char} (hc : isNameChar c = true) :
    IsTail (c :: tail) := by
  obtain ⟨word, groups, rfl, hword, hgroups⟩ := h
  exact ⟨c :: word, groups, rfl, List.forall_mem_cons.2 ⟨hc, hword⟩, hgroups⟩

/-- So does a point with such a character. -/
theorem IsTail.point {tail : List Char} (h : IsTail tail) {c : Char} (hc : isNameChar c = true) :
    IsTail ('.' :: c :: tail) := by
  obtain ⟨word, groups, rfl, hword, hgroups⟩ := h
  refine ⟨[], (c :: word) :: groups, rfl, nofun, List.forall_mem_cons.2 ⟨⟨?_, ?_⟩, hgroups⟩⟩
  · simp
  · exact List.forall_mem_cons.2 ⟨hc, hword⟩

/-- What is read is a tail. -/
theorem isTail_nameTail (text : List Char) : IsTail (nameTail text) := by
  have hnil : IsTail [] := ⟨[], [], rfl, nofun, nofun⟩
  fun_induction nameTail text with
  | case1 c rest hc ih => exact ih.point hc
  | case2 => exact hnil
  | case3 c rest _ hc ih => exact ih.cons hc
  | case4 => exact hnil
  | case5 => exact hnil

/-- **A tail is read to its end**, and on if more of the name follows.

**Proof sketch.** Group by group; a point is read on only when a character of a name stands behind
it. -/
theorem nameTail_eq_append {tail : List Char} (h : IsTail tail) (more : List Char) :
    nameTail (tail ++ more) = tail ++ nameTail more := by
  obtain ⟨word, groups, rfl, hword, hgroups⟩ := h
  have hpoints : nameTail (groups.flatMap (fun group => '.' :: group) ++ more) =
      groups.flatMap (fun group => '.' :: group) ++ nameTail more := by
    induction groups with
    | nil => rfl
    | cons group groups ih =>
      obtain ⟨hne, hchars⟩ := hgroups group (List.mem_cons_self ..)
      have hrest := ih fun other ho => hgroups other (List.mem_cons_of_mem _ ho)
      rw [List.flatMap_cons, List.cons_append, List.cons_append, List.append_assoc,
        nameTail_point hne hchars, hrest, List.cons_append, List.append_assoc]
  rw [List.append_assoc, nameTail_append hword, hpoints, List.append_assoc]

/-- What is read stands at the front of the text, and nothing carries the name on behind it. -/
theorem exists_nameTail (text : List Char) :
    ∃ after, text = nameTail text ++ after ∧ nameTail after = [] := by
  have hprefix : nameTail text <+: text := by
    fun_induction nameTail text with
    | case1 c rest hc ih => simpa using ih
    | case2 => exact List.nil_prefix
    | case3 c rest _ hc ih => simpa using ih
    | case4 => exact List.nil_prefix
    | case5 => exact List.nil_prefix
  obtain ⟨after, htext⟩ := hprefix
  refine ⟨after, htext.symm, ?_⟩
  have hread := nameTail_eq_append (isTail_nameTail text) after
  rw [htext] at hread
  simpa using hread.symm

/-! ## Tokens behind at signs -/

/-- How a token is written behind its name. -/
def argumentText (token : Token) : List Char :=
  match token.arguments with
  | none => []
  | some arguments => '(' :: (arguments ++ [')'])

theorem text_eq (token : Token) : token.text = '@' :: (token.name ++ token.argumentText) := by
  obtain ⟨name, arguments⟩ := token
  cases arguments <;> simp [text, argumentText]

/-- A token begins with its at sign. -/
theorem exists_of_text_prefix {token : Token} {text : List Char} (h : token.text <+: text) :
    ∃ rest, text = '@' :: rest ∧ token.name ++ token.argumentText <+: rest := by
  rw [text_eq] at h
  obtain ⟨more, rfl⟩ := h
  exact ⟨_, rfl, more, rfl⟩

/-- Arguments that are read stand between parentheses at the front of the text. -/
theorem arguments?_eq_some_iff {text arguments : List Char} :
    arguments? text = some arguments ↔
      ∃ more, text = '(' :: (arguments ++ ')' :: more) ∧ ')' ∉ arguments := by
  unfold arguments?
  split
  · rename_i rest
    constructor
    · intro h
      obtain ⟨⟨before, more⟩, hcut, rfl⟩ := Option.map_eq_some_iff.1 h
      obtain ⟨rfl, hbefore⟩ := Text.cut?_eq_some_iff.1 hcut
      exact ⟨more, rfl, hbefore⟩
    · rintro ⟨more, htext, harguments⟩
      obtain rfl : rest = arguments ++ ')' :: more := (List.cons.inj htext).2
      rw [Text.cut?_eq_some_iff.2 ⟨rfl, harguments⟩, Option.map_some]
  · rename_i hopen
    constructor
    · rintro ⟨⟩
    · rintro ⟨more, rfl, -⟩
      exact absurd rfl (hopen _)

/-- What is read behind an at sign, and what stands behind it. -/
theorem at?_cases {rest : List Char} {token : Token} (h : at? rest = some token) :
    ∃ letter tail after, rest = letter :: (tail ++ after) ∧
      Text.isAsciiLetter letter = true ∧ IsTail tail ∧ nameTail after = [] ∧
      token = ⟨letter :: tail, arguments? after⟩ := by
  cases rest with
  | nil => cases h
  | cons letter rest =>
    simp only [at?, Option.ite_none_right_eq_some, Option.some.injEq] at h
    obtain ⟨hletter, rfl⟩ := h
    obtain ⟨after, hrest, hafter⟩ := exists_nameTail rest
    have hdrop := congrArg (List.drop (nameTail rest).length) hrest
    rw [List.drop_left] at hdrop
    exact ⟨letter, nameTail rest, after, by rw [← hrest], hletter, isTail_nameTail rest, hafter,
      by rw [hdrop]⟩

/-- A token that is read is proper, and stands behind the at sign. -/
theorem isProper_of_at? {rest : List Char} {token : Token} (h : at? rest = some token) :
    token.IsProper ∧ token.text <+: '@' :: rest := by
  obtain ⟨letter, tail, after, rfl, hletter, htail, -, rfl⟩ := at?_cases h
  cases harguments : arguments? after with
  | none =>
    refine ⟨⟨⟨letter, tail, rfl, hletter, htail⟩, nofun⟩, after, ?_⟩
    rw [text_eq, argumentText, List.append_nil]
    rfl
  | some arguments =>
    obtain ⟨more, rfl, hclose⟩ := arguments?_eq_some_iff.1 harguments
    refine ⟨⟨⟨letter, tail, rfl, hletter, htail⟩, ?_⟩, more, ?_⟩
    · rintro _ ⟨⟩
      exact hclose
    · simp [text_eq, argumentText]

/-- When a token stands behind the at sign, a token is read: a letter is there. -/
theorem exists_at? {rest : List Char} {token : Token} (hproper : token.IsProper)
    (h : token.text <+: '@' :: rest) : ∃ found, at? rest = some found := by
  obtain ⟨⟨letter, tail, hname, hletter, -⟩, -⟩ := hproper
  obtain ⟨_, hcons, more, hmore⟩ := exists_of_text_prefix h
  obtain rfl := (List.cons.inj hcons).2
  rw [hname, List.cons_append, List.cons_append] at hmore
  rw [← hmore, at?, if_pos hletter]
  exact ⟨_, rfl⟩

/-- **All other tokens that stand behind the at sign are shorter** than the one that is read.

**Proof sketch.** The name of another token ends where the one that is read ends, or before. If it
has arguments, a parenthesis stands behind its name and carries no name on, so that the names are
the same, and so are the arguments, which end at the first closing parenthesis. -/
theorem eq_or_length_lt {rest : List Char} {token other : Token} (h : at? rest = some token)
    (hproper : other.IsProper) (hother : other.text <+: '@' :: rest) :
    other = token ∨ other.text.length < token.text.length := by
  obtain ⟨_, tail, after, rfl, -, htail, hafter, rfl⟩ := at?_cases h
  obtain ⟨_, arguments⟩ := other
  obtain ⟨⟨letter, found, rfl, -, hfound⟩, hclose⟩ := hproper
  obtain ⟨_, hcons, more, hmore⟩ := exists_of_text_prefix hother
  obtain rfl := (List.cons.inj hcons).2
  rw [List.append_assoc, List.cons_append, List.cons.injEq] at hmore
  obtain ⟨rfl, hmore⟩ := hmore
  have hread : tail = found ++ nameTail (argumentText ⟨letter :: found, arguments⟩ ++ more) := by
    have hwhole := nameTail_eq_append htail after
    rw [← hmore, nameTail_eq_append hfound, hafter, List.append_nil] at hwhole
    exact hwhole.symm
  cases arguments with
  | none =>
    rw [argumentText, List.nil_append] at hmore hread
    -- Without arguments the token is written as the front of the name, and perhaps as all of it.
    rcases List.eq_nil_or_concat' (nameTail more) with hnil | ⟨_, _, hlonger⟩
    · rw [hnil, List.append_nil] at hread
      subst hread
      cases harguments : arguments? after with
      | none => exact .inl rfl
      | some arguments => exact .inr (by simp [text_eq, argumentText])
    · refine .inr ?_
      simp only [text_eq, argumentText, hread, hlonger, List.length_cons, List.length_append]
      omega
  | some arguments =>
    -- The parenthesis ends the name.
    have hnil : nameTail (argumentText ⟨letter :: found, some arguments⟩ ++ more) = [] := by
      rw [argumentText, List.cons_append]
      rfl
    rw [hnil, List.append_nil] at hread
    rw [hread, List.append_cancel_left_eq] at hmore
    have hsame : arguments? after = some arguments :=
      arguments?_eq_some_iff.2 ⟨more, by simp [← hmore, argumentText], hclose _ rfl⟩
    exact .inl (by rw [hread, hsame])

/-- **What is read behind an at sign is the longest token** that stands there. -/
theorem at?_eq_some_iff {rest : List Char} {token : Token} :
    at? rest = some token ↔ IsLongest token ('@' :: rest) := by
  constructor
  · intro h
    obtain ⟨hproper, htext⟩ := isProper_of_at? h
    refine ⟨hproper, htext, fun other hother hprefix => ?_⟩
    obtain rfl | hlt := eq_or_length_lt h hother hprefix
    · exact Nat.le_refl _
    · exact Nat.le_of_lt hlt
  · rintro ⟨hproper, htext, hlongest⟩
    obtain ⟨found, hfound⟩ := exists_at? hproper htext
    obtain ⟨hfoundProper, hfoundText⟩ := isProper_of_at? hfound
    obtain rfl | hlt := eq_or_length_lt hfound hproper htext
    · exact hfound
    · exact absurd (hlongest found hfoundProper hfoundText) (Nat.not_le_of_lt hlt)

/-- Nothing is read only when no token stands there. -/
theorem at?_eq_none_iff {rest : List Char} :
    at? rest = none ↔ ∀ token : Token, token.IsProper → ¬token.text <+: '@' :: rest := by
  constructor
  · intro hnone token hproper htext
    obtain ⟨found, hfound⟩ := exists_at? hproper htext
    rw [hnone] at hfound
    cases hfound
  · intro h
    by_contra hsome
    obtain ⟨token, htoken⟩ := Option.ne_none_iff_exists'.1 hsome
    obtain ⟨hproper, htext⟩ := isProper_of_at? htoken
    exact h token hproper htext

/-- There is at most one longest token at the front of a text. -/
theorem IsLongest.unique {text : List Char} {first second : Token} (h : IsLongest first text)
    (hother : IsLongest second text) : first = second := by
  obtain ⟨rest, rfl, -⟩ := exists_of_text_prefix h.2.1
  exact Option.some.inj ((at?_eq_some_iff.2 h).symm.trans (at?_eq_some_iff.2 hother))

/-- **A text is no token by itself** exactly when, trimmed, it is written as no token is.

**Proof sketch.** A proper token is the longest one at the front of what it is written as, so it is
read there, and to the end. -/
theorem whole?_eq_none_iff {text : List Char} :
    whole? text = none ↔ ∀ token : Token, token.IsProper → Text.trim text ≠ token.text := by
  unfold whole?
  generalize Text.trim text = inner
  constructor
  · rintro hnone token hproper rfl
    have hlongest : IsLongest token token.text :=
      ⟨hproper, List.prefix_refl _, fun other _ hother => hother.length_le⟩
    obtain ⟨rest, hrest, -⟩ := exists_of_text_prefix (List.prefix_refl token.text)
    rw [hrest] at hlongest
    rw [hrest, exactly?, at?_eq_some_iff.2 hlongest, Option.filter_eq_none_iff] at hnone
    exact hnone token rfl (decide_eq_true hrest)
  · intro h
    unfold exactly?
    split
    · rename_i rest
      rw [Option.filter_eq_none_iff]
      intro token htoken hwritten
      exact h token (isProper_of_at? htoken).1 (of_decide_eq_true hwritten).symm
    · rfl

end Specimen.Token

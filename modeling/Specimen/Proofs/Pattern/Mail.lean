import Mathlib
import Specimen.Generation.Setup
import Specimen.Proofs.Pattern.Spans
import Specimen.Proofs.Random.Draws
import Specimen.Proofs.Text.Tokens

set_option autoImplicit false

/-!
# Mail addresses

A pattern with an at sign and an escaped point is answered by a mail address, whatever else it says.
The at sign of the address stands before a letter, so that the host behind it reads as a token with
a point in its name. Tokens come after patterns: the host is looked up, and it stays only when there
is no value at such a path and no function of such a name.

## Main definitions

* `Specimen.Mail` — a user, a domain and a top-level domain.
* `Specimen.Mail.host`, `Specimen.Mail.text` — what stands behind the at sign, and the address.

## Main results

* `Specimen.Pattern.gives_mail` — what is drawn for a pattern of mail addresses is one.
* `Specimen.Mail.segments_text` — an address is its user and a token.
* `Specimen.Engine.run_generateIn_mail` — what a text with such a pattern alone is generated as.
* `Specimen.Engine.run_generateIn_mail_lost` — an address whose host is the path of a value.
-/

namespace Specimen

/-- A mail address with a random user and domain. -/
structure Mail where
  /-- The characters before the at sign. -/
  user : List Char
  /-- The characters between the at sign and the point. -/
  domain : List Char
  /-- What stands behind the point. -/
  topLevel : String
  /-- The user has five to ten characters. -/
  user_length : 5 ≤ user.length ∧ user.length ≤ 10
  /-- The user is made of small letters and digits. -/
  user_mem : ∀ c ∈ user, c ∈ Pool.lowerAlphanumeric
  /-- The domain has three to eight characters. -/
  domain_length : 3 ≤ domain.length ∧ domain.length ≤ 8
  /-- The domain is made of small letters. -/
  domain_mem : ∀ c ∈ domain, c ∈ Pool.lowercase
  /-- The last part is one of the top-level domains. -/
  topLevel_mem : topLevel ∈ Pattern.mailTopLevels

namespace Mail

variable (mail : Mail)

/-- What stands behind the at sign. -/
def host : List Char := mail.domain ++ '.' :: mail.topLevel.toList

/-- The address as written. -/
def text : List Char := mail.user ++ '@' :: mail.host

/-! ## Addresses as texts with a token -/

/-- A user is made of characters of names. -/
theorem isNameChar_of_mem_user {c : Char} (h : c ∈ mail.user) : Token.isNameChar c = true := by
  have hpool : Pool.lowerAlphanumeric.all Token.isNameChar = true := rfl
  exact List.all_eq_true.1 hpool c (mail.user_mem c h)

/-- A domain is made of letters. -/
theorem isAsciiLetter_of_mem_domain {c : Char} (h : c ∈ mail.domain) :
    Text.isAsciiLetter c = true := by
  have hpool : Pool.lowercase.all Text.isAsciiLetter = true := rfl
  exact List.all_eq_true.1 hpool c (mail.domain_mem c h)

/-- A letter is a character of names. -/
theorem isNameChar_of_mem_domain {c : Char} (h : c ∈ mail.domain) :
    Token.isNameChar c = true := by
  rw [Token.isNameChar, mail.isAsciiLetter_of_mem_domain h]
  rfl

/-- A top-level domain is not empty, and made of characters of names. -/
theorem topLevel_isReferenceName : IsReferenceName mail.topLevel := by
  have hall : ∀ topLevel ∈ Pattern.mailTopLevels, IsReferenceName topLevel := by decide
  exact hall mail.topLevel mail.topLevel_mem

/-- **The host reads as a token without arguments.**

**Proof sketch.** It begins with a letter of the domain, and the name goes on over the point to the
end of the top-level domain. -/
theorem at?_host : Token.at? mail.host = some ⟨mail.host, none⟩ := by
  have hnames := fun c => @isNameChar_of_mem_domain mail c
  have hletters := fun c => @isAsciiLetter_of_mem_domain mail c
  obtain ⟨letter, letters, hdomain⟩ := List.exists_cons_of_length_pos
    (show 0 < mail.domain.length by have := mail.domain_length; omega)
  obtain ⟨hne, hchars⟩ := mail.topLevel_isReferenceName
  have htop := Token.nameTail_point (by simpa using hne) hchars []
  rw [hdomain] at hnames hletters
  rw [host, hdomain, List.cons_append]
  refine Token.at?_of_nameTail (hletters letter (List.mem_cons_self ..)) ?_
  rw [Token.nameTail_append fun c hc => hnames c (List.mem_cons_of_mem _ hc)]
  simpa [Token.nameTail] using htop

/-- **An address is its user and a token.** -/
theorem segments_text :
    segments mail.text = mail.user.map .plain ++ [.token ⟨mail.host, none⟩] := by
  have hat : '@' ∉ mail.user := fun h => by
    have hname := mail.isNameChar_of_mem_user h
    cases hname
  rw [text, segments_append hat, segments_at mail.at?_host rfl]

/-- An address is no token: it has no blanks, and does not begin with an at sign. -/
theorem whole?_text : Token.whole? mail.text = none := by
  have hblank : ∀ c ∈ mail.text, Text.isBlank c = false := by
    intro c hc
    simp only [text, host, List.mem_append, List.mem_cons] at hc
    rcases hc with huser | rfl | hdomain | rfl | htop
    · exact Token.isBlank_of_isNameChar (mail.isNameChar_of_mem_user huser)
    · decide
    · exact Token.isBlank_of_isNameChar (mail.isNameChar_of_mem_domain hdomain)
    · decide
    · exact Token.isBlank_of_isNameChar (mail.topLevel_isReferenceName.2 c htop)
  have hnames := fun c => @isNameChar_of_mem_user mail c
  obtain ⟨first, others, huser⟩ := List.exists_cons_of_length_pos
    (show 0 < mail.user.length by have := mail.user_length; omega)
  rw [Token.whole?, Text.trim_eq_self hblank, text, huser, List.cons_append, Token.exactly?]
  intro rest heq
  rw [huser, (List.cons.inj heq).1] at hnames
  cases hnames '@' (List.mem_cons_self ..)

end Mail

/-! ## Patterns of mail addresses -/

namespace Pattern

/-- **What is drawn for a pattern of mail addresses** is a mail address. -/
theorem gives_mail : Gives synthesizeMail fun text => ∃ mail : Mail, text = mail.text := by
  have huser := Draw.gives_textBetween (by decide : 5 ≤ 10) (by decide)
    (by decide : Pool.lowerAlphanumeric ≠ [])
  have hdomain := Draw.gives_textBetween (by decide : 3 ≤ 8) (by decide)
    (by decide : Pool.lowercase ≠ [])
  have hindex : Gives (Draw.index mailTopLevels.length) (· < mailTopLevels.length) :=
    Draw.index_lt (by decide)
  refine huser.bind fun user hu => hdomain.bind fun domain hd => hindex.bind fun n hn => ?_
  refine gives_pure ⟨⟨user, domain, mailTopLevels[n], hu.1, hu.2, hd.1, hd.2,
    List.getElem_mem hn⟩, ?_⟩
  rw [List.getD_eq_getElem _ _ hn]
  rfl

/-- A text that is one span becomes what is made for the pattern. -/
theorem run_expand_span {pattern : List Char} (hform : isWellFormed pattern = true)
    (hne : pattern ≠ []) (hslash : '/' ∉ pattern) (hline : '\n' ∉ pattern) (source : Source) :
    (expand ('/' :: (pattern ++ ['/']))).run source = (synthesize pattern).run source := by
  have hbody : IsBody pattern := ⟨hne, hline, fun h => hslash (List.mem_of_mem_tail h)⟩
  have hlast : marks.Cuts [] [] [] := .last (Text.isGap_nil _ _)
  have hcuts : marks.Cuts ('/' :: (pattern ++ ['/'])) [([], pattern)] [] := by
    have hspan : marks.Cuts ((Piece.span pattern).text ++ []) [([], pattern)] [] :=
      hlast.cons_mark hbody
    rwa [List.append_nil] at hspan
  rw [expand, expandBy_of_cuts hcuts, Text.fill, replace, if_pos hform, run_bind]
  simp only [Text.fill, run_bind, run_pure, List.nil_append, List.append_nil]
  rfl

end Pattern

/-! ## Texts of one pattern -/

namespace Engine

variable (engine : Engine)

/-- An address means its user and what takes the place of its host. -/
theorem run_resolve_mail (references : References) (mail : Mail) (source : Source) :
    ((engine.resolve references mail.text).run source).1 =
      .str (String.ofList (mail.user ++
        ((engine.resolveSegment references (.token ⟨mail.host, none⟩)).run source).1)) := by
  rw [resolve, mail.whole?_text]
  dsimp only
  rw [run_bind, resolveSegments, mail.segments_text, run_bind,
    Draw.run_forEach_copy_append (engine.resolveSegment references) .plain fun _ => rfl]
  simp only [Draw.forEach, run_bind, run_pure, List.flatten_append, List.flatten_cons,
    List.flatten_nil, List.append_nil]
  rw [← List.flatMap_def, List.flatMap_singleton']

/-- **A text that is a pattern of mail addresses** is generated as the user of an address with what
takes the place of its host, which is looked up as the name of a token. A value that has been
generated at the path which the host writes takes that place; the address is whole when there is no
such value, and no function of such a name.

**Proof sketch.** The text is one span, which becomes an address. The address is no token, and its
only token is the host, whose name has a point, so that it is looked up in the ledger. -/
theorem run_generateIn_mail {pattern : String}
    (hform : Pattern.isWellFormed pattern.toList = true)
    (hmail : Pattern.looksLikeMail pattern.toList = true) (hslash : '/' ∉ pattern.toList)
    (hline : '\n' ∉ pattern.toList) (scope : Scope) (progress : Progress) :
    ∃ (mail : Mail) (rest : List Char),
      ((engine.generateIn (.str ("/" ++ pattern ++ "/")) scope).run progress).1 =
        .str (String.ofList (mail.user ++ rest)) ∧
      (∀ value, progress.ledger.value? (String.ofList mail.host) = some value →
        rest = value.asText.toList) ∧
      (progress.ledger.value? (String.ofList mail.host) = none →
        engine.registry.contains (String.ofList mail.host) = false →
        engine.extensions.contains (String.ofList mail.host) = false →
          rest = '@' :: mail.host) := by
  have hne : pattern.toList ≠ [] := fun h => by
    rw [h] at hmail
    cases hmail
  have htext : ("/" ++ pattern ++ "/").toList = '/' :: (pattern.toList ++ ['/']) := by
    rw [String.toList_append, String.toList_append]
    rfl
  obtain ⟨mail, hdrawn⟩ := Pattern.gives_mail progress.source
  have hexpand := Pattern.run_expand_span hform hne hslash hline progress.source
  rw [Pattern.synthesize, if_pos hmail] at hexpand
  have hpoint : '.' ∈ (String.ofList mail.host).toList := by
    rw [String.toList_ofList, Mail.host]
    exact List.mem_append_right _ (List.mem_cons_self ..)
  have hfind : scope.find? progress.ledger (String.ofList mail.host) =
      progress.ledger.value? (String.ofList mail.host) := if_pos hpoint
  rw [generateIn_str, run_produceText, htext, hexpand, hdrawn]
  refine ⟨mail, _, engine.run_resolve_mail _ mail _, fun value hvalue => ?_,
    fun hnone hregistry hextensions => ?_⟩
  · rw [resolveSegment, engine.resolveToken_of_value (hfind.trans hvalue)]
    rfl
  · rw [resolveSegment, run_bind, engine.run_resolveToken_of_unknown (hfind.trans hnone) hregistry
      hextensions]
    rfl

/-- With nothing in the ledger and no functions, any address stays whole. -/
theorem run_generateIn_mail_whole :
    Pattern.isWellFormed "[a-z]+@x\\.(com|org)".toList = true ∧
    Pattern.looksLikeMail "[a-z]+@x\\.(com|org)".toList = true ∧
    ∃ mail : Mail,
      (((Engine.mk ⟨.enUS, 0⟩ Registry.empty Extensions.empty []).generateIn
        (.str ("/" ++ "[a-z]+@x\\.(com|org)" ++ "/")) Scope.root).run ⟨default, Ledger.empty⟩).1 =
          .str (String.ofList mail.text) := by
  have hform : Pattern.isWellFormed "[a-z]+@x\\.(com|org)".toList = true := by cbv
  have hmail : Pattern.looksLikeMail "[a-z]+@x\\.(com|org)".toList = true := by cbv
  obtain ⟨mail, rest, hrun, -, hrest⟩ := run_generateIn_mail
    (Engine.mk ⟨.enUS, 0⟩ Registry.empty Extensions.empty []) hform hmail
    (by decide) (by decide) Scope.root ⟨default, Ledger.empty⟩
  rw [hrest rfl rfl rfl] at hrun
  exact ⟨hform, hmail, mail, hrun⟩

/-- An address that is lost: the host `aaa.com` is the path of a number, which takes its place. -/
theorem run_generateIn_mail_lost :
    Pattern.isWellFormed "@\\.".toList = true ∧ Pattern.looksLikeMail "@\\.".toList = true ∧
    (((standard ⟨.enUS, 0⟩).generate (.obj [("aaa", .obj [("com", .num (.int 5))]),
      ("mail", .str "/@\\./")])).run default).1 =
        .obj [("aaa", .obj [("com", .num (.int 5))]), ("mail", .str "aaaaa5")] ∧
    ∀ mail : Mail, String.ofList mail.text ≠ "aaaaa5" := by
  refine ⟨by cbv, by cbv, by cbv, fun mail h => ?_⟩
  have hlist := congrArg String.toList h
  rw [String.toList_ofList] at hlist
  have hat : '@' ∈ mail.text := List.mem_append_right _ (List.mem_cons_self ..)
  rw [hlist] at hat
  revert hat
  decide

end Engine

end Specimen

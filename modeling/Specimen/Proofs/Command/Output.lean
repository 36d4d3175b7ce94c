import Specimen.Proofs.Command.Effects
import Specimen.Proofs.Command.Folder
import Specimen.Proofs.Generation.Timeless

set_option autoImplicit false

/-!
# The output of a run

Everything that can fail is tried before the output of a request to generate appears. A run of such
a request that fails has therefore done nothing but add to its log, and one that ends well has put
its output in one place. The list of placeholders is printed line by line, so that a standard output
that refuses one of the lines has the lines before it.

## Main definitions

* `Specimen.Command.Generation.rendered?` — the text of the value that a request generates.
* `Specimen.Command.Invocation.IsOrderly` — nothing but additions to a log, and one output at most.
* `Specimen.Command.Stops` — texts are printed up to one that the standard output refuses.
* `Specimen.Command.IsApart` — the paths for the output and the log lead to different places, and
  neither to the standard output.

## Main results

* `Specimen.Command.Invocation.isOrderly_run` — what the run of a request to generate does.
* `Specimen.Command.Invocation.exists_of_run_ne_success` — what a run that fails has done.
* `Specimen.Command.Generation.rendered?_congr` — the text of a request at different times.
* `Specimen.Command.run_output` — where the output of a run appears, and where none does.
-/

namespace Specimen.Command

/-! ## Requests to generate -/

namespace Generation

/-- The text of the value that a request generates, when its options and its template are found. -/
def rendered? (request : Generation) (surroundings : Surroundings) : Option String := do
  let options ← request.options? surroundings
  let template ← request.template? surroundings
  let engine := Engine.ofOptions options surroundings.now
  let value := ((request.draw engine template).run (options.source surroundings.spareSeed)).1
  some (if request.pretty then value.renderPretty else value.render)

/-- The effect that puts a text in the place for the output. -/
def emit (request : Generation) (text : String) : Effect :=
  match request.out with
  | none => .print text
  | some path => .write path text

/-- It leads to the path of the request, and is nothing else. -/
theorem path?_emit (request : Generation) (text : String) :
    (request.emit text).path? = request.out := by
  unfold emit
  split <;> rename_i hout <;> rw [hout] <;> rfl

theorem emission?_emit (request : Generation) (text : String) :
    (request.emit text).emission? = some (request.out, text) := by
  unfold emit
  split <;> rename_i hout <;> rw [hout] <;> rfl

/-- **What a request does**: it fails before its output, with nothing but logged events, or puts the
text of its value and a new line in one place.

**Proof sketch.** The options and the template are found first, and the place for the output is
tried before anything is put there. -/
theorem run_cases (request : Generation) (surroundings : Surroundings)
    (log : Event → List Effect) :
    (∃ events : List Event,
      request.run surroundings log = ⟨.failure, events.flatMap log⟩) ∨
    ∃ (rendered : String) (before after : List Event),
      request.rendered? surroundings = some rendered ∧
        request.run surroundings log =
          ⟨.success,
            before.flatMap log ++ request.emit (rendered ++ "\n") :: after.flatMap log⟩ := by
  unfold run
  split
  · rename_i options template hoptions htemplate
    have hrendered : ∃ rendered, request.rendered? surroundings = some rendered ∧
        request.outputFor surroundings options template = rendered ++ "\n" := by
      simp only [rendered?, hoptions, htemplate]
      exact ⟨_, rfl, rfl⟩
    obtain ⟨rendered, hsome, houtput⟩ := hrendered
    dsimp only
    split
    · rename_i hout
      split
      · refine .inr ⟨rendered, [.started request.template request.count options], [.finished],
          hsome, ?_⟩
        rw [houtput, emit, hout]
        simp
      · exact .inl ⟨[.started request.template request.count options], by simp⟩
    · rename_i path hout
      split
      · refine .inr ⟨rendered, [.started request.template request.count options],
          [.written path, .finished], hsome, ?_⟩
        rw [houtput, emit, hout]
        simp
      · exact .inl ⟨[.started request.template request.count options], by simp⟩
  · exact .inl ⟨[], rfl⟩

end Generation

/-! ## Texts that are printed one after the other -/

/-- Of texts that are printed one after the other some have been taken, and the next one is
refused. -/
def Stops (canPrint : String → String → Bool) (texts taken : List String) : Prop :=
  ∃ refused rest, texts = taken ++ refused :: rest ∧
    canPrint (String.join taken) refused = false

/-- **Texts that are printed one after the other** are all taken, or the run stops at one of them.

**Proof sketch.** By induction on the texts, for any texts that were taken before. -/
theorem printAll_cases (canPrint : String → String → Bool) (texts : List String) :
    printAll canPrint "" texts = ⟨.success, texts.map .print⟩ ∨
      ∃ taken, printAll canPrint "" texts = ⟨.failure, taken.map .print⟩ ∧
        Stops canPrint texts taken := by
  have hfrom : ∀ before : List String,
      printAll canPrint (String.join before) texts = ⟨.success, texts.map .print⟩ ∨
        ∃ taken, printAll canPrint (String.join before) texts = ⟨.failure, taken.map .print⟩ ∧
          Stops canPrint (before ++ texts) (before ++ taken) := by
    induction texts with
    | nil => exact fun _ => .inl rfl
    | cons text texts ih =>
      intro before
      cases htakes : canPrint (String.join before) text with
      | false =>
        refine .inr ⟨[], ?_, text, texts, ?_, ?_⟩
        · simp only [printAll, htakes, Bool.false_eq_true, if_false, List.map_nil]
        · rw [List.append_nil]
        · rwa [List.append_nil]
      | true =>
        have hjoin : String.join before ++ text = String.join (before ++ [text]) := by
          simp [String.join_append]
        simp only [printAll, htakes, if_true, hjoin]
        rcases ih (before ++ [text]) with heq | ⟨taken, heq, hstops⟩
        · exact .inl (by rw [heq, List.map_cons])
        · refine .inr ⟨text :: taken, by rw [heq, List.map_cons], ?_⟩
          simpa using hstops
  exact hfrom []

/-! ## Invocations -/

namespace Invocation

/-- The surroundings after the log file was opened. -/
def opened (invocation : Invocation) (surroundings : Surroundings) : Surroundings :=
  match invocation.log.file with
  | none => surroundings
  | some path => { surroundings with files := surroundings.files.afterOpening path }

theorem canPrint_opened (invocation : Invocation) (surroundings : Surroundings) :
    (invocation.opened surroundings).canPrint = surroundings.canPrint := by
  unfold opened
  split <;> rfl

/-- The effect adds to the log file. -/
def Logs (invocation : Invocation) (effect : Effect) : Prop :=
  ∃ path text, invocation.log.file = some path ∧ effect = .append path text

theorem logs_of_mem_flatMap {invocation : Invocation} {surroundings : Surroundings}
    {events : List Event} {effect : Effect}
    (h : effect ∈ events.flatMap (invocation.logEvent surroundings)) : invocation.Logs effect := by
  obtain ⟨event, -, hmem⟩ := List.mem_flatMap.1 h
  unfold logEvent at hmem
  split at hmem
  · rename_i path hpath
    split at hmem
    · exact ⟨path, _, hpath, List.mem_singleton.1 hmem⟩
    · cases hmem
  · cases hmem

/-- What the run of a request to generate may do: it adds to its log, and when it ends well it puts
a text and a new line in one place. -/
inductive IsOrderly (invocation : Invocation) (request : Generation) (text : Option String) :
    Outcome → Prop where
  /-- The run fails before its output. -/
  | failed {effects : List Effect} (hlogs : ∀ effect ∈ effects, invocation.Logs effect) :
    invocation.IsOrderly request text ⟨.failure, effects⟩
  /-- The run ends well. -/
  | ended {rendered : String} {before after : List Effect} (htext : text = some rendered)
      (hlogs : ∀ effect ∈ before ++ after, invocation.Logs effect) :
    invocation.IsOrderly request text
      ⟨.success, before ++ request.emit (rendered ++ "\n") :: after⟩

/-- More additions to the log at the start do not matter. -/
theorem IsOrderly.prepend {invocation : Invocation} {request : Generation} {text : Option String}
    {outcome : Outcome} (h : invocation.IsOrderly request text outcome) {opening : List Effect}
    (hopening : ∀ effect ∈ opening, invocation.Logs effect) :
    invocation.IsOrderly request text { outcome with effects := opening ++ outcome.effects } := by
  cases h with
  | failed hlogs => exact .failed (List.forall_mem_append.2 ⟨hopening, hlogs⟩)
  | ended htext hlogs =>
    have hall := List.forall_mem_append.2 ⟨hopening, hlogs⟩
    rw [← List.append_assoc] at hall ⊢
    exact .ended htext hall

/-- The run of a request to generate is orderly, apart from opening the log file. -/
theorem isOrderly_runRequest {invocation : Invocation} {request : Generation}
    (hrequest : invocation.request = .generate request) (surroundings : Surroundings) :
    invocation.IsOrderly request (request.rendered? surroundings)
      (invocation.runRequest surroundings) := by
  rw [runRequest, hrequest]
  dsimp only
  rcases request.run_cases surroundings (invocation.logEvent surroundings) with
    ⟨events, heq⟩ | ⟨rendered, before, after, hsome, heq⟩
  · rw [heq]
    exact .failed fun effect hmem => logs_of_mem_flatMap hmem
  · rw [heq]
    refine .ended hsome fun effect hmem => ?_
    rw [← List.flatMap_append] at hmem
    exact logs_of_mem_flatMap hmem

/-- A run opens its log file, and fails if it cannot; all else it does for its request. -/
theorem run_eq (invocation : Invocation) (surroundings : Surroundings) :
    invocation.run surroundings = ⟨.failure, []⟩ ∨
      ∃ opening : List Effect, (∀ effect ∈ opening, invocation.Logs effect) ∧
        invocation.run surroundings =
          { invocation.runRequest (invocation.opened surroundings) with
            effects := opening ++
              (invocation.runRequest (invocation.opened surroundings)).effects } := by
  cases hfile : invocation.log.file with
  | none =>
    refine .inr ⟨[], nofun, ?_⟩
    simp only [run, opened, hfile, List.nil_append]
  | some path =>
    by_cases hopen : surroundings.files.canAppend path = true
    · refine .inr ⟨[.append path ""], fun effect hmem => ?_, ?_⟩
      · exact ⟨path, "", hfile, List.mem_singleton.1 hmem⟩
      · simp only [run, opened, hfile, hopen, if_true, List.singleton_append]
    · refine .inl ?_
      simp only [run, hfile, hopen, Bool.false_eq_true, if_false]

/-- **The run of a request to generate is orderly.** -/
theorem isOrderly_run {invocation : Invocation} {request : Generation}
    (hrequest : invocation.request = .generate request) (surroundings : Surroundings) :
    invocation.IsOrderly request (request.rendered? (invocation.opened surroundings))
      (invocation.run surroundings) := by
  rcases invocation.run_eq surroundings with heq | ⟨opening, hopening, heq⟩
  · rw [heq]
    exact .failed nofun
  · rw [heq]
    exact (isOrderly_runRequest hrequest _).prepend hopening

/-- **What a run that fails has done**: it has added to its log, and has printed nothing unless it
lists the placeholders; then it has printed the lines before one that the standard output
refuses.

**Proof sketch.** A request to generate that fails has only logged, because its output comes last.
The lines of the placeholders are printed one after the other, up to one that is refused. -/
theorem exists_of_run_ne_success {invocation : Invocation} {surroundings : Surroundings}
    (h : (invocation.run surroundings).status ≠ .success) :
    ∃ (logs : List Effect) (taken : List String),
      (invocation.run surroundings).effects = logs ++ taken.map .print ∧
        (∀ effect ∈ logs, invocation.Logs effect) ∧
        (taken ≠ [] → invocation.request = .placeholders ∧
          Stops surroundings.canPrint placeholderLines taken) := by
  cases hrequest : invocation.request with
  | generate request =>
    have horderly := isOrderly_run hrequest surroundings
    generalize invocation.run surroundings = outcome at h horderly
    cases horderly with
    | failed hlogs => exact ⟨_, [], (List.append_nil _).symm, hlogs, fun hne => absurd rfl hne⟩
    | ended => exact absurd rfl h
  | placeholders =>
    rcases invocation.run_eq surroundings with heq | ⟨opening, hopening, heq⟩
    · exact ⟨[], [], by rw [heq]; rfl, nofun, fun hne => absurd rfl hne⟩
    · simp only [runRequest, hrequest, canPrint_opened] at heq
      rcases printAll_cases surroundings.canPrint placeholderLines with
        hall | ⟨taken, hfail, hstops⟩
      · rw [heq, hall] at h
        exact absurd rfl h
      · exact ⟨opening, taken, by rw [heq, hfail], hopening, fun _ => ⟨rfl, hstops⟩⟩

/-- Additions to the log show nothing when the log does not go to the standard output. -/
theorem Logs.printed_eq_empty {invocation : Invocation} {files : Files} {effect : Effect}
    (h : invocation.Logs effect)
    (hlog : ∀ path ∈ invocation.log.file, files.place path ≠ .output) :
    effect.printed files = "" := by
  obtain ⟨path, text, hpath, rfl⟩ := h
  exact if_neg (hlog path hpath)

/-- They lead to the path of the log. -/
theorem Logs.path?_eq {invocation : Invocation} {effect : Effect} (h : invocation.Logs effect) :
    effect.path? = invocation.log.file := by
  obtain ⟨path, text, hpath, rfl⟩ := h
  exact hpath.symm

theorem Logs.mem_of_path? {invocation : Invocation} {effect : Effect} (h : invocation.Logs effect)
    {path : String} (hpath : path ∈ effect.path?) : path ∈ invocation.log.file.toList := by
  rw [h.path?_eq] at hpath
  exact Option.mem_toList.2 hpath

/-- They put nothing out. -/
theorem emission?_eq_none_of_logs {invocation : Invocation} {effects : List Effect}
    (h : ∀ effect ∈ effects, invocation.Logs effect) :
    effects.filterMap Effect.emission? = [] := by
  rw [List.filterMap_eq_nil_iff]
  intro effect hmem
  obtain ⟨path, text, -, rfl⟩ := h effect hmem
  rfl

/-- When all else puts something out, only the log is added to. -/
theorem appendsOnlyTo_of_logs {invocation : Invocation} {status : Status} {effects : List Effect}
    (h : ∀ effect ∈ effects, invocation.Logs effect ∨ effect.emission? ≠ none) :
    Outcome.AppendsOnlyTo ⟨status, effects⟩ invocation.log.file := by
  intro path text hmem
  rcases h _ hmem with hlogs | hemission
  · exact hlogs.path?_eq.symm
  · exact absurd rfl hemission

/-! ## One output among additions to the log -/

section Output

variable {invocation : Invocation} {request : Generation} {files : Files} {status : Status}
  {text : String} {before after : List Effect}

/-- All effects are the output and additions to the log. -/
theorem eq_or_logs_of_mem (hlogs : ∀ effect ∈ before ++ after, invocation.Logs effect)
    {effect : Effect} (h : effect ∈ before ++ request.emit text :: after) :
    effect = request.emit text ∨ invocation.Logs effect := by
  rw [List.mem_append, List.mem_cons, or_left_comm, ← List.mem_append] at h
  exact h.imp_right (hlogs effect)

/-- The output is put out in one place. -/
theorem emissions_emit (hlogs : ∀ effect ∈ before ++ after, invocation.Logs effect) :
    Outcome.emissions ⟨status, before ++ request.emit text :: after⟩ = [(request.out, text)] := by
  obtain ⟨hbefore, hafter⟩ := List.forall_mem_append.1 hlogs
  rw [Outcome.emissions, List.filterMap_append, List.filterMap_cons, request.emission?_emit,
    emission?_eq_none_of_logs hbefore, emission?_eq_none_of_logs hafter]
  rfl

theorem appendsOnlyTo_emit (hlogs : ∀ effect ∈ before ++ after, invocation.Logs effect) :
    Outcome.AppendsOnlyTo ⟨status, before ++ request.emit text :: after⟩ invocation.log.file := by
  refine appendsOnlyTo_of_logs fun effect hmem => ?_
  rcases eq_or_logs_of_mem hlogs hmem with rfl | hlog
  · rw [request.emission?_emit]
    exact .inr (Option.some_ne_none _)
  · exact .inl hlog

/-- It appears on the standard output when it has no path. -/
theorem printed_emit (hlogs : ∀ effect ∈ before ++ after, invocation.Logs effect)
    (hlog : ∀ path ∈ invocation.log.file, files.place path ≠ .output)
    (hout : ∀ path ∈ request.out, files.place path ≠ .output) :
    Outcome.printed files ⟨status, before ++ request.emit text :: after⟩ =
      if request.out = none then text else "" := by
  obtain ⟨hbefore, hafter⟩ := List.forall_mem_append.1 hlogs
  rw [Outcome.printed_append, Outcome.printed_cons,
    Outcome.printed_eq_empty fun effect hmem => (hbefore effect hmem).printed_eq_empty hlog,
    Outcome.printed_eq_empty fun effect hmem => (hafter effect hmem).printed_eq_empty hlog,
    String.empty_append, String.append_empty]
  unfold Generation.emit
  split
  · rename_i hnone
    rw [if_pos hnone]
    rfl
  · rename_i path hpath
    rw [if_neg (by simp [hpath])]
    exact if_neg (hout path hpath)

/-- It is what the file at its path holds: what is logged behind it goes to another file. -/
theorem contents_emit (hlogs : ∀ effect ∈ before ++ after, invocation.Logs effect)
    {path name : String} (hpath : path ∈ request.out) (hname : files.place path = .file name)
    (hplaces : ∀ other ∈ invocation.log.file, files.place path ≠ files.place other)
    (held : Contents) :
    Outcome.contents files ⟨status, before ++ request.emit text :: after⟩ held name =
      some text.toUTF8 := by
  have hwrite : request.emit text = .write path text := by
    rw [Generation.emit, Option.mem_def.1 hpath]
  rw [hwrite]
  refine Outcome.contents_write hname (fun effect hmem other hother heq => ?_) _ held
  rw [(hlogs effect (List.mem_append_right _ hmem)).path?_eq] at hother
  exact hplaces other hother (hname.trans heq.symm)

/-- No other file than that one and the log is made or changed. -/
theorem changesOnly_emit (hlogs : ∀ effect ∈ before ++ after, invocation.Logs effect) :
    Outcome.ChangesOnly ⟨status, before ++ request.emit text :: after⟩ files
      (invocation.log.file.toList ++ request.out.toList) := by
  refine Outcome.changesOnly_of_forall fun effect hmem path hpath => ?_
  rcases eq_or_logs_of_mem hlogs hmem with rfl | hlog
  · rw [request.path?_emit] at hpath
    exact List.mem_append_right _ (Option.mem_toList.2 hpath)
  · exact List.mem_append_left _ (hlog.mem_of_path? hpath)

end Output

end Invocation

/-! ## Requests at different times -/

/-- The seed of a request goes before that of its file of options. -/
theorem Generation.seed_of_options? {request : Generation} {surroundings : Surroundings}
    {options : Options} (h : request.options? surroundings = some options) {seed : Nat}
    (hseed : request.seed = some seed) : options.seed = some seed := by
  unfold options? at h
  cases hconfig : request.config with
  | none =>
    rw [hconfig, hseed] at h
    exact congrArg Options.seed (Option.some.inj h).symm
  | some path =>
    rw [hconfig, hseed] at h
    obtain ⟨found, -, heq⟩ := Option.bind_eq_some_iff.1 h
    exact congrArg Options.seed (Option.some.inj heq).symm

/-- **The text of a request is the same at all times**, whatever the spare seed is, when it names a
seed and its template does not name the time.

**Proof sketch.** Options and template are the same by assumption. The engines differ in the time
only, which the template does not name, and the sources begin at the seed of the request. -/
theorem Generation.rendered?_congr {request : Generation} {first second : Surroundings}
    (hseed : request.seed ≠ none) (hoptions : request.options? first = request.options? second)
    (htemplate : request.template? first = request.template? second)
    (htimeless : ∀ template, request.template? first = some template →
      template.Everywhere Json.IsTimeless) :
    request.rendered? first = request.rendered? second := by
  cases hfound : request.options? first with
  | none => simp only [rendered?, ← hoptions, hfound, Option.bind_eq_bind, Option.bind_none]
  | some options =>
    cases hread : request.template? first with
    | none =>
      simp only [rendered?, ← hoptions, ← htemplate, hread, Option.bind_eq_bind, Option.bind_none]
    | some template =>
      have hregistry : (Engine.ofOptions options first.now).registry = Registry.default := rfl
      have hgenerate := Engine.generate_atTime hregistry (htimeless template hread) second.now
      have hdraw : request.draw (Engine.ofOptions options second.now) template =
          request.draw (Engine.ofOptions options first.now) template := by
        unfold draw
        rw [← hgenerate]
        rfl
      have hsource : options.source second.spareSeed = options.source first.spareSeed := by
        obtain ⟨seed, hsome⟩ := Option.ne_none_iff_exists'.1 hseed
        simp only [Options.source, seed_of_options? hfound hsome, Option.getD_some]
      simp only [rendered?, ← hoptions, ← htemplate, hfound, hread, Option.bind_eq_bind,
        Option.bind_some, hdraw, hsource]

/-! ## Where the output appears -/

/-- The path of the log file in the arguments. -/
def logPath? (arguments : List String) : Option String :=
  match Invocation.read arguments with
  | .ok invocation => invocation.log.file
  | .error _ => none

/-- The path of the file for the output in the arguments. -/
def outPath? (arguments : List String) : Option String :=
  match Invocation.read arguments with
  | .ok ⟨.generate request, _⟩ => request.out
  | _ => none

/-- The files for the output and the log that the arguments name are different, and neither is the
standard output. -/
structure IsApart (files : Files) (arguments : List String) : Prop where
  /-- The log does not go to the standard output. -/
  log : ∀ path ∈ logPath? arguments, files.place path ≠ .output
  /-- The output does not go there by a path. -/
  out : ∀ path ∈ outPath? arguments, files.place path ≠ .output
  /-- The output does not go where the log goes. -/
  places : ∀ path ∈ outPath? arguments, ∀ other ∈ logPath? arguments,
    files.place path ≠ files.place other

section Places

variable {surroundings : Surroundings} {arguments : List String}

/-- **A run that fails** adds to its log, changes no other file, and shows nothing but lines of the
list of placeholders before one that is refused.

**Proof sketch.** The effects are additions to the log and then printed lines. The log does not lead
to the standard output, so that only the lines show, and only the log holds something new. -/
theorem printed_of_failure (hapart : IsApart surroundings.files arguments)
    (h : (run surroundings arguments).status ≠ .success) :
    (run surroundings arguments).AppendsOnlyTo (logPath? arguments) ∧
      (run surroundings arguments).ChangesOnly surroundings.files (logPath? arguments).toList ∧
      ∃ taken : List String,
        (run surroundings arguments).emissions = taken.map (none, ·) ∧
        (run surroundings arguments).printed surroundings.files = String.join taken ∧
        (taken ≠ [] → (∃ log, Invocation.read arguments = .ok ⟨.placeholders, log⟩) ∧
          Stops surroundings.canPrint placeholderLines taken) := by
  have hlog := hapart.log
  cases hread : Invocation.read arguments with
  | error stop =>
    have hrun : run surroundings arguments = stop.outcome surroundings := by rw [run, hread]
    rw [hrun] at h ⊢
    cases stop with
    | misuse => exact ⟨nofun, fun _ _ _ => rfl, [], rfl, rfl, fun hne => absurd rfl hne⟩
    | help topic | version => exact absurd rfl h
  | ok invocation =>
    have hrun : run surroundings arguments = invocation.run surroundings := by rw [run, hread]
    have hpath : logPath? arguments = invocation.log.file := by rw [logPath?, hread]
    rw [hpath] at hlog ⊢
    rw [hrun] at h ⊢
    obtain ⟨logs, taken, heffects, hlogs, htaken⟩ := Invocation.exists_of_run_ne_success h
    have houtcome : invocation.run surroundings =
        ⟨(invocation.run surroundings).status, logs ++ taken.map .print⟩ := by rw [← heffects]
    rw [houtcome]
    refine ⟨Invocation.appendsOnlyTo_of_logs fun effect hmem => ?_,
      Outcome.changesOnly_of_forall fun effect hmem path hpath => ?_, taken, ?_, ?_, fun hne => ?_⟩
    · rcases List.mem_append.1 hmem with hmem | hmem
      · exact .inl (hlogs effect hmem)
      · obtain ⟨_, -, rfl⟩ := List.mem_map.1 hmem
        exact .inr (Option.some_ne_none _)
    · rcases List.mem_append.1 hmem with hmem | hmem
      · exact (hlogs effect hmem).mem_of_path? hpath
      · obtain ⟨_, -, rfl⟩ := List.mem_map.1 hmem
        cases hpath
    · rw [Outcome.emissions, List.filterMap_append, Invocation.emission?_eq_none_of_logs hlogs,
        List.nil_append, List.filterMap_map]
      exact congrFun List.filterMap_eq_map taken
    · rw [Outcome.printed_append, Outcome.printed_map_print,
        Outcome.printed_eq_empty fun effect hmem => (hlogs effect hmem).printed_eq_empty hlog,
        String.empty_append]
    · obtain ⟨hrequest, hstops⟩ := htaken hne
      exact ⟨⟨invocation.log, congrArg Except.ok (by rw [← hrequest])⟩, hstops⟩

/-- **What a run of a request does that ends well**: it puts the text of its value and a new line
out, and all else it does is to add to its log. -/
theorem exists_rendered_of_success {request : Generation} {log : LogOptions}
    (hread : Invocation.read arguments = .ok ⟨.generate request, log⟩)
    (h : (run surroundings arguments).status = .success) :
    ∃ (rendered : String) (before after : List Effect),
      request.rendered? (Invocation.opened ⟨.generate request, log⟩ surroundings) = some rendered ∧
        run surroundings arguments =
          ⟨.success, before ++ request.emit (rendered ++ "\n") :: after⟩ ∧
        ∀ effect ∈ before ++ after, Invocation.Logs ⟨.generate request, log⟩ effect := by
  have hrequest : Invocation.request ⟨.generate request, log⟩ = .generate request := rfl
  have horderly := Invocation.isOrderly_run hrequest surroundings
  have hrun : run surroundings arguments =
      Invocation.run ⟨.generate request, log⟩ surroundings := by rw [run, hread]
  rw [← hrun] at horderly
  generalize run surroundings arguments = outcome at h horderly
  cases horderly with
  | failed => cases h
  | ended htext hlogs => exact ⟨_, _, _, htext, rfl, hlogs⟩

end Places

/-- **Where the output of a run appears.** Let the paths for the output and the log lead to
different places, and neither of them to the standard output.

A run that does not end well adds to nothing but its log, puts nothing out and changes no other
file. The one exception is a list of placeholders of which the standard output refuses a line: the
lines before it have been printed.

A run of a request to generate that ends well puts the text of its value and a new line in one
place, and adds to nothing but its log: it prints them, or makes them the content of the file for
the output and prints nothing; only this file and the log change. Another run of the request with
the same seed, which finds the same options and the same template and ends well, too, puts out the
same text, at any other time and in any other place, when the template does not name the time.

**Proof sketch.** All that a run of a request does before and after its one output is to add to the
log, and it gets to its output only when everything has been found and the place takes it. What the
effects show and change is then read off, one by one. The text depends on the time only through
tokens that name it, and on the spare seed only without another. -/
theorem run_output (surroundings : Surroundings) {arguments : List String}
    (hapart : IsApart surroundings.files arguments) :
    ((run surroundings arguments).status ≠ .success →
      (run surroundings arguments).AppendsOnlyTo (logPath? arguments) ∧
      (run surroundings arguments).ChangesOnly surroundings.files (logPath? arguments).toList ∧
      ∃ taken : List String,
        (run surroundings arguments).emissions = taken.map (none, ·) ∧
        (run surroundings arguments).printed surroundings.files = String.join taken ∧
        (taken ≠ [] → (∃ log, Invocation.read arguments = .ok ⟨.placeholders, log⟩) ∧
          Stops surroundings.canPrint placeholderLines taken)) ∧
    ∀ (request : Generation) (log : LogOptions),
      Invocation.read arguments = .ok ⟨.generate request, log⟩ →
      (run surroundings arguments).status = .success →
      ∃ rendered,
        request.rendered? (Invocation.opened ⟨.generate request, log⟩ surroundings) =
          some rendered ∧
        (run surroundings arguments).emissions = [(request.out, rendered ++ "\n")] ∧
        (run surroundings arguments).AppendsOnlyTo log.file ∧
        (run surroundings arguments).printed surroundings.files =
          (if request.out = none then rendered ++ "\n" else "") ∧
        (∀ path ∈ request.out, ∀ name, surroundings.files.place path = .file name →
          ∀ held, (run surroundings arguments).contents surroundings.files held name =
            some (rendered ++ "\n").toUTF8) ∧
        (run surroundings arguments).ChangesOnly surroundings.files
          (log.file.toList ++ request.out.toList) ∧
        ∀ (other : Surroundings) (otherArguments : List String) (out : Option String)
          (otherLog : LogOptions),
          Invocation.read otherArguments = .ok ⟨.generate { request with out := out }, otherLog⟩ →
          (run other otherArguments).status = .success →
          request.seed ≠ none →
          request.options? (Invocation.opened ⟨.generate request, log⟩ surroundings) =
            request.options? (Invocation.opened ⟨.generate request, otherLog⟩ other) →
          request.template? (Invocation.opened ⟨.generate request, log⟩ surroundings) =
            request.template? (Invocation.opened ⟨.generate request, otherLog⟩ other) →
          (∀ template,
            request.template? (Invocation.opened ⟨.generate request, log⟩ surroundings) =
              some template → template.Everywhere Json.IsTimeless) →
          (run other otherArguments).emissions = [(out, rendered ++ "\n")] := by
  refine ⟨printed_of_failure hapart, fun request log hread hstatus => ?_⟩
  obtain ⟨rendered, before, after, hrendered, hrun, hlogs⟩ :=
    exists_rendered_of_success hread hstatus
  obtain ⟨hlog, hout, hplaces⟩ := hapart
  simp only [logPath?, outPath?, hread] at hlog hout hplaces
  rw [hrun]
  refine ⟨rendered, hrendered, Invocation.emissions_emit hlogs,
    Invocation.appendsOnlyTo_emit hlogs, Invocation.printed_emit hlogs hlog hout,
    fun path hpath name hname => Invocation.contents_emit hlogs hpath hname (hplaces path hpath),
    Invocation.changesOnly_emit hlogs, ?_⟩
  intro other otherArguments out otherLog hother hend hseed hoptions htemplate htimeless
  obtain ⟨rendered', before', after', hsecond, hrun', hlogs'⟩ :=
    exists_rendered_of_success hother hend
  -- The request for another place has the same text.
  have hsame : request.rendered? (Invocation.opened ⟨.generate request, otherLog⟩ other) =
      some rendered' := hsecond
  rw [← Generation.rendered?_congr hseed hoptions htemplate htimeless, hrendered] at hsame
  obtain rfl := Option.some.inj hsame
  rw [hrun']
  exact Invocation.emissions_emit hlogs'

/-! ## A template with a token -/

/-- A folder with a template. -/
def tokenFolder : Folder := [("t", "[\"@upper(a)\"]")]

/-- What a run finds in the folder at some time, where the standard output takes all texts or
none. -/
def inTokenFolder (now : Int) (takes : Bool) : Surroundings :=
  ⟨none, fun _ _ => takes, tokenFolder.files none, none, now, 0⟩

/-- A request for the template. -/
def tokenRequest (out : Option String) : Generation := ⟨"t", 1, some 7, none, none, false, out⟩

theorem read_tokenRequest_file :
    Invocation.read ["generate", "t", "--seed", "7", "--out", "o", "--log-file", "l"] =
      .ok ⟨.generate (tokenRequest (some "o")), ⟨some "l", none⟩⟩ := by decide +kernel

theorem read_tokenRequest :
    Invocation.read ["generate", "t", "--seed", "7"] =
      .ok ⟨.generate (tokenRequest none), ⟨none, none⟩⟩ := by decide +kernel

theorem isApart_tokenRequest_file :
    IsApart (tokenFolder.files none)
      ["generate", "t", "--seed", "7", "--out", "o", "--log-file", "l"] := by
  have hout : tokenFolder.place "o" = .file "o" := Folder.place_eq_file (by decide +kernel)
  have hlog : tokenFolder.place "l" = .file "l" := Folder.place_eq_file (by decide +kernel)
  constructor <;>
    simp only [logPath?, outPath?, read_tokenRequest_file, tokenRequest, Folder.files_place,
      Option.mem_def, Option.some.injEq, forall_eq', hout, hlog]
  all_goals decide

theorem isApart_tokenRequest :
    IsApart (tokenFolder.files none) ["generate", "t", "--seed", "7"] := by
  constructor <;> simp only [logPath?, outPath?, read_tokenRequest, tokenRequest]
  all_goals exact nofun

/-- The template is the same at all times. -/
theorem template?_tokenRequest (out : Option String) (log : LogOptions) (now : Int) (takes : Bool)
    (h : (tokenRequest out).templateText?
      (Invocation.opened ⟨.generate (tokenRequest out), log⟩ (inTokenFolder now takes)) =
        some "[\"@upper(a)\"]") :
    (tokenRequest out).template?
      (Invocation.opened ⟨.generate (tokenRequest out), log⟩ (inTokenFolder now takes)) =
        some (.arr [.str "@upper(a)"]) := by
  have hparse : Json.readTemplate? "[\"@upper(a)\"]" = .ok (.arr [.str "@upper(a)"]) := by rfl
  rw [Generation.template?, h, Option.bind_some, hparse]
  rfl

/-- Its token does not name the time. -/
theorem isTimeless_tokenTemplate : (Json.arr [.str "@upper(a)"]).Everywhere Json.IsTimeless := by
  refine Json.everywhere_arr.2 ⟨trivial, fun item hitem node hnode => ?_⟩
  obtain rfl := List.mem_singleton.1 hitem
  obtain rfl := List.mem_singleton.1 hnode
  intro source token htoken
  have hexpand : ((Pattern.expand "@upper(a)".toList).run source).1 = "@upper(a)".toList := by
    rw [Pattern.run_expand_of_count_le (by decide)]
  have hsegments : segments "@upper(a)".toList = [.token ⟨"upper".toList, some ['a']⟩] := by
    decide
  rw [hexpand, hsegments] at htoken
  obtain ⟨⟩ := List.mem_singleton.1 htoken
  decide +kernel

/-- A run with a file for the output and a log; one at another time that prints; and one that finds
that the standard output takes nothing. -/
theorem run_output_file :
    IsApart (tokenFolder.files none)
      ["generate", "t", "--seed", "7", "--out", "o", "--log-file", "l"] ∧
    (run (inTokenFolder 0 true)
      ["generate", "t", "--seed", "7", "--out", "o", "--log-file", "l"]).printed
        (tokenFolder.files none) = "" ∧
    (tokenFolder.after (run (inTokenFolder 0 true)
      ["generate", "t", "--seed", "7", "--out", "o", "--log-file", "l"])).contents "o" =
        some "[\"A\"]\n".toUTF8 ∧
    (run (inTokenFolder 60 true) ["generate", "t", "--seed", "7"]).emissions =
      [(none, "[\"A\"]\n")] ∧
    IsApart (tokenFolder.files none) ["generate", "t", "--seed", "7"] ∧
    (run (inTokenFolder 0 false) ["generate", "t", "--seed", "7"]).status ≠ .success ∧
    (run (inTokenFolder 0 false) ["generate", "t", "--seed", "7"]).emissions = [] := by
  have hvalue : (tokenRequest (some "o")).rendered? (Invocation.opened
      ⟨.generate (tokenRequest (some "o")), ⟨some "l", none⟩⟩ (inTokenFolder 0 true)) =
        some "[\"A\"]" := by decide +kernel
  have hfirst := template?_tokenRequest (some "o") ⟨some "l", none⟩ 0 true (by decide +kernel)
  have hsecond := template?_tokenRequest none ⟨none, none⟩ 60 true (by decide +kernel)
  obtain ⟨rendered, hrendered, -, -, hprinted, hcontent, -, hsame⟩ :=
    (run_output (inTokenFolder 0 true) isApart_tokenRequest_file).2 _ _ read_tokenRequest_file
      (by decide +kernel)
  obtain rfl : "[\"A\"]" = rendered := Option.some.inj (hvalue.symm.trans hrendered)
  have hrefused : (run (inTokenFolder 0 false) ["generate", "t", "--seed", "7"]).status ≠
      .success := by decide +kernel
  obtain ⟨-, -, taken, hemissions, -, htaken⟩ :=
    (run_output (inTokenFolder 0 false) isApart_tokenRequest).1 hrefused
  refine ⟨isApart_tokenRequest_file, hprinted, ?_, ?_, isApart_tokenRequest, hrefused, ?_⟩
  · have hplace : tokenFolder.place "o" = .file "o" := Folder.place_eq_file (by decide +kernel)
    rw [tokenFolder.contents_after none]
    exact hcontent "o" rfl "o" hplace _
  · refine hsame (inTokenFolder 60 true) _ none ⟨none, none⟩ read_tokenRequest (by decide +kernel)
      nofun (by decide +kernel) (hfirst.trans hsecond.symm) fun template hfound => ?_
    rw [hfirst] at hfound
    exact Option.some.inj hfound ▸ isTimeless_tokenTemplate
  · have hnone : taken = [] := by
      by_contra hne
      obtain ⟨⟨log, hread⟩, -⟩ := htaken hne
      rw [read_tokenRequest] at hread
      cases hread
    rw [hemissions, hnone]
    rfl

/-! ## A standard output that takes one line -/

/-- No line of the list of placeholders is empty. -/
theorem ne_empty_of_mem_placeholderLines {line : String} (h : line ∈ placeholderLines) :
    line ≠ "" := by
  obtain ⟨⟨name, arities⟩, -, rfl⟩ := List.mem_map.1 h
  intro hempty
  have hlength := congrArg String.length hempty
  simp at hlength

theorem length_placeholderLines : placeholderLines.length = Registry.default.entries.length := by
  rw [placeholderLines, List.length_map, Registry.catalogue, List.length_mergeSort,
    List.length_map]

/-- The run that lists the placeholders when only one line can be printed has printed this line. -/
theorem run_placeholders_once :
    ∃ line ∈ placeholderLines,
      run ⟨none, fun before _ => decide (before = ""), Folder.files [] none, none, 0, 0⟩
        ["placeholders"] = ⟨.failure, [.print line]⟩ := by
  have hlength : 2 ≤ placeholderLines.length := by
    rw [length_placeholderLines]
    decide +kernel
  have hread : Invocation.read ["placeholders"] = .ok ⟨.placeholders, ⟨none, none⟩⟩ := by
    decide +kernel
  match hlines : placeholderLines, hlength with
  | first :: second :: rest, _ =>
    have hne : first ≠ "" :=
      ne_empty_of_mem_placeholderLines (hlines ▸ List.mem_cons_self)
    refine ⟨first, List.mem_cons_self, ?_⟩
    simp only [run, hread, Invocation.run, Invocation.runRequest, hlines]
    simp [printAll, hne]

/-- The path of a device for the output makes the run print, although it names a file; and a run
that lists the placeholders fails when only the first line is taken, and has printed this line. -/
theorem run_output_device :
    (outPath? ["generate", "-", "--seed", "1", "--out", "/dev/stdout"] = some "/dev/stdout" ∧
      logPath? ["generate", "-", "--seed", "1", "--out", "/dev/stdout"] = none ∧
      (run ⟨some "[]", fun _ _ => true, Folder.files [] (some "[]"), none, 0, 0⟩
        ["generate", "-", "--seed", "1", "--out", "/dev/stdout"]).status = .success ∧
      (run ⟨some "[]", fun _ _ => true, Folder.files [] (some "[]"), none, 0, 0⟩
        ["generate", "-", "--seed", "1", "--out", "/dev/stdout"]).printed
          (Folder.files [] (some "[]")) = "[]\n") ∧
    (run ⟨none, fun before _ => decide (before = ""), Folder.files [] none, none, 0, 0⟩
      ["placeholders"]).status = .failure ∧
    (run ⟨none, fun before _ => decide (before = ""), Folder.files [] none, none, 0, 0⟩
      ["placeholders"]).printed (Folder.files [] none) ≠ "" := by
  obtain ⟨line, hline, hrun⟩ := run_placeholders_once
  refine ⟨⟨by decide, by decide, by decide, by decide⟩, by rw [hrun], ?_⟩
  have hnone : Outcome.printed (Folder.files [] none) ⟨.failure, []⟩ = "" := rfl
  rw [hrun, Outcome.printed_cons, hnone, String.append_empty]
  exact ne_empty_of_mem_placeholderLines hline

end Specimen.Command

import PatternBuilder.Proofs.CommandOutput

/-!
# Logging

The effects of a run, put out one by one, are what its report says. An entry shows on standard error
where logging is on, and nothing else depends on logging. A failure comes last, so the log stands
before it. Each entry is one line, because the texts that come from outside are quoted. The builder
has nothing to log while it builds a preset. The main statement is `Command.output_logging`.
-/
namespace PatternBuilder.Command

def Effect.goesOn : Effect → Bool
  | .log (.command _) | .print _ => true
  | .log (.builder _) | .fail _ => false

/-- The run goes on after each effect, unless it fails with the last one. -/
inductive Orderly : List Effect → Prop
  | done : Orderly []
  | failed (failure : Failure) : Orderly [.fail failure]
  | step {effect : Effect} {effects : List Effect} : effect.goesOn = true → Orderly effects →
      Orderly (effect :: effects)

theorem Job.orderly_effects (job : Job) (stdin : ByteArray) : Orderly (job.effects stdin) := by
  unfold effects
  split
  · exact .failed _
  · refine .step rfl ?_
    split
    · exact .failed _
    · refine .step rfl ?_
      split
      · exact .step rfl .done
      · exact .failed _

theorem orderly_effects (arguments : List Text) (stdin : ByteArray) :
    Orderly (effects arguments stdin) := by
  cases arguments with
  | nil => exact .failed _
  | cons name arguments =>
    unfold effects
    refine .step rfl ?_
    split
    · exact .failed _
    · -- The builder has logged nothing.
      rw [Preset.log_outcome]
      exact .step rfl (.step rfl (Job.orderly_effects _ stdin))

/-- What a report has of one effect. It has no place for what the builder says. -/
def Effect.report : Effect → Report
  | .log (.builder _) => {}
  | .log (.command notice) => { notices := [notice] }
  | .print line => { printed := [line] }
  | .fail failure => { failure := some failure }

def reportOf (effects : List Effect) : Report :=
  effects.foldr (fun effect rest => effect.report.followedBy rest) {}

theorem reportOf_cons (effect : Effect) (effects : List Effect) :
    reportOf (effect :: effects) = effect.report.followedBy (reportOf effects) := rfl

theorem Job.reportOf_effects (job : Job) (stdin : ByteArray) :
    reportOf (job.effects stdin) = job.finish stdin := by
  unfold effects finish
  cases job.input? stdin with
  | none => rfl
  | some input =>
    simp only [judge]
    cases Regex.compile? job.pattern.source with
    | none => rfl
    | some matcher =>
      cases hsearch : matcher.search (Text.trimEnd input) with
      | true | false =>
        simp only [hsearch]
        rfl

theorem reportOf_effects (arguments : List Text) (stdin : ByteArray) :
    reportOf (effects arguments stdin) = run arguments stdin := by
  cases arguments with
  | nil => rfl
  | cons name arguments =>
    cases hname : Preset.ofName? name with
    | none =>
      simp only [effects, run, start, hname]
      rfl
    | some preset =>
      simp only [effects, run, start, hname, Preset.log_outcome, List.map_nil, List.nil_append,
        reportOf_cons, Job.reportOf_effects]
      rfl

namespace Report

theorem lines_append (a b : List Text) : lines (a ++ b) = lines a ++ lines b := List.flatMap_append

variable {first : Report}

theorem code_followedBy (h : first.failure = none) (second : Report) :
    (first.followedBy second).code = second.code := by
  rw [code, followedBy, h]
  rfl

theorem stdout_followedBy (second : Report) :
    (first.followedBy second).stdout = first.stdout ++ second.stdout := lines_append _ _

theorem stderr_followedBy (h : first.failure = none) (second : Report) (logging : Bool) :
    (first.followedBy second).stderr logging = first.stderr logging ++ second.stderr logging := by
  cases logging <;> simp [stderr, followedBy, lines, h]

end Report

theorem Effect.failure_report {effect : Effect} (h : effect.goesOn = true) :
    effect.report.failure = none := by
  cases effect with
  | log entry => cases entry <;> rfl
  | print line => rfl
  | fail failure => exact nomatch h

theorem Output.after_of_goesOn {effect : Effect} (h : effect.goesOn = true) (logging : Bool)
    (stdout stderr : Text) :
    Output.after logging { stdout, stderr } effect =
      { stdout := stdout ++ effect.report.stdout
        stderr := stderr ++ effect.report.stderr logging } := by
  match effect with
  | .log (.command notice) =>
    cases logging <;>
      simp [after, Effect.report, Report.stdout, Report.stderr, Report.lines, Entry.line]
  | .print line =>
    cases logging <;> simp [after, Effect.report, Report.stdout, Report.stderr, Report.lines]

theorem Orderly.afterAll_eq {effects : List Effect} (h : Orderly effects) (logging : Bool)
    (stdout stderr : Text) :
    Output.afterAll logging { stdout, stderr } effects =
      { code := (reportOf effects).code
        stdout := stdout ++ (reportOf effects).stdout
        stderr := stderr ++ (reportOf effects).stderr logging } := by
  induction h generalizing stdout stderr with
  | done =>
    cases logging <;>
      simp [Output.afterAll, reportOf, Report.code, Report.stdout, Report.stderr, Report.lines]
  | failed failure =>
    cases logging <;>
      simp [Output.afterAll, Output.after, reportOf, Effect.report, Report.followedBy, Report.code,
        Report.stdout, Report.stderr, Report.lines]
  | @step effect effects hon _ ih =>
    -- No failure yet, so that the rest of the report adds to what is there.
    have hnone := Effect.failure_report hon
    rw [reportOf_cons, Report.code_followedBy hnone, Report.stdout_followedBy,
      Report.stderr_followedBy hnone, ← List.append_assoc, ← List.append_assoc, ← ih,
      ← Output.after_of_goesOn hon]
    rfl

theorem afterAll_effects (arguments : List Text) (stdin : ByteArray) (logging : Bool) :
    Output.afterAll logging {} (effects arguments stdin) =
      (run arguments stdin).output logging := by
  rw [← reportOf_effects]
  exact (orderly_effects arguments stdin).afterAll_eq logging [] []

theorem Notice.isPrefixOf_line (notice : Notice) :
    "[DEBUG fluent_regex] ".toList.isPrefixOf notice.line = true := by
  rw [List.isPrefixOf_iff_prefix]
  exact List.prefix_append _ _

theorem Entry.isPrefixOf_line_builder (message : Message) :
    "[DEBUG fluent_regex] ".toList.isPrefixOf (Entry.builder message).line = false := by
  cases message with
  | rejected _ | groupSpliced _ | namedGroupSpliced _ _ | alternationSpliced _ => rfl

theorem newline_notMem_source (preset : Preset) : '\n' ∉ preset.pattern.source := by
  cases preset with
  | year =>
    rw [Preset.source_year]
    decide
  | email =>
    rw [Preset.source_email]
    decide

theorem Notice.newline_notMem_line {notice : Notice}
    (h : ∀ source, notice = .built source → '\n' ∉ source) : '\n' ∉ notice.line := by
  refine List.not_mem_append (by decide) ?_
  cases notice with
  | named name => exact List.not_mem_append (by decide) (Text.newline_notMem_quoted name)
  | built source => exact List.not_mem_append (by decide) (h source rfl)
  | received input => exact List.not_mem_append (by decide) (Text.newline_notMem_quoted input)
  | decided matched => cases matched <;> decide

/-- The log of a run by how far the run comes, line for line. -/
inductive Logged (arguments : List Text) (stdin : ByteArray) (success : Bool) : List Text → Prop
  | noPreset : arguments.head? = none → Logged arguments stdin success []
  | unknownPreset {name : Text} : arguments.head? = some name → Preset.ofName? name = none →
      Logged arguments stdin success [(Notice.named name).line]
  | inputNotText {preset : Preset} : arguments.head? = some preset.name →
      (∀ input, ¬Given arguments stdin input) →
      Logged arguments stdin success
        [(Notice.named preset.name).line, (Notice.built preset.pattern.source).line]
  | judged {preset : Preset} {input : Text} : arguments.head? = some preset.name →
      Given arguments stdin input →
      Logged arguments stdin success
        [(Notice.named preset.name).line, (Notice.built preset.pattern.source).line,
          "[DEBUG fluent_regex] ".toList ++ ("Input: ".toList ++ Text.quoted (Text.trimEnd input)),
          "[DEBUG fluent_regex] ".toList ++ ("Match result: ".toList ++
            if success then "true".toList else "false".toList)]

theorem Ending.logged {arguments : List Text} {stdin : ByteArray} {report : Report}
    (h : Ending arguments stdin report) :
    Logged arguments stdin (report.code == 0) (report.notices.map Notice.line) := by
  cases h with
  | noPreset hnone => exact .noPreset hnone
  | unknownPreset hname hunknown => exact .unknownPreset hname hunknown
  | inputNotText hname hnone => exact .inputNotText hname hnone
  | matched hname hgiven hkept _ | noMatch hname hgiven hkept _ =>
    rw [hkept.eq]
    exact .judged hname hgiven

theorem Ending.newline_notMem_line {arguments : List Text} {stdin : ByteArray} {report : Report}
    (h : Ending arguments stdin report) {notice : Notice} (hmem : notice ∈ report.notices) :
    '\n' ∉ notice.line := by
  refine Notice.newline_notMem_line ?_
  rintro source rfl
  -- Only the source of a preset stands in a notice as it is.
  cases h with
  | noPreset _ => exact nomatch hmem
  | unknownPreset _ _ => simp at hmem
  | inputNotText _ _ | matched _ _ _ _ | noMatch _ _ _ _ =>
    obtain rfl : source = _ := by simpa using hmem
    exact newline_notMem_source _

/-- Logging changes neither the exit code nor standard output. On standard error it puts the log in
front of what is there without it: whole lines, more of them the further the run comes, and none
from the builder. The effects of a run put out, one by one, what its report says. -/
theorem output_logging (arguments : List Text) (stdin : ByteArray) :
    (∀ logging, Output.afterAll logging {} (effects arguments stdin) =
      (run arguments stdin).output logging) ∧
    ∃ log : List Text,
      (run arguments stdin).output true =
        { (run arguments stdin).output false with
          stderr := Report.lines log ++ ((run arguments stdin).output false).stderr } ∧
      Logged arguments stdin ((run arguments stdin).code == 0) log ∧
      (∀ line ∈ log, '\n' ∉ line) ∧
      ∀ message, (Entry.builder message).line ∉ log := by
  have hending := ending_run arguments stdin
  refine ⟨afterAll_effects arguments stdin, (run arguments stdin).notices.map Notice.line, rfl,
    hending.logged, ?_, ?_⟩
  · intro line hline
    obtain ⟨notice, hnotice, rfl⟩ := List.mem_map.mp hline
    exact hending.newline_notMem_line hnotice
  · intro message hline
    obtain ⟨notice, _, heq⟩ := List.mem_map.mp hline
    have hcommand := notice.isPrefixOf_line
    rw [heq, Entry.isPrefixOf_line_builder] at hcommand
    exact nomatch hcommand

theorem output_logging_twoLines :
    ∃ log : List Text,
      ((run ["year".toList, "a\nb ".toList] .empty).output true).stderr =
        Report.lines log ++ "Pattern does not match.\n".toList ∧
      "[DEBUG fluent_regex] Input: \"a\\nb\"".toList ∈ log ∧
      '\n' ∉ "[DEBUG fluent_regex] Input: \"a\\nb\"".toList := by
  obtain ⟨_, log, houtput, hlogged, hlines, _⟩ :=
    output_logging ["year".toList, "a\nb ".toList] .empty
  have hgiven : Given ["year".toList, "a\nb ".toList] .empty "a\nb ".toList := .argument rfl
  have hmem : "[DEBUG fluent_regex] Input: \"a\\nb\"".toList ∈ log := by
    cases hlogged with
    | noPreset hnone => exact nomatch hnone
    | unknownPreset hname hunknown =>
      obtain rfl := Option.some.inj hname
      exact nomatch hunknown
    | inputNotText _ hnone => exact absurd hgiven (hnone _)
    | judged _ hinput =>
      obtain rfl := hgiven.unique hinput
      exact List.mem_cons_of_mem _ (List.mem_cons_of_mem _ List.mem_cons_self)
  have hstderr : ((run ["year".toList, "a\nb ".toList] .empty).output false).stderr =
      "Pattern does not match.\n".toList := by decide +kernel
  rw [houtput, hstderr]
  exact ⟨log, rfl, hmem, hlines _ hmem⟩

end PatternBuilder.Command

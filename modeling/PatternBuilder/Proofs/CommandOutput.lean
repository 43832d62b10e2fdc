import PatternBuilder.Proofs.Endings
import PatternBuilder.Proofs.Quotation

/-!
# What a run of the command puts out

The exit code is zero exactly when the named pattern occurs in the trimmed input. The pattern is
printed whenever the name is known; a failure is one line whatever texts were given, because a name
is quoted. Arguments after the second play no part, nor does standard input where it is not needed.
The main statement is `Command.run_outcome`.
-/
namespace PatternBuilder

theorem Text.newline_notMem_quoted (text : Text) : '\n' ∉ quoted text :=
  namedControl_notMem_quoteWith (by decide) isPlain text

namespace Command

theorem Failure.newline_notMem_message (failure : Failure) : '\n' ∉ failure.message := by
  cases failure with
  | unknownPreset name =>
    have hintro : '\n' ∉ "Unknown preset ".toList := by decide
    have hnames : '\n' ∉ knownNames := by decide
    exact List.not_mem_append (List.not_mem_append hintro (Text.newline_notMem_quoted name)) hnames
  | noPreset | inputNotText | patternRefused | noMatch => decide

/-- The run succeeds when the first argument names a preset whose pattern occurs in the input with
the blanks at its end left out. -/
def Succeeds (arguments : List Text) (stdin : ByteArray) : Prop :=
  ∃ preset input kept, arguments.head? = some (Preset.name preset) ∧ Given arguments stdin input ∧
    Text.Trimmed input kept ∧ Regex.Occurs preset.pattern.source kept

def presetOf? (arguments : List Text) : Option Preset := arguments.head?.bind Preset.ofName?

def transcript : Option Preset → Bool → Text
  | none, _ => []
  | some preset, false => preset.pattern.source ++ ['\n']
  | some preset, true => preset.pattern.source ++ ['\n'] ++ "Pattern matches!\n".toList

theorem presetOf?_of_head? {arguments : List Text} {preset : Preset}
    (h : arguments.head? = some preset.name) : presetOf? arguments = some preset := by
  rw [presetOf?, h, Option.bind_some, Preset.ofName?_name]

theorem not_succeeds_of_presetOf? {arguments : List Text} {stdin : ByteArray}
    (h : presetOf? arguments = none) : ¬Succeeds arguments stdin := by
  rintro ⟨preset, _, _, hname, _⟩
  rw [presetOf?_of_head? hname] at h
  exact nomatch h

theorem presetOf?_of_unknown {arguments : List Text} {name : Text}
    (hname : arguments.head? = some name) (h : Preset.ofName? name = none) :
    presetOf? arguments = none := by
  rw [presetOf?, hname, Option.bind_some, h]

theorem Failure.message_ne_nil (failure : Failure) : failure.message ≠ [] := by
  cases failure with
  | noPreset | unknownPreset _ | inputNotText | patternRefused | noMatch =>
    exact List.cons_ne_nil _ _

theorem Report.stderr_cases (report : Report) :
    (report.code = 0 ∧ report.stderr false = []) ∨
      (report.code = 1 ∧
        ∃ line, line ≠ [] ∧ '\n' ∉ line ∧ report.stderr false = line ++ ['\n']) := by
  unfold code stderr
  cases report.failure with
  | none => exact .inl ⟨rfl, rfl⟩
  | some failure =>
    refine .inr ⟨rfl, failure.message, failure.message_ne_nil, failure.newline_notMem_message, ?_⟩
    exact List.append_nil _

theorem Report.code_eq_one_iff (report : Report) : report.code = 1 ↔ ¬report.code = 0 := by
  unfold code
  split
  · exact iff_of_true rfl Nat.one_ne_zero
  · exact iff_of_false Nat.zero_ne_one (not_not_intro rfl)

theorem Ending.code_eq_zero_iff {arguments : List Text} {stdin : ByteArray} {report : Report}
    (h : Ending arguments stdin report) : report.code = 0 ↔ Succeeds arguments stdin := by
  cases h with
  | noPreset hnone =>
    refine iff_of_false (by decide) (not_succeeds_of_presetOf? ?_)
    rw [presetOf?, hnone, Option.bind_none]
  | unknownPreset hname hunknown =>
    refine iff_of_false Nat.one_ne_zero (not_succeeds_of_presetOf? ?_)
    exact presetOf?_of_unknown hname hunknown
  | inputNotText hname hnone =>
    refine iff_of_false Nat.one_ne_zero ?_
    rintro ⟨_, input, _, _, hgiven, _⟩
    exact hnone input hgiven
  | matched hname hgiven hkept hoccurs =>
    exact iff_of_true rfl ⟨_, _, _, hname, hgiven, hkept, hoccurs⟩
  | noMatch hname hgiven hkept hoccurs =>
    refine iff_of_false Nat.one_ne_zero ?_
    rintro ⟨other, input, kept, hother, hinput, hrest, hfound⟩
    obtain rfl := hgiven.unique hinput
    obtain rfl := hkept.eq.trans hrest.eq.symm
    obtain rfl := Preset.name_injective (Option.some.inj (hname.symm.trans hother))
    exact hoccurs hfound

theorem code_eq_zero_iff_occurs {preset : Preset} {arguments : List Text} {stdin : ByteArray}
    {input : Text} (h : Given (preset.name :: arguments) stdin input) :
    (run (preset.name :: arguments) stdin).code = 0 ↔
      Regex.Occurs preset.pattern.source (Text.trimEnd input) := by
  rw [(ending_run _ stdin).code_eq_zero_iff]
  constructor
  · rintro ⟨other, text, kept, hname, hgiven, hkept, hoccurs⟩
    obtain rfl := Preset.name_injective (Option.some.inj hname)
    obtain rfl := h.unique hgiven
    rw [← hkept.eq]
    exact hoccurs
  · intro hoccurs
    exact ⟨preset, input, _, rfl, h, Text.trimEnd_spec input, hoccurs⟩

theorem Ending.stdout_eq {arguments : List Text} {stdin : ByteArray} {report : Report}
    (h : Ending arguments stdin report) :
    report.stdout = transcript (presetOf? arguments) (report.code == 0) := by
  cases h with
  | noPreset hnone =>
    rw [presetOf?, hnone]
    rfl
  | unknownPreset hname hunknown =>
    rw [presetOf?_of_unknown hname hunknown]
    rfl
  | @inputNotText preset hname _ | @noMatch preset _ _ hname _ _ _ =>
    rw [presetOf?_of_head? hname]
    exact List.append_nil _
  | @matched preset _ _ hname _ _ _ =>
    rw [presetOf?_of_head? hname]
    show preset.pattern.source ++ ['\n'] ++ ("Pattern matches!".toList ++ ['\n'] ++ []) = _
    rfl

theorem run_take (arguments : List Text) (stdin : ByteArray) :
    run (arguments.take 2) stdin = run arguments stdin := by
  cases arguments with
  | nil => rfl
  | cons name arguments =>
    cases arguments with
    | nil => rfl
    | cons input rest =>
      simp only [List.take_succ_cons, List.take_zero, run, start, List.head?_cons]

theorem run_of_argument {arguments : List Text} (h : arguments[1]? ≠ none)
    (stdin other : ByteArray) : run arguments stdin = run arguments other := by
  match arguments with
  | [] | [_] => exact absurd rfl h
  | name :: input :: rest =>
    simp only [run, start, List.head?_cons]
    cases Preset.ofName? name with
    | none => rfl
    | some preset => simp only [Job.finish, Job.input?]

theorem run_of_presetOf? {arguments : List Text} (h : presetOf? arguments = none)
    (stdin other : ByteArray) : run arguments stdin = run arguments other := by
  cases arguments with
  | nil => rfl
  | cons name arguments =>
    have hname : Preset.ofName? name = none := h
    simp only [run, start, hname]

/-- A run succeeds when it must and says nothing on standard error then; otherwise it says one line
there. Standard output holds the pattern of a known name, and the success. What is not needed is not
looked at. -/
theorem run_outcome (arguments : List Text) (stdin : ByteArray) :
    (((run arguments stdin).code = 0 ∧ (run arguments stdin).stderr false = []) ∨
      ((run arguments stdin).code = 1 ∧
        ∃ line, line ≠ [] ∧ '\n' ∉ line ∧
          (run arguments stdin).stderr false = line ++ ['\n'])) ∧
    ((run arguments stdin).code = 0 ↔ Succeeds arguments stdin) ∧
    (run arguments stdin).stdout =
      transcript (presetOf? arguments) ((run arguments stdin).code == 0) ∧
    run (arguments.take 2) stdin = run arguments stdin ∧
    ∀ other, arguments[1]? ≠ none ∨ presetOf? arguments = none →
      run arguments stdin = run arguments other := by
  have hending := ending_run arguments stdin
  refine ⟨Report.stderr_cases _, hending.code_eq_zero_iff, hending.stdout_eq,
    run_take arguments stdin, ?_⟩
  rintro other (hargument | hunknown)
  · exact run_of_argument hargument stdin other
  · exact run_of_presetOf? hunknown stdin other

/-- The address is one without the blank behind it; an argument is too many, and standard input is
no text. -/
theorem run_outcome_blank :
    ["email".toList, "a@b.cd ".toList, "x".toList][1]? ≠ none ∧
    Succeeds ["email".toList, "a@b.cd ".toList, "x".toList] ⟨#[0xff]⟩ ∧
    ¬Regex.Occurs Preset.email.pattern.source "a@b.cd ".toList ∧
    run ["email".toList, "a@b.cd ".toList, "x".toList] ⟨#[0xff]⟩ =
      run ["email".toList, "a@b.cd ".toList, "x".toList] .empty := by
  have hargument : ["email".toList, "a@b.cd ".toList, "x".toList][1]? ≠ none := nofun
  have hblank : ¬Regex.Occurs Preset.email.pattern.source "a@b.cd ".toList := by
    obtain ⟨m, hm⟩ := Preset.email.exists_matcher
    have hsearch : (Regex.compile? Preset.email.pattern.source).map (·.search "a@b.cd ".toList) =
        some false := by decide +kernel
    rw [hm, Option.map_some, Option.some.injEq] at hsearch
    rw [← Preset.email.search_iff hm, hsearch]
    exact nofun
  obtain ⟨_, hcode, _, _, hstdin⟩ :=
    run_outcome ["email".toList, "a@b.cd ".toList, "x".toList] ⟨#[0xff]⟩
  exact ⟨hargument, hcode.mp (by decide +kernel), hblank, hstdin .empty (.inl hargument)⟩

end Command
end PatternBuilder

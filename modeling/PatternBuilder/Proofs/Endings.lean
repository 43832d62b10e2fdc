import PatternBuilder.Command
import PatternBuilder.Proofs.Denotation
import PatternBuilder.Proofs.NormalForm

/-!
# How a run of the command ends

A run ends in one of five ways: without a name, with an unknown name, with standard input that is no
text, with a match and without one. Each way fixes the whole report. The patterns of the presets are
never refused, so that a run with a name and an input always comes to a verdict. The main statement
is `Command.ending_run`.
-/
namespace PatternBuilder

theorem Text.fromUTF8?_eq_some_iff {bytes : ByteArray} {text : Text} :
    (String.fromUTF8? bytes).map String.toList = some text ↔ bytes = text.utf8Encode := by
  unfold String.fromUTF8?
  split
  · next h =>
    rw [Option.map_some, Option.some.injEq]
    constructor
    · rintro rfl
      exact congrArg String.toByteArray (String.ofList_toList (s := String.fromUTF8 bytes h)).symm
    · rintro rfl
      exact String.toList_ofList
  · next h =>
    constructor
    · exact nofun
    · rintro rfl
      exact absurd (String.ofList text).isValidUTF8 h

namespace Preset

theorem name_injective {a b : Preset} (h : a.name = b.name) : a = b := by
  have hfound := ofName?_name a
  rw [h, ofName?_name b] at hfound
  exact (Option.some.inj hfound).symm

theorem readable_steps (preset : Preset) : Step.meetsAll .readable preset.steps = true := by
  cases preset with
  | year | email => decide

theorem spells_steps (preset : Preset) :
    Regex.Spells preset.pattern.source (Step.nodesAll preset.steps) :=
  Step.spells_source preset.readable_steps Shelf.empty

theorem read?_pattern (preset : Preset) :
    Regex.read? preset.pattern.source = some (Step.nodesAll preset.steps) := by
  have hspells := preset.spells_steps
  rw [← hspells.render_eq, Regex.read?_renderAll hspells.legible]

theorem exists_matcher (preset : Preset) :
    ∃ m, Regex.compile? preset.pattern.source = some m := by
  rw [Regex.compile?, preset.read?_pattern, Option.bind_some]
  cases preset with
  | year | email => exact ⟨_, rfl⟩

theorem search_iff (preset : Preset) {m : Regex.Matcher}
    (hm : Regex.compile? preset.pattern.source = some m) (text : Text) :
    m.search text = true ↔ Regex.Occurs preset.pattern.source text := by
  have hspells := preset.spells_steps
  rw [← hspells.render_eq] at hm ⊢
  exact Regex.search_iff hspells.legible hm text

end Preset

namespace Command

/-- The input of a run: the second argument, or else the text that standard input encodes. -/
inductive Given (arguments : List Text) (stdin : ByteArray) : Text → Prop
  | argument {input : Text} : arguments[1]? = some input → Given arguments stdin input
  | standard {input : Text} : arguments[1]? = none → stdin = input.utf8Encode →
      Given arguments stdin input

theorem input?_eq_some_iff {pattern : Pattern} {name input : Text} {arguments : List Text}
    {stdin : ByteArray} :
    Job.input? { pattern, given := arguments.head? } stdin = some input ↔
      Given (name :: arguments) stdin input := by
  have hsecond : (name :: arguments)[1]? = arguments.head? := List.head?_eq_getElem?.symm
  unfold Job.input?
  cases hgiven : arguments.head? with
  | some text =>
    rw [hgiven] at hsecond
    constructor
    · intro h
      exact .argument (hsecond.trans h)
    · intro h
      cases h with
      | argument hinput => exact hsecond.symm.trans hinput
      | standard hnone _ => cases hnone.symm.trans hsecond
  | none =>
    rw [hgiven] at hsecond
    show (String.fromUTF8? stdin).map String.toList = some input ↔ _
    rw [Text.fromUTF8?_eq_some_iff]
    constructor
    · exact .standard hsecond
    · intro h
      cases h with
      | argument hinput => cases hsecond.symm.trans hinput
      | standard _ hbytes => exact hbytes

theorem Given.unique {arguments : List Text} {stdin : ByteArray} {a b : Text}
    (ha : Given arguments stdin a) (hb : Given arguments stdin b) : a = b := by
  cases ha with
  | argument ha =>
    cases hb with
    | argument hb => exact Option.some.inj (ha.symm.trans hb)
    | standard hb _ => cases hb.symm.trans ha
  | standard ha hbytes =>
    cases hb with
    | argument hb => cases ha.symm.trans hb
    | standard _ hbytes' =>
      have hsome := Text.fromUTF8?_eq_some_iff.mpr hbytes
      rw [Text.fromUTF8?_eq_some_iff.mpr hbytes'] at hsome
      exact (Option.some.inj hsome).symm

/-- The reports with which a run can end. -/
inductive Ending (arguments : List Text) (stdin : ByteArray) : Report → Prop
  | noPreset : arguments.head? = none → Ending arguments stdin { failure := some .noPreset }
  | unknownPreset {name : Text} : arguments.head? = some name → Preset.ofName? name = none →
      Ending arguments stdin { notices := [.named name], failure := some (.unknownPreset name) }
  | inputNotText {preset : Preset} : arguments.head? = some preset.name →
      (∀ input, ¬Given arguments stdin input) →
      Ending arguments stdin
        { notices := [.named preset.name, .built preset.pattern.source]
          printed := [preset.pattern.source], failure := some .inputNotText }
  | matched {preset : Preset} {input kept : Text} : arguments.head? = some preset.name →
      Given arguments stdin input → Text.Trimmed input kept →
      Regex.Occurs preset.pattern.source kept →
      Ending arguments stdin
        { notices := [.named preset.name, .built preset.pattern.source, .received kept,
            .decided true]
          printed := [preset.pattern.source, "Pattern matches!".toList] }
  | noMatch {preset : Preset} {input kept : Text} : arguments.head? = some preset.name →
      Given arguments stdin input → Text.Trimmed input kept →
      ¬Regex.Occurs preset.pattern.source kept →
      Ending arguments stdin
        { notices := [.named preset.name, .built preset.pattern.source, .received kept,
            .decided false]
          printed := [preset.pattern.source], failure := some .noMatch }

theorem judge_of_compile {job : Job} {m : Regex.Matcher}
    (h : Regex.compile? job.pattern.source = some m) (input : Text) :
    job.judge input =
      if m.search (Text.trimEnd input) then
        { notices := [.received (Text.trimEnd input), .decided true]
          printed := ["Pattern matches!".toList] }
      else
        { notices := [.received (Text.trimEnd input), .decided false]
          failure := some .noMatch } := by
  simp only [Job.judge, h]

theorem ending_run (arguments : List Text) (stdin : ByteArray) :
    Ending arguments stdin (run arguments stdin) := by
  cases arguments with
  | nil => exact .noPreset rfl
  | cons name arguments =>
    cases hname : Preset.ofName? name with
    | none =>
      have hrun : run (name :: arguments) stdin =
          { notices := [.named name], failure := some (.unknownPreset name) } := by
        simp only [run, start, hname]
      rw [hrun]
      exact .unknownPreset rfl hname
    | some preset =>
      obtain rfl := Preset.name_of_ofName? hname
      have hrun : run (preset.name :: arguments) stdin = Report.followedBy
          { notices := [.named preset.name, .built preset.pattern.source]
            printed := [preset.pattern.source] }
          (Job.finish { pattern := preset.pattern, given := arguments.head? } stdin) := by
        simp only [run, start, hname]
      rw [hrun, Job.finish]
      split
      · next hinput =>
        refine .inputNotText rfl fun input hgiven => ?_
        rw [input?_eq_some_iff.mpr hgiven] at hinput
        contradiction
      · next input hinput =>
        have hgiven : Given (preset.name :: arguments) stdin input :=
          input?_eq_some_iff.mp hinput
        obtain ⟨m, hm⟩ := preset.exists_matcher
        have htrimmed := Text.trimEnd_spec input
        rw [judge_of_compile hm]
        split
        · next hsearch => exact .matched rfl hgiven htrimmed ((preset.search_iff hm _).mp hsearch)
        · next hsearch =>
          exact .noMatch rfl hgiven htrimmed fun hoccurs =>
            hsearch ((preset.search_iff hm _).mpr hoccurs)

end Command
end PatternBuilder

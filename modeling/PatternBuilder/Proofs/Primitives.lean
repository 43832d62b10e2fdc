import PatternBuilder.Proofs.Binding

/-!
# Convenience steps

A character on its own is a literal of one character, a list of characters is a class with one step,
and a list of texts is an alternation of literals. A step that says nothing about how often it
occurs can say that it occurs once, in any of the ways that are granted. A program behaves the same
when it is rewritten so at every depth. A repeated literal of several characters is the group around
the literal, except that a group is logged. The main statement is `Step.run_primitiveAll_eq`.
-/
namespace PatternBuilder

/-- How the steps that say nothing about how often they occur can say that they occur once, by the
place where they stand. -/
abbrev Spelling := Place → Repetition

def Spelling.under (spell : Spelling) (position : Nat) : Spelling :=
  fun place => spell (position :: place)

def Spelling.Granted (spell : Spelling) : Prop :=
  ∀ place, (spell place).quantifier.result = .ok Quantifier.once

theorem Spelling.Granted.under {spell : Spelling} (h : spell.Granted) (position : Nat) :
    (spell.under position).Granted := fun place => h (position :: place)

namespace Repetition
open Checked

def onceSpellings : List Repetition := [.once, .byDefault, .exactly 1, .range 1 1]

theorem mem_onceSpellings_of_ok {times : Repetition}
    (h : times.quantifier.result = .ok Quantifier.once) : times ∈ onceSpellings := by
  cases times with
  | once | byDefault => decide
  | zeroOrMore | zeroOrMoreLazy | oneOrMore | oneOrMoreLazy | optional =>
    exact absurd (pure_ok_iff.mp h) (by decide)
  | exactly count =>
    obtain ⟨n, _, hn, honce⟩ := exactCount_ok_iff.mp h
    obtain rfl : 1 = n := congrArg Quantifier.min honce
    obtain rfl : 1 = count := Int32.toInt_inj.mp hn
    decide
  | atLeast count | atMost count =>
    obtain ⟨n, _, hpure⟩ := bind_ok_iff.mp h
    cases pure_ok_iff.mp hpure
  | range lower upper =>
    obtain ⟨m, n, hm, hn, _, _, honce⟩ := boundedCount_ok_iff.mp h
    obtain rfl : 1 = m := congrArg Quantifier.min honce
    obtain rfl : 1 = n := Option.some.inj (congrArg Quantifier.max honce)
    obtain rfl : 1 = lower := Int32.toInt_inj.mp hm
    obtain rfl : 1 = upper := Int32.toInt_inj.mp hn
    decide

theorem ok_once_iff {times : Repetition} :
    times.quantifier.result = .ok Quantifier.once ↔ times ∈ onceSpellings := by
  refine ⟨mem_onceSpellings_of_ok, fun h => ?_⟩
  have hall : ∀ spelled ∈ onceSpellings, spelled.quantifier.result = .ok Quantifier.once := by
    decide
  exact hall times h

end Repetition

namespace Step
open Repetition

mutual

/-- The step without convenience at its own place and inside. What it asks for stays. -/
def primitive (spell : Spelling) : Step → Step
  | .char c times => .literal [c] times
  | .oneOfChars first second others times => .characterClass [.oneOf first second others] times
  | .oneOfLiterals first second others times =>
    .oneOf [.literal first none] [.literal second none]
      (others.map fun text => [.literal text none]) times
  | .group body times => .group (primitiveAll spell 0 body) times
  | .namedGroup name body times => .namedGroup name (primitiveAll spell 0 body) times
  | .oneOf first second others times =>
    .oneOf (primitiveAll (spell.under 0) 0 first) (primitiveAll (spell.under 1) 0 second)
      (primitiveBranches spell 2 others) times
  | step => step

def primitiveAll (spell : Spelling) (position : Nat) : List Step → List Step
  | [] => []
  | step :: steps =>
    (step.primitive (spell.under position)).withTimes
        (some (step.times.getD (spell [position]))) ::
      primitiveAll spell (position + 1) steps

def primitiveBranches (spell : Spelling) (position : Nat) :
    List (List Step) → List (List Step)
  | [] => []
  | branch :: branches =>
    primitiveAll (spell.under position) 0 branch :: primitiveBranches spell (position + 1) branches

end

mutual

def isPrimitive : Step → Bool
  | .char _ _ | .oneOfChars _ _ _ _ | .oneOfLiterals _ _ _ _ => false
  | .group body _ | .namedGroup _ body _ => isPrimitiveAll body
  | .oneOf first second others _ =>
    isPrimitiveAll first && (isPrimitiveAll second && isPrimitiveBranches others)
  | .literal _ _ | .digit _ | .word _ | .startOfLine | .endOfLine | .characterClass _ _ | .peek
  | .inspect => true

def isPrimitiveAll : List Step → Bool
  | [] => true
  | step :: steps => step.isPrimitive && isPrimitiveAll steps

def isPrimitiveBranches : List (List Step) → Bool
  | [] => true
  | branch :: branches => isPrimitiveAll branch && isPrimitiveBranches branches

end

theorem isPrimitive_withTimes (step : Step) (times : Option Repetition) :
    (step.withTimes times).isPrimitive = step.isPrimitive := by
  cases step <;> rfl

theorem isPrimitiveBranches_literals (texts : List Text) :
    isPrimitiveBranches (texts.map fun text => [.literal text none]) = true := by
  induction texts with
  | nil => rfl
  | cons text texts ih => exact ih

mutual

theorem isPrimitive_primitive (spell : Spelling) (step : Step) :
    (step.primitive spell).isPrimitive = true := by
  cases step with
  | literal _ _ | char _ _ | digit _ | word _ | startOfLine | endOfLine | characterClass _ _
  | oneOfChars _ _ _ _ | peek | inspect => rfl
  | oneOfLiterals first second others times => exact isPrimitiveBranches_literals others
  | group body times | namedGroup _ body times => exact isPrimitiveAll_primitiveAll spell body 0
  | oneOf first second others times =>
    rw [primitive, isPrimitive, isPrimitiveAll_primitiveAll _ first,
      isPrimitiveAll_primitiveAll _ second, isPrimitiveBranches_primitiveBranches _ others]
    rfl

theorem isPrimitiveAll_primitiveAll (spell : Spelling) (steps : List Step) (position : Nat) :
    isPrimitiveAll (primitiveAll spell position steps) = true := by
  cases steps with
  | nil => rfl
  | cons step steps =>
    rw [primitiveAll, isPrimitiveAll, isPrimitive_withTimes, isPrimitive_primitive _ step,
      isPrimitiveAll_primitiveAll spell steps (position + 1)]
    rfl

theorem isPrimitiveBranches_primitiveBranches (spell : Spelling) (branches : List (List Step))
    (position : Nat) : isPrimitiveBranches (primitiveBranches spell position branches) = true := by
  cases branches with
  | nil => rfl
  | cons branch branches =>
    rw [primitiveBranches, isPrimitiveBranches, isPrimitiveAll_primitiveAll _ branch,
      isPrimitiveBranches_primitiveBranches spell branches (position + 1)]
    rfl

end

theorem run_withTimes {step : Step} {times : Option Repetition}
    (h : verdict times = verdict step.times) (p : Pattern) :
    (step.withTimes times).run p = step.run p := by
  cases step with
  | startOfLine | endOfLine | peek | inspect => rfl
  | literal _ own | char _ own | digit own | word own | characterClass _ own | group _ own
  | namedGroup _ _ own | oneOfChars _ _ _ own | oneOfLiterals _ _ _ own | oneOf _ _ _ own =>
    have hverdict : verdict times = verdict own := h
    rw [withTimes, run, run, Run.quantified_eq, Run.quantified_eq, hverdict]

theorem verdict_getD {times : Option Repetition} {spelled : Repetition}
    (h : spelled.quantifier.result = .ok Quantifier.once) :
    verdict (some (times.getD spelled)) = verdict times := by
  cases times with
  | none => exact h
  | some times => rfl

theorem times_primitive (spell : Spelling) (step : Step) :
    (step.primitive spell).times = step.times := by
  cases step <;> rfl

theorem runAll_literal (p : Pattern) (text : Text) :
    runAll p [.literal text none] = pure (p.literal text Quantifier.once) := rfl

theorem runBranches_literals (texts : List Text) :
    runBranches (texts.map fun text => [.literal text none]) =
      pure (texts.map (Pattern.empty.literal · Quantifier.once)) := by
  induction texts with
  | nil => rfl
  | cons text texts ih => rw [List.map_cons, runBranches, ih]; rfl

mutual

theorem run_primitive {spell : Spelling} (h : spell.Granted) (step : Step) (p : Pattern) :
    (step.primitive spell).run p = step.run p := by
  cases step with
  | literal _ _ | char _ _ | digit _ | word _ | startOfLine | endOfLine | characterClass _ _
  | oneOfChars _ _ _ _ | peek | inspect => rfl
  | oneOfLiterals first second others times =>
    simp only [primitive, run, runAll_literal, runBranches_literals, pure_bind]
    rfl
  | group body times | namedGroup _ body times =>
    rw [primitive, run, run, runAll_primitiveAll h body Pattern.empty 0]
  | oneOf first second others times =>
    rw [primitive, run, run, runAll_primitiveAll (h.under 0) first Pattern.empty 0,
      runAll_primitiveAll (h.under 1) second Pattern.empty 0,
      runBranches_primitiveBranches h others 2]

theorem runAll_primitiveAll {spell : Spelling} (h : spell.Granted) (steps : List Step)
    (p : Pattern) (position : Nat) :
    runAll p (primitiveAll spell position steps) = runAll p steps := by
  cases steps with
  | nil => rfl
  | cons step steps =>
    have hverdict : verdict (some (step.times.getD (spell [position]))) =
        verdict (step.primitive (spell.under position)).times := by
      rw [verdict_getD (h [position]), times_primitive]
    -- Inside the step, places start at the step itself, so the spelling moves along.
    rw [primitiveAll, runAll, runAll, run_withTimes hverdict,
      run_primitive (h.under position) step p]
    simp only [runAll_primitiveAll h steps _ (position + 1)]

theorem runBranches_primitiveBranches {spell : Spelling} (h : spell.Granted)
    (branches : List (List Step)) (position : Nat) :
    runBranches (primitiveBranches spell position branches) = runBranches branches := by
  cases branches with
  | nil => rfl
  | cons branch branches =>
    rw [primitiveBranches, runBranches, runBranches,
      runAll_primitiveAll (h.under position) branch Pattern.empty 0,
      runBranches_primitiveBranches h branches (position + 1)]

end

/-- A literal of several characters that is repeated goes into parentheses as a group would. -/
theorem run_literal_eq_group {text : Text} {times : Repetition} {q : Quantifier}
    (hlength : 2 ≤ text.length) (hq : times.quantifier.result = .ok q) (hne : q ≠ Quantifier.once)
    (p : Pattern) (saved : SavedClasses) :
    p.run [.literal text (some times)] saved = { value := p.literal text q, saved } ∧
    p.run [.group [.literal text none] (some times)] saved =
      { p.run [.literal text (some times)] saved with
        log := [.groupSpliced (Text.escape Text.literalSpecials text)] } := by
  have hverdict : verdict (some times) = .ok q := hq
  have hliteral : p.run [.literal text (some times)] = pure (p.literal text q) := by
    rw [Pattern.run, runAll, run, Run.quantified_of_ok hverdict, pure_bind, runAll]
  have hnested : runAll Pattern.empty [.literal text none] =
      pure (Pattern.empty.append (Text.escape Text.literalSpecials text)) := by
    rw [runAll_literal, Pattern.literal_once]
  have helement : p.literal text q =
      p.group (Pattern.empty.append (Text.escape Text.literalSpecials text)) q := by
    rw [Pattern.literal, Pattern.literalElement, if_pos ⟨hne, hlength⟩]
    rfl
  rw [hliteral]
  refine ⟨rfl, ?_⟩
  rw [Pattern.run, runAll, run, Run.quantified_of_ok hverdict, hnested, helement]
  rfl

/-- A program and what it is rewritten to do the same from any pattern and any saved classes, and
nothing convenient is left. The spellings of one occurrence are the four that are granted it. -/
theorem run_primitiveAll_eq :
    (∀ spell : Spelling, spell.Granted → ∀ (p : Pattern) (steps : List Step) (saved : SavedClasses),
      p.run (primitiveAll spell 0 steps) saved = p.run steps saved ∧
      isPrimitiveAll (primitiveAll spell 0 steps) = true) ∧
    (∀ times : Repetition,
      times.quantifier.result = .ok Quantifier.once ↔ times ∈ onceSpellings) ∧
    (∀ (text : Text) (times : Repetition) (q : Quantifier), 2 ≤ text.length →
      times.quantifier.result = .ok q → q ≠ Quantifier.once →
      ∀ (p : Pattern) (saved : SavedClasses),
        p.run [.literal text (some times)] saved = { value := p.literal text q, saved } ∧
        p.run [.group [.literal text none] (some times)] saved =
          { p.run [.literal text (some times)] saved with
            log := [.groupSpliced (Text.escape Text.literalSpecials text)] }) := by
  refine ⟨?_, ?_, ?_⟩
  · intro spell h p steps saved
    exact ⟨congrFun (runAll_primitiveAll h steps p 0) saved,
      isPrimitiveAll_primitiveAll spell steps 0⟩
  · intro times
    exact ok_once_iff
  · intro text times q hlength hq hne p saved
    exact run_literal_eq_group hlength hq hne p saved

def alternatingSpelling : Spelling := fun place =>
  if place.length % 2 = 1 then .exactly 1 else .range 1 1

def convenienceSample : List Step :=
  [.group
    [.char '.' none,
      .oneOfChars '&' '-' ['^'] (some (.atLeast 2)),
      .oneOfLiterals "a.b".toList "+".toList ["()".toList] none,
      .peek,
      .char 'x' (some (.exactly 0))]
    none]

theorem run_primitiveAll_eq_convenienceSample :
    (alternatingSpelling.Granted ∧
      primitiveAll alternatingSpelling 0 convenienceSample =
        [.group
          [.literal ['.'] (some (.range 1 1)),
            .characterClass [.oneOf '&' '-' ['^']] (some (.atLeast 2)),
            .oneOf [.literal "a.b".toList none] [.literal "+".toList none]
              [[.literal "()".toList none]] (some (.range 1 1)),
            .peek,
            .literal ['x'] (some (.exactly 0))]
          (some (.exactly 1))] ∧
      (Pattern.empty.run convenienceSample Shelf.empty).value.source =
        "(\\.[&\\-\\^]\x7b2,\x7d(a\\.b|\\+|\\(\\)))".toList ∧
      2 ≤ "a.b".toList.length ∧ Repetition.optional.quantifier.result = .ok Quantifier.optional ∧
      Quantifier.optional ≠ Quantifier.once) ∧
    Pattern.empty.run (primitiveAll alternatingSpelling 0 convenienceSample) Shelf.empty =
      Pattern.empty.run convenienceSample Shelf.empty ∧
    Pattern.empty.run [.group [.literal "a.b".toList none] (some .optional)] Shelf.empty =
      { Pattern.empty.run [.literal "a.b".toList (some .optional)] Shelf.empty with
        log := [.groupSpliced "a\\.b".toList] } := by
  have hgranted : alternatingSpelling.Granted := by
    intro place
    unfold alternatingSpelling
    split <;> rfl
  have hlength : 2 ≤ "a.b".toList.length := by decide
  have hne : Quantifier.optional ≠ Quantifier.once := by decide
  exact ⟨⟨hgranted, rfl, rfl, hlength, rfl, hne⟩,
    (run_primitiveAll_eq.1 _ hgranted _ _ _).1,
    (run_primitiveAll_eq.2.2 _ .optional _ hlength rfl hne _ _).2⟩

end Step
end PatternBuilder

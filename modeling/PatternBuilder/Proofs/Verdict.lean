import PatternBuilder.Program

/-!
# Verdicts

A step that asks for a repetition gets a quantifier or a rejection. That verdict alone decides how
the step starts: with the quantifier it runs as if nothing had been asked, with a rejection it shows
the rejection, logs it once and leaves the pattern as it was. A rejection is shown and logged in the
same act. So the rejections that a run shows are those that it logs, in the same order, however deep
the rejected steps stand. The main statements are `Run.quantified_eq`, its two readings, and
`Step.candid_runAll`.
-/
namespace PatternBuilder
namespace Checked
variable {α β : Type}

def rejections (x : Checked α) : List Message :=
  match x.result with
  | .ok _ => []
  | .error rejection => [.rejected rejection]

/-- A rejection is logged once and nothing else is. -/
def Candid (x : Checked α) : Prop := x.log = x.rejections

theorem candid_pure (value : α) : (pure value : Checked α).Candid := rfl

theorem candid_reject (parameter : Text) (constraint : Constraint) :
    (reject parameter constraint : Checked α).Candid := rfl

theorem Candid.bind {x : Checked α} {f : α → Checked β} (hx : x.Candid)
    (hf : ∀ value, (f value).Candid) : (x >>= f).Candid := by
  obtain ⟨result, log⟩ := x
  cases result with
  | error rejection => exact hx
  | ok value =>
    have hlog : log = [] := hx
    subst hlog
    exact hf value

end Checked

def Step.times : Step → Option Repetition
  | .literal _ times | .char _ times | .digit times | .word times | .characterClass _ times
  | .group _ times | .namedGroup _ _ times | .oneOfChars _ _ _ times | .oneOfLiterals _ _ _ times
  | .oneOf _ _ _ times => times
  | .startOfLine | .endOfLine | .peek | .inspect => none

namespace Repetition
open Checked

theorem candid_nonNegative (parameter : Text) (count : Int32) :
    (nonNegative parameter count).Candid := by
  unfold nonNegative
  split
  · exact candid_pure _
  · exact candid_reject _ _

theorem candid_positive (parameter : Text) (count : Int32) :
    (positive parameter count).Candid := by
  unfold positive
  split
  · exact candid_pure _
  · exact candid_reject _ _

theorem candid_exactCount (count : Int32) : (exactCount count).Candid :=
  (candid_positive _ _).bind fun _ => candid_pure _

theorem candid_boundedCount (min max : Int32) : (boundedCount min max).Candid := by
  apply (candid_nonNegative _ _).bind
  intro lower
  apply (candid_nonNegative _ _).bind
  intro upper
  split
  · exact candid_reject _ _
  · split
    · exact candid_exactCount _
    · exact candid_pure _

theorem candid_quantifier (times : Repetition) : times.quantifier.Candid := by
  cases times with
  | exactly count => exact candid_exactCount count
  | atLeast count => exact (candid_nonNegative _ _).bind fun _ => candid_pure _
  | atMost count => exact (candid_positive _ _).bind fun _ => candid_pure _
  | range min max => exact candid_boundedCount min max
  | once | byDefault | zeroOrMore | zeroOrMoreLazy | oneOrMore | oneOrMoreLazy | optional =>
    exact candid_pure _

def verdict : Option Repetition → Except Rejection Quantifier
  | none => .ok Quantifier.once
  | some times => times.quantifier.result

/-- What a step writes when it is granted a quantifier; a rejected step has nothing to write. -/
def granted {α : Type} (times : Option Repetition) (written : Quantifier → List α) : List α :=
  match verdict times with
  | .ok q => written q
  | .error _ => []

theorem granted_of_ok {α : Type} {times : Option Repetition} {q : Quantifier}
    (h : verdict times = .ok q) (written : Quantifier → List α) :
    granted times written = written q := by
  simp only [granted, h]

theorem granted_of_error {α : Type} {times : Option Repetition} {r : Rejection}
    (h : verdict times = .error r) (written : Quantifier → List α) :
    granted times written = [] := by
  simp only [granted, h]

end Repetition

namespace Run

def refuse (r : Rejection) (p : Pattern) : Run Pattern := do
  emit (.rejected r)
  record (.rejected r)
  return p

theorem quantified_eq (times : Option Repetition) (p : Pattern)
    (next : Quantifier → Run Pattern) :
    quantified times p next =
      match Repetition.verdict times with
      | .ok q => next q
      | .error r => refuse r p := by
  cases times with
  | none => rfl
  | some times =>
    have hlog := Repetition.candid_quantifier times
    unfold Checked.Candid Checked.rejections at hlog
    funext saved
    cases h : times.quantifier.result with
    | ok q =>
      rw [h] at hlog
      simp only [quantified, Repetition.verdict, h]
      rw [bind_apply, quantifier?_of_ok h, hlog]
      rfl
    | error r =>
      rw [h] at hlog
      simp only [quantified, Repetition.verdict, h]
      rw [bind_apply, quantifier?_of_error h, hlog]
      rfl

theorem quantified_of_ok {times : Option Repetition} {q : Quantifier}
    (h : Repetition.verdict times = .ok q) (p : Pattern) (next : Quantifier → Run Pattern) :
    quantified times p next = next q := by
  rw [quantified_eq, h]

theorem quantified_of_error {times : Option Repetition} {r : Rejection}
    (h : Repetition.verdict times = .error r) (p : Pattern) (next : Quantifier → Run Pattern) :
    quantified times p next = refuse r p := by
  rw [quantified_eq, h]

end Run

/-- The line that a rejection is logged with, word for word. -/
def Rejection.debugLine (r : Rejection) : Text :=
  "DEBUG fluent_regex::error: ".toList ++
    ("rejected quantifier argument `".toList ++ r.parameter ++ "`: ".toList ++
      match r.constraint with
      | .greaterThanZero => "must be greater than zero".toList
      | .nonNegative => "must be non-negative".toList
      | .notLessThanMin => "cannot be less than min".toList)

theorem Message.line_rejected (r : Rejection) : (rejected r).line = r.debugLine := by
  obtain ⟨parameter, constraint⟩ := r
  cases constraint <;> rfl

def Event.rejection? : Event → Option Rejection
  | .rejected r => some r
  | _ => none

def Message.rejection? : Message → Option Rejection
  | .rejected r => some r
  | _ => none

namespace Run
variable {α β : Type}

def Candid (run : Run α) : Prop :=
  ∀ saved, (run saved).events.filterMap Event.rejection? =
    (run saved).log.filterMap Message.rejection?

theorem candid_pure (value : α) : (pure value : Run α).Candid := fun _ => rfl

theorem candid_emit {event : Event} (h : event.rejection? = none) : (emit event).Candid :=
  fun _ => List.filterMap_cons_none h

theorem candid_record {message : Message} (h : message.rejection? = none) :
    (record message).Candid := by
  intro saved
  show [] = [message].filterMap Message.rejection?
  rw [List.filterMap_cons_none h, List.filterMap_nil]

theorem candid_save (key : Text) (cls : CharacterClass) : (save key cls).Candid := fun _ => rfl

theorem candid_saved? (key : Text) : (saved? key).Candid := fun _ => rfl

theorem candid_refuse (r : Rejection) (p : Pattern) : (refuse r p).Candid := fun _ => rfl

theorem Candid.bind {first : Run α} {next : α → Run β} (hfirst : first.Candid)
    (hnext : ∀ a, (next a).Candid) : (first >>= next).Candid := by
  intro saved
  rw [bind_apply, List.filterMap_append, List.filterMap_append, hfirst saved, hnext _ _]

theorem candid_quantified {times : Option Repetition} {p : Pattern}
    {next : Quantifier → Run Pattern} (h : ∀ q, (next q).Candid) :
    (quantified times p next).Candid := by
  rw [quantified_eq]
  split
  · exact h _
  · exact candid_refuse _ p

theorem candid_splice (p : Pattern) (branches : List Pattern) (q : Quantifier) :
    (splice p branches q).Candid :=
  (candid_record rfl).bind fun _ => candid_pure _

end Run

namespace ClassStep

theorem candid_run (step : ClassStep) (cls : CharacterClass) : (step.run cls).Candid := by
  cases step with
  | range _ _ | oneOf _ _ _ => exact Run.candid_pure _
  | peek | inspect => exact (Run.candid_emit rfl).bind fun _ => Run.candid_pure _
  | save key => exact (Run.candid_save key cls).bind fun _ => Run.candid_pure _
  | compare key =>
    refine (Run.candid_saved? key).bind fun _ => ?_
    exact (Run.candid_emit rfl).bind fun _ => Run.candid_pure _

theorem candid_runAll (steps : List ClassStep) (cls : CharacterClass) :
    (runAll cls steps).Candid := by
  induction steps generalizing cls with
  | nil => exact Run.candid_pure _
  | cons step steps ih => exact (candid_run step cls).bind fun cls => ih cls

end ClassStep

namespace Step

mutual

theorem candid_run (step : Step) (p : Pattern) : (step.run p).Candid := by
  cases step with
  | startOfLine | endOfLine => exact Run.candid_pure _
  | peek | inspect => exact (Run.candid_emit rfl).bind fun _ => Run.candid_pure _
  | literal _ times | char _ times | digit times | word times | oneOfChars _ _ _ times =>
    exact Run.candid_quantified fun _ => Run.candid_pure _
  | characterClass steps times =>
    refine Run.candid_quantified fun q => ?_
    exact (ClassStep.candid_runAll steps _).bind fun _ => Run.candid_pure _
  | group body times | namedGroup _ body times =>
    refine Run.candid_quantified fun q => ?_
    refine (candid_runAll body Pattern.empty).bind fun _ => ?_
    exact (Run.candid_record rfl).bind fun _ => Run.candid_pure _
  | oneOfLiterals _ _ _ times => exact Run.candid_quantified fun _ => Run.candid_splice _ _ _
  | oneOf first second others times =>
    refine Run.candid_quantified fun q => ?_
    refine (candid_runAll first Pattern.empty).bind fun _ => ?_
    refine (candid_runAll second Pattern.empty).bind fun _ => ?_
    exact (candid_runBranches others).bind fun _ => Run.candid_splice _ _ _

theorem candid_runAll (steps : List Step) (p : Pattern) : (runAll p steps).Candid := by
  cases steps with
  | nil => exact Run.candid_pure p
  | cons step steps => exact (candid_run step p).bind fun p => candid_runAll steps p

theorem candid_runBranches (branches : List (List Step)) : (runBranches branches).Candid := by
  cases branches with
  | nil => exact Run.candid_pure _
  | cons branch branches =>
    refine (candid_runAll branch Pattern.empty).bind fun _ => ?_
    exact (candid_runBranches branches).bind fun _ => Run.candid_pure _

end

end Step

end PatternBuilder

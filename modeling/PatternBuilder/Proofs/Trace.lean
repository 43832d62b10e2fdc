import PatternBuilder.Proofs.Fragment

/-!
# Traces

A trace gives each event of a program together with the place of the step that shows it. A place
leads from the outside in: the position of a step in the program, then the position of a branch
where there are several, then the position of a step in the program inside, and so on. An event of
an outermost step has a place of length one. The main statement is `Step.events_traceAll`: without
the places, a trace is the list of events that the run shows.
-/
namespace PatternBuilder

abbrev Place := List Nat

abbrev Trace := List (Place × Event)

namespace Trace

def ofEvents (events : List Event) : Trace := events.map fun event => ([], event)

def under (position : Nat) (trace : Trace) : Trace :=
  trace.map fun entry => (position :: entry.1, entry.2)

def events (trace : Trace) : List Event := trace.map Prod.snd

@[simp] theorem events_append (first second : Trace) :
    events (first ++ second) = events first ++ events second := List.map_append

@[simp] theorem events_under (position : Nat) (trace : Trace) :
    events (under position trace) = events trace := by
  simp [events, under]

@[simp] theorem events_ofEvents (es : List Event) : events (ofEvents es) = es := by
  rw [events, ofEvents, List.map_map]
  exact List.map_id es

end Trace

def ClassStep.traceAll (cls : CharacterClass) (saved : SavedClasses) (position : Nat) :
    List ClassStep → Trace
  | [] => []
  | step :: steps =>
    (Trace.ofEvents (step.run cls saved).events).under position ++
      traceAll (step.run cls saved).value (step.run cls saved).saved (position + 1) steps

def Repetition.traced (times : Option Repetition) (nested : Quantifier → Trace) : Trace :=
  match verdict times with
  | .ok q => nested q
  | .error r => Trace.ofEvents [.rejected r]

namespace Step
open Repetition

mutual

def trace (p : Pattern) (saved : SavedClasses) : Step → Trace
  | .characterClass steps times =>
    traced times fun q => ClassStep.traceAll { quantifier := q } saved 0 steps
  | .group body times => traced times fun _ => traceAll Pattern.empty saved 0 body
  | .namedGroup _ body times => traced times fun _ => traceAll Pattern.empty saved 0 body
  | .oneOf first second others times => traced times fun _ =>
    let a := runAll Pattern.empty first saved
    let b := runAll Pattern.empty second a.saved
    (traceAll Pattern.empty saved 0 first).under 0 ++
      ((traceAll Pattern.empty a.saved 0 second).under 1 ++ traceBranches b.saved 2 others)
  | step => Trace.ofEvents (step.run p saved).events

def traceAll (p : Pattern) (saved : SavedClasses) (position : Nat) : List Step → Trace
  | [] => []
  | step :: steps =>
    (step.trace p saved).under position ++
      traceAll (step.run p saved).value (step.run p saved).saved (position + 1) steps

def traceBranches (saved : SavedClasses) (position : Nat) : List (List Step) → Trace
  | [] => []
  | branch :: branches =>
    (traceAll Pattern.empty saved 0 branch).under position ++
      traceBranches (runAll Pattern.empty branch saved).saved (position + 1) branches

end

end Step

theorem ClassStep.events_traceAll (cls : CharacterClass) (saved : SavedClasses) (position : Nat)
    (steps : List ClassStep) :
    (traceAll cls saved position steps).events = (runAll cls steps saved).events := by
  induction steps generalizing cls saved position with
  | nil => rfl
  | cons step steps ih =>
    rw [traceAll, runAll, Run.events_bind, Trace.events_append, Trace.events_under,
      Trace.events_ofEvents, ih]

theorem Run.events_quantified {times : Option Repetition} {p : Pattern}
    {next : Quantifier → Run Pattern} {saved : SavedClasses} {nested : Quantifier → Trace}
    (h : ∀ q, (nested q).events = (next q saved).events) :
    (Repetition.traced times nested).events = (quantified times p next saved).events := by
  cases hv : Repetition.verdict times with
  | ok q => rw [quantified_of_ok hv, Repetition.traced, hv]; exact h q
  | error r => rw [quantified_of_error hv, Repetition.traced, hv]; rfl

theorem Run.ofEvents_quantified (times : Option Repetition) (p : Pattern)
    {next : Quantifier → Run Pattern} {saved : SavedClasses}
    (h : ∀ q, (next q saved).events = []) :
    Trace.ofEvents (quantified times p next saved).events =
      Repetition.traced times fun _ => [] := by
  cases hv : Repetition.verdict times with
  | ok q => rw [quantified_of_ok hv, Repetition.traced, hv, h q]; rfl
  | error r => rw [quantified_of_error hv, Repetition.traced, hv]; rfl

namespace Step

mutual

theorem events_trace (p : Pattern) (saved : SavedClasses) (step : Step) :
    (step.trace p saved).events = (step.run p saved).events := by
  cases step with
  | characterClass steps times =>
    apply Run.events_quantified
    intro q
    rw [ClassStep.events_traceAll, Run.events_bind, Run.events_pure, List.append_nil]
  | group body times | namedGroup _ body times =>
    apply Run.events_quantified
    intro q
    simp only [events_traceAll _ _ _ body, Run.events_bind, Run.events_record, Run.events_pure,
      List.append_nil]
  | oneOf first second others times =>
    apply Run.events_quantified
    intro q
    simp only [Trace.events_append, Trace.events_under, events_traceAll _ _ _ first,
      events_traceAll _ _ _ second, events_traceBranches _ _ others]
    simp only [Run.splice, Run.events_bind, Run.events_record, Run.events_pure, List.append_nil]
  | literal _ _ | char _ _ | digit _ | word _ | startOfLine | endOfLine | oneOfChars _ _ _ _
  | oneOfLiterals _ _ _ _ | peek | inspect =>
    exact Trace.events_ofEvents _

theorem events_traceAll (p : Pattern) (saved : SavedClasses) (position : Nat)
    (steps : List Step) :
    (traceAll p saved position steps).events = (runAll p steps saved).events := by
  cases steps with
  | nil => rfl
  | cons step steps =>
    rw [traceAll, runAll, Run.events_bind, Trace.events_append, Trace.events_under,
      events_trace p saved step, events_traceAll _ _ _ steps]

theorem events_traceBranches (saved : SavedClasses) (position : Nat)
    (branches : List (List Step)) :
    (traceBranches saved position branches).events = (runBranches branches saved).events := by
  cases branches with
  | nil => rfl
  | cons branch branches =>
    rw [traceBranches, runBranches, Trace.events_append, Trace.events_under,
      events_traceAll _ _ _ branch, events_traceBranches _ _ branches]
    simp only [Run.events_bind, Run.events_pure, List.append_nil]

end

example :
    traceAll Pattern.empty Shelf.empty 0
        [.digit none, .group [.peek, .word (some (.exactly 0))] none, .peek] =
      [([1, 0], .shown Pattern.empty),
        ([1, 1], .rejected ⟨"count".toList, .greaterThanZero⟩),
        ([2], .shown { source := "\\d()".toList })] := rfl

end Step
end PatternBuilder

import PatternBuilder.Proofs.Trace

/-!
# Programs with steps deleted

Two kinds of steps can be deleted from a program, at any depth, without changing the pattern or the
saved classes. A rejected step takes its rejection out of the events and out of the log, and nothing
else. A step that only reads takes its own events along and leaves the log as it was. The main
statements are `Step.runAll_withoutRejected` and `Step.runAll_withoutReading`.
-/
namespace PatternBuilder

/-- The steps to delete, by the place where they stand and by what they are. -/
structure Deletion where
  step : Place → Step → Bool
  classStep : Place → ClassStep → Bool

def Deletion.under (d : Deletion) (position : Nat) : Deletion where
  step place := d.step (position :: place)
  classStep place := d.classStep (position :: place)

def ClassStep.withoutAll (gone : Place → ClassStep → Bool) (position : Nat) :
    List ClassStep → List ClassStep
  | [] => []
  | step :: steps =>
    if gone [position] step then withoutAll gone (position + 1) steps
    else step :: withoutAll gone (position + 1) steps

namespace Step

mutual

def without (d : Deletion) : Step → Step
  | .characterClass steps times =>
    .characterClass (ClassStep.withoutAll d.classStep 0 steps) times
  | .group body times => .group (withoutAll d 0 body) times
  | .namedGroup name body times => .namedGroup name (withoutAll d 0 body) times
  | .oneOf first second others times =>
    .oneOf (withoutAll (d.under 0) 0 first) (withoutAll (d.under 1) 0 second)
      (withoutBranches d 2 others) times
  | step => step

def withoutAll (d : Deletion) (position : Nat) : List Step → List Step
  | [] => []
  | step :: steps =>
    if d.step [position] step then withoutAll d (position + 1) steps
    else step.without (d.under position) :: withoutAll d (position + 1) steps

def withoutBranches (d : Deletion) (position : Nat) : List (List Step) → List (List Step)
  | [] => []
  | branch :: branches =>
    withoutAll (d.under position) 0 branch :: withoutBranches d (position + 1) branches

end

def isRejected (step : Step) : Bool :=
  match Repetition.verdict step.times with
  | .ok _ => false
  | .error _ => true

def isReading : Step → Bool
  | .peek | .inspect => true
  | _ => false

end Step

def ClassStep.isReading : ClassStep → Bool
  | .peek | .inspect | .compare _ => true
  | _ => false

namespace Deletion

def rejected : Deletion where
  step _ step := step.isRejected
  classStep _ _ := false

def reading (gone : Place → Bool) : Deletion where
  step place step := step.isReading && gone place
  classStep place step := step.isReading && gone place

end Deletion

def Event.isRejected : Event → Bool
  | .rejected _ => true
  | _ => false

def Message.isRejected : Message → Bool
  | .rejected _ => true
  | _ => false

def Outcome.withoutRejections {α : Type} (o : Outcome α) : Outcome α :=
  { o with
    events := o.events.filter (!·.isRejected)
    log := o.log.filter (!·.isRejected) }

namespace Run
variable {α β : Type}

def withoutRejections (run : Run α) : Run α := fun saved => (run saved).withoutRejections

theorem withoutRejections_pure (a : α) : (pure a : Run α).withoutRejections = pure a := rfl

theorem withoutRejections_bind (first : Run α) (next : α → Run β) :
    (first >>= next).withoutRejections =
      first.withoutRejections >>= fun a => (next a).withoutRejections :=
  ext fun _ => Outcome.ext rfl rfl (List.filter_append _ _) (List.filter_append _ _)

theorem withoutRejections_record {message : Message} (h : message.isRejected = false) :
    (record message).withoutRejections = record message := by
  funext saved
  simp [withoutRejections, Outcome.withoutRejections, record, h]

theorem withoutRejections_refuse (r : Rejection) (p : Pattern) :
    (refuse r p).withoutRejections = pure p := rfl

theorem withoutRejections_quantified {times : Option Repetition} {q : Quantifier}
    (hv : Repetition.verdict times = .ok q) {p : Pattern} {next after : Quantifier → Run Pattern}
    (h : after q = (next q).withoutRejections) :
    quantified times p after = (quantified times p next).withoutRejections := by
  rw [quantified_of_ok hv, quantified_of_ok hv, h]

theorem withoutRejections_splice (p : Pattern) (branches : List Pattern) (q : Quantifier) :
    (splice p branches q).withoutRejections = splice p branches q := by
  rw [splice, withoutRejections_bind, withoutRejections_record rfl]
  rfl

end Run

namespace ClassStep

theorem withoutAll_none (position : Nat) (steps : List ClassStep) :
    withoutAll (fun _ _ => false) position steps = steps := by
  induction steps generalizing position with
  | nil => rfl
  | cons step steps ih => simp only [withoutAll, Bool.false_eq_true, if_false, ih]

theorem withoutRejections_run (step : ClassStep) (cls : CharacterClass) :
    (step.run cls).withoutRejections = step.run cls := by
  cases step with
  | range _ _ | oneOf _ _ _ | save _ => rfl
  | peek | inspect | compare _ =>
    simp only [run, Run.withoutRejections_bind, Run.withoutRejections_pure]
    rfl

theorem withoutRejections_runAll (steps : List ClassStep) (cls : CharacterClass) :
    (runAll cls steps).withoutRejections = runAll cls steps := by
  induction steps generalizing cls with
  | nil => rfl
  | cons step steps ih =>
    simp only [runAll, Run.withoutRejections_bind, withoutRejections_run, ih]

end ClassStep

namespace Step

theorem run_of_isRejected {step : Step} (h : step.isRejected = true) (p : Pattern) :
    ∃ r, step.run p = Run.refuse r p := by
  unfold isRejected at h
  cases hv : Repetition.verdict step.times with
  | ok q => rw [hv] at h; cases h
  | error r =>
    refine ⟨r, ?_⟩
    cases step with
    | startOfLine | endOfLine | peek | inspect => cases hv
    | literal _ times | char _ times | digit times | word times | characterClass _ times
    | group _ times | namedGroup _ _ times | oneOfChars _ _ _ times | oneOfLiterals _ _ _ times
    | oneOf _ _ _ times =>
      have hverdict : Repetition.verdict times = .error r := hv
      rw [run, Run.quantified_of_error hverdict]

theorem verdict_of_not_isRejected {step : Step} (h : step.isRejected = false) :
    ∃ q, Repetition.verdict step.times = .ok q := by
  unfold isRejected at h
  cases hv : Repetition.verdict step.times with
  | ok q => exact ⟨q, rfl⟩
  | error r => rw [hv] at h; cases h

mutual

theorem run_withoutRejected (step : Step) (p : Pattern) (h : step.isRejected = false) :
    (step.without .rejected).run p = (step.run p).withoutRejections := by
  obtain ⟨q, hq⟩ := verdict_of_not_isRejected h
  cases step with
  | startOfLine | endOfLine | peek | inspect => rfl
  | literal _ times | char _ times | digit times | word times | oneOfChars _ _ _ times =>
    simp only [without, run]
    exact Run.withoutRejections_quantified hq rfl
  | oneOfLiterals _ _ _ times =>
    simp only [without, run]
    apply Run.withoutRejections_quantified hq
    exact (Run.withoutRejections_splice _ _ _).symm
  | characterClass steps times =>
    rw [without, run, run]
    apply Run.withoutRejections_quantified hq
    rw [Run.withoutRejections_bind, ClassStep.withoutRejections_runAll]
    exact congrArg (· >>= _) (congrArg _ (ClassStep.withoutAll_none 0 steps))
  | group body times | namedGroup _ body times =>
    rw [without, run, run]
    apply Run.withoutRejections_quantified hq
    rw [Run.withoutRejections_bind, ← runAll_withoutRejected body Pattern.empty 0]
    rfl
  | oneOf first second others times =>
    rw [without, run, run]
    apply Run.withoutRejections_quantified hq
    simp only [Run.withoutRejections_bind, Run.withoutRejections_splice,
      ← runAll_withoutRejected first Pattern.empty 0,
      ← runAll_withoutRejected second Pattern.empty 0, ← runBranches_withoutRejected others 2]
    rfl

theorem runAll_withoutRejected (steps : List Step) (p : Pattern) (position : Nat) :
    runAll p (withoutAll .rejected position steps) = (runAll p steps).withoutRejections := by
  cases steps with
  | nil => rfl
  | cons step steps =>
    rw [runAll, Run.withoutRejections_bind, withoutAll]
    cases h : step.isRejected with
    | true =>
      obtain ⟨r, hr⟩ := run_of_isRejected h p
      have hgone : Deletion.rejected.step [position] step = true := h
      rw [hr, Run.withoutRejections_refuse, pure_bind, if_pos hgone]
      exact runAll_withoutRejected steps p (position + 1)
    | false =>
      have hkept : Deletion.rejected.step [position] step = false := h
      have hstep := run_withoutRejected step p h
      rw [hkept, if_neg Bool.false_ne_true, runAll, ← hstep]
      simp only [← runAll_withoutRejected steps _ (position + 1)]
      rfl

theorem runBranches_withoutRejected (branches : List (List Step)) (position : Nat) :
    runBranches (withoutBranches .rejected position branches) =
      (runBranches branches).withoutRejections := by
  cases branches with
  | nil => rfl
  | cons branch branches =>
    simp only [runBranches, withoutBranches, Run.withoutRejections_bind,
      Run.withoutRejections_pure, ← runAll_withoutRejected branch Pattern.empty 0,
      ← runBranches_withoutRejected branches (position + 1)]
    rfl

end

end Step

/-- The events that stay when the reading steps at some places go. Rejections stay at any place. -/
def Trace.remaining (gone : Place → Bool) (trace : Trace) : List Event :=
  Trace.events (trace.filter fun entry => entry.2.isRejected || !gone entry.1)

def Outcome.showing {α : Type} (o : Outcome α) (events : List Event) : Outcome α :=
  { o with events := events }

namespace Trace

theorem remaining_append (gone : Place → Bool) (first second : Trace) :
    remaining gone (first ++ second) = remaining gone first ++ remaining gone second := by
  rw [remaining, List.filter_append, events_append]
  rfl

theorem remaining_under (gone : Place → Bool) (position : Nat) (trace : Trace) :
    remaining gone (trace.under position) =
      trace.remaining fun place => gone (position :: place) := by
  rw [remaining, under, List.filter_map, events, List.map_map]
  rfl

theorem remaining_ofEvents {gone : Place → Bool} (h : gone [] = false) (events : List Event) :
    remaining gone (ofEvents events) = events := by
  have hall : (ofEvents events).filter (fun entry => entry.2.isRejected || !gone entry.1) =
      ofEvents events := by
    apply List.filter_eq_self.mpr
    intro entry hentry
    obtain ⟨event, _, rfl⟩ := List.mem_map.mp hentry
    simp only [h, Bool.not_false, Bool.or_true]
  rw [remaining, hall, events_ofEvents]

theorem remaining_ofEvents_gone {gone : Place → Bool} (h : gone [] = true) {event : Event}
    (hevent : event.isRejected = false) : remaining gone (ofEvents [event]) = [] := by
  simp [remaining, ofEvents, events, h, hevent]

end Trace

namespace Run
variable {α β : Type}

theorem showing_bind {first first' : Run α} {next next' : α → Run β} {saved : SavedClasses}
    {events rest : List Event} (hfirst : first' saved = (first saved).showing events)
    (hnext : next' (first saved).value (first saved).saved =
      (next (first saved).value (first saved).saved).showing rest) :
    (first' >>= next') saved = ((first >>= next) saved).showing (events ++ rest) := by
  rw [bind_apply, hfirst]
  simp only [Outcome.showing]
  rw [hnext]
  rfl

theorem showing_bind_silent {first first' : Run α} {next : α → Run β} {saved : SavedClasses}
    {events : List Event} (hfirst : first' saved = (first saved).showing events)
    (hnext : (next (first saved).value (first saved).saved).events = []) :
    (first' >>= next) saved = ((first >>= next) saved).showing events := by
  have hbind := showing_bind hfirst
    (show next _ _ = (next (first saved).value (first saved).saved).showing [] by
      rw [← hnext]
      rfl)
  rwa [List.append_nil] at hbind

theorem showing_quantified {times : Option Repetition} {p : Pattern}
    {next next' : Quantifier → Run Pattern} {nested : Quantifier → Trace} {saved : SavedClasses}
    {gone : Place → Bool}
    (h : ∀ q, next' q saved = (next q saved).showing ((nested q).remaining gone)) :
    quantified times p next' saved =
      (quantified times p next saved).showing
        ((Repetition.traced times nested).remaining gone) := by
  cases hv : Repetition.verdict times with
  | ok q =>
    rw [quantified_of_ok hv, quantified_of_ok hv, Repetition.traced, hv]
    exact h q
  | error r =>
    rw [quantified_of_error hv, quantified_of_error hv, Repetition.traced, hv]
    rfl

end Run

namespace ClassStep

theorem run_of_isReading {step : ClassStep} (h : step.isReading = true) (cls : CharacterClass)
    (saved : SavedClasses) :
    ∃ event, event.isRejected = false ∧
      step.run cls saved = { value := cls, saved, events := [event] } := by
  cases step with
  | range _ _ | oneOf _ _ _ | save _ => cases h
  | peek | inspect | compare _ => exact ⟨_, rfl, rfl⟩

theorem events_of_not_isReading {step : ClassStep} (h : step.isReading = false)
    (cls : CharacterClass) (saved : SavedClasses) : (step.run cls saved).events = [] := by
  cases step with
  | range _ _ | oneOf _ _ _ | save _ => rfl
  | peek | inspect | compare _ => cases h

theorem runAll_withoutReading (gone : Place → Bool) (steps : List ClassStep)
    (cls : CharacterClass) (saved : SavedClasses) (position : Nat) :
    runAll cls (withoutAll (Deletion.reading gone).classStep position steps) saved =
      (runAll cls steps saved).showing ((traceAll cls saved position steps).remaining gone) := by
  induction steps generalizing cls saved position with
  | nil => rfl
  | cons step steps ih =>
    rw [withoutAll, traceAll, Trace.remaining_append, Trace.remaining_under]
    cases hgone : (Deletion.reading gone).classStep [position] step with
    | true =>
      obtain ⟨hreading, hplace⟩ := Bool.and_eq_true_iff.mp hgone
      obtain ⟨event, hevent, hrun⟩ := run_of_isReading hreading cls saved
      rw [if_pos rfl, ih, runAll, Run.bind_apply, hrun,
        Trace.remaining_ofEvents_gone hplace hevent]
      rfl
    | false =>
      have hown : (Trace.ofEvents (step.run cls saved).events).remaining
          (fun place => gone (position :: place)) = (step.run cls saved).events := by
        cases hreading : step.isReading with
        | true =>
          have hplace : gone [position] = false := by
            simpa [Deletion.reading, hreading] using hgone
          exact Trace.remaining_ofEvents hplace _
        | false => rw [events_of_not_isReading hreading]; rfl
      rw [if_neg Bool.false_ne_true, hown]
      exact Run.showing_bind rfl (ih _ _ _)

end ClassStep

namespace Step

theorem run_of_isReading {step : Step} (h : step.isReading = true) (p : Pattern)
    (saved : SavedClasses) :
    ∃ event, event.isRejected = false ∧
      step.run p saved = { value := p, saved, events := [event] } ∧
      step.trace p saved = Trace.ofEvents [event] := by
  cases step with
  | peek | inspect => exact ⟨_, rfl, rfl, rfl⟩
  | literal _ _ | char _ _ | digit _ | word _ | startOfLine | endOfLine | characterClass _ _
  | group _ _ | namedGroup _ _ _ | oneOfChars _ _ _ _ | oneOfLiterals _ _ _ _ | oneOf _ _ _ _ =>
    cases h

mutual

theorem run_withoutReading (gone : Place → Bool) (step : Step) (p : Pattern)
    (saved : SavedClasses) (h : (Deletion.reading gone).step [] step = false) :
    (step.without (.reading gone)).run p saved =
      (step.run p saved).showing ((step.trace p saved).remaining gone) := by
  cases step with
  | startOfLine | endOfLine => rfl
  | peek | inspect =>
    simp only [trace]
    rw [Trace.remaining_ofEvents h]
    rfl
  | literal _ times | char _ times | digit times | word times | oneOfChars _ _ _ times
  | oneOfLiterals _ _ _ times =>
    simp only [without, trace, run]
    rw [Run.ofEvents_quantified _ _ fun _ => rfl]
    exact Run.showing_quantified fun _ => rfl
  | characterClass steps times =>
    rw [without, run, run, trace]
    apply Run.showing_quantified
    intro q
    exact Run.showing_bind_silent (ClassStep.runAll_withoutReading gone steps _ saved 0) rfl
  | group body times | namedGroup _ body times =>
    rw [without, run, run, trace]
    apply Run.showing_quantified
    intro q
    exact Run.showing_bind_silent (runAll_withoutReading gone body Pattern.empty saved 0) rfl
  | oneOf first second others times =>
    rw [without, run, run, trace]
    apply Run.showing_quantified
    intro q
    simp only [Trace.remaining_append, Trace.remaining_under]
    refine Run.showing_bind (runAll_withoutReading _ first Pattern.empty saved 0) ?_
    refine Run.showing_bind (runAll_withoutReading _ second Pattern.empty _ 0) ?_
    exact Run.showing_bind_silent (runBranches_withoutReading gone others _ 2) rfl

theorem runAll_withoutReading (gone : Place → Bool) (steps : List Step) (p : Pattern)
    (saved : SavedClasses) (position : Nat) :
    runAll p (withoutAll (.reading gone) position steps) saved =
      (runAll p steps saved).showing ((traceAll p saved position steps).remaining gone) := by
  cases steps with
  | nil => rfl
  | cons step steps =>
    rw [withoutAll, traceAll, Trace.remaining_append, Trace.remaining_under]
    cases hgone : (Deletion.reading gone).step [position] step with
    | true =>
      obtain ⟨hreading, hplace⟩ := Bool.and_eq_true_iff.mp hgone
      obtain ⟨event, hevent, hrun, htrace⟩ := run_of_isReading hreading p saved
      rw [if_pos rfl, runAll_withoutReading gone steps p saved (position + 1), runAll,
        Run.bind_apply, hrun, htrace, Trace.remaining_ofEvents_gone hplace hevent]
      rfl
    | false =>
      rw [if_neg Bool.false_ne_true]
      -- Inside the step, places start at the step itself.
      have hstep := run_withoutReading (fun place => gone (position :: place)) step p saved hgone
      exact Run.showing_bind hstep (runAll_withoutReading gone steps _ _ (position + 1))

theorem runBranches_withoutReading (gone : Place → Bool) (branches : List (List Step))
    (saved : SavedClasses) (position : Nat) :
    runBranches (withoutBranches (.reading gone) position branches) saved =
      (runBranches branches saved).showing
        ((traceBranches saved position branches).remaining gone) := by
  cases branches with
  | nil => rfl
  | cons branch branches =>
    rw [withoutBranches, traceBranches, Trace.remaining_append, Trace.remaining_under]
    refine Run.showing_bind (runAll_withoutReading _ branch Pattern.empty saved 0) ?_
    exact Run.showing_bind_silent (runBranches_withoutReading gone branches _ (position + 1)) rfl

end

end Step

/-- A rejected step leaves nothing behind but its rejection, and a step that reads leaves nothing
behind but what it shows. The trace that tells the events of the reading steps from the others is
the list of events of the run. -/
theorem Step.runAll_without_eq :
    (∀ (p : Pattern) (steps : List Step) (saved : SavedClasses),
      p.run (withoutAll .rejected 0 steps) saved = (p.run steps saved).withoutRejections) ∧
    (∀ (gone : Place → Bool) (p : Pattern) (steps : List Step) (saved : SavedClasses),
      p.run (withoutAll (.reading gone) 0 steps) saved =
        (p.run steps saved).showing ((traceAll p saved 0 steps).remaining gone)) ∧
    (∀ (p : Pattern) (steps : List Step) (saved : SavedClasses),
      (traceAll p saved 0 steps).events = (p.run steps saved).events) := by
  refine ⟨?_, ?_, ?_⟩
  · intro p steps saved
    exact congrFun (runAll_withoutRejected steps p 0) saved
  · intro gone p steps saved
    exact runAll_withoutReading gone steps p saved 0
  · intro p steps saved
    exact events_traceAll p saved 0 steps

end PatternBuilder

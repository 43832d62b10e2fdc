import PatternBuilder.Proofs.Trace

/-!
# Programs in context

A program cannot tell what stands before the pattern that it works on. Run behind a text, it ends
in the same pattern behind that text, logs the same and saves the same; its events are the same
except that the outermost steps show the text too. So a run of two programs in sequence is the two
runs one behind the other, and what the outermost steps show only grows. The main statements are
`Step.traceAll_behind` and `Step.pairwise_outermost`.
-/
namespace PatternBuilder

def Pattern.behind (text : Text) (p : Pattern) : Pattern := { source := text ++ p.source }

theorem Pattern.behind_append (text : Text) (p : Pattern) (more : Text) :
    (p.behind text).append more = (p.append more).behind text := by
  simp only [behind, append, List.append_assoc]

theorem Pattern.empty_behind (p : Pattern) : empty.behind p.source = p := by
  simp only [behind, source_empty, List.append_nil]

namespace Event

def behind (text : Text) : Event → Event
  | .shown p => .shown (p.behind text)
  | .inspected p => .inspected (p.behind text)
  | event => event

def source? : Event → Option Text
  | .shown p | .inspected p => some p.source
  | _ => none

theorem source?_behind (text : Text) (event : Event) :
    (event.behind text).source? = event.source?.map (text ++ ·) := by
  cases event <;> rfl

end Event

namespace Trace

def behind (text : Text) (depth : Nat) (trace : Trace) : Trace :=
  trace.map fun entry =>
    (entry.1, if entry.1.length = depth then entry.2.behind text else entry.2)

/-- The sources that the outermost steps show, in order. -/
def outermost (trace : Trace) : List Text :=
  trace.filterMap fun entry => if entry.1.length = 1 then entry.2.source? else none

theorem behind_append (text : Text) (depth : Nat) (first second : Trace) :
    behind text depth (first ++ second) = behind text depth first ++ behind text depth second :=
  List.map_append

theorem outermost_append (first second : Trace) :
    outermost (first ++ second) = outermost first ++ outermost second := List.filterMap_append

theorem under_behind (position : Nat) (text : Text) (depth : Nat) (trace : Trace) :
    (behind text depth trace).under position = behind text (depth + 1) (trace.under position) := by
  simp [behind, under]

theorem outermost_behind (text : Text) (trace : Trace) :
    (behind text 1 trace).outermost = trace.outermost.map (text ++ ·) := by
  rw [outermost, behind, List.filterMap_map, outermost, List.map_filterMap]
  congr 1
  funext entry
  by_cases h : entry.1.length = 1
  · simp only [Function.comp_apply, h, if_true, Event.source?_behind]
  · simp only [Function.comp_apply, h, if_false, Option.map_none]

def Inner (trace : Trace) : Prop := ∀ entry ∈ trace, entry.1 ≠ []

theorem inner_nil : Inner [] := fun _ h => absurd h List.not_mem_nil

theorem inner_under (position : Nat) (trace : Trace) : (trace.under position).Inner := by
  intro entry h
  obtain ⟨inside, _, rfl⟩ := List.mem_map.mp h
  exact List.cons_ne_nil _ _

theorem Inner.append {first second : Trace} (hfirst : first.Inner) (hsecond : second.Inner) :
    (first ++ second).Inner := by
  intro entry h
  rcases List.mem_append.mp h with h | h
  · exact hfirst entry h
  · exact hsecond entry h

theorem Inner.behind {trace : Trace} (h : trace.Inner) (text : Text) :
    trace.behind text 0 = trace := by
  refine (List.map_congr_left fun entry hentry => ?_).trans (List.map_id trace)
  have hlength : entry.1.length ≠ 0 := by simpa using h entry hentry
  rw [if_neg hlength]
  rfl

/-- No event at the place of the step itself shows another pattern. -/
def Shows (p : Pattern) (trace : Trace) : Prop :=
  ∀ entry ∈ trace, entry.1 = [] → ∀ source, entry.2.source? = some source → source = p.source

theorem Inner.shows {trace : Trace} (h : trace.Inner) (p : Pattern) : trace.Shows p :=
  fun entry hentry hplace => absurd hplace (h entry hentry)

theorem Shows.eq_of_mem_outermost {p : Pattern} {trace : Trace} (h : trace.Shows p)
    (position : Nat) : ∀ shown ∈ (trace.under position).outermost, shown = p.source := by
  intro shown hshown
  obtain ⟨_, hentry, hsource⟩ := List.mem_filterMap.mp hshown
  obtain ⟨entry, hmem, rfl⟩ := List.mem_map.mp hentry
  by_cases hplace : entry.1 = []
  · simp only [hplace, List.length_singleton, if_true] at hsource
    exact h entry hmem hplace shown hsource
  · simp [hplace] at hsource

end Trace

theorem ClassStep.inner_traceAll (cls : CharacterClass) (saved : SavedClasses) (position : Nat)
    (steps : List ClassStep) : (traceAll cls saved position steps).Inner := by
  induction steps generalizing cls saved position with
  | nil => exact Trace.inner_nil
  | cons step steps ih => exact (Trace.inner_under _ _).append (ih _ _ _)

theorem Repetition.behind_traced (times : Option Repetition) {nested : Quantifier → Trace}
    (h : ∀ q, (nested q).Inner) (text : Text) :
    (traced times nested).behind text 0 = traced times nested := by
  unfold traced
  split
  · exact (h _).behind text
  · rfl

theorem Repetition.shows_traced (times : Option Repetition) {nested : Quantifier → Trace}
    (h : ∀ q, (nested q).Inner) (p : Pattern) : (traced times nested).Shows p := by
  unfold traced
  split
  · exact (h _).shows p
  · intro entry hentry _ source hsource
    obtain rfl := List.mem_singleton.mp hentry
    cases hsource

namespace Run

theorem saved_quantified (times : Option Repetition) (p q : Pattern)
    {next after : Quantifier → Run Pattern} {saved : SavedClasses}
    (h : ∀ n, (next n saved).saved = (after n saved).saved) :
    (quantified times p next saved).saved = (quantified times q after saved).saved := by
  cases hv : Repetition.verdict times with
  | ok n => rw [quantified_of_ok hv, quantified_of_ok hv]; exact h n
  | error r => rw [quantified_of_error hv, quantified_of_error hv]; rfl

end Run

namespace Step

theorem inner_traceAll (p : Pattern) (saved : SavedClasses) (position : Nat)
    (steps : List Step) : (traceAll p saved position steps).Inner := by
  induction steps generalizing p saved position with
  | nil => exact Trace.inner_nil
  | cons step steps ih => exact (Trace.inner_under _ _).append (ih _ _ _)

theorem inner_traceBranches (saved : SavedClasses) (position : Nat)
    (branches : List (List Step)) : (traceBranches saved position branches).Inner := by
  induction branches generalizing saved position with
  | nil => exact Trace.inner_nil
  | cons branch branches ih => exact (Trace.inner_under _ _).append (ih _ _)

theorem saved_run (step : Step) (p q : Pattern) (saved : SavedClasses) :
    (step.run p saved).saved = (step.run q saved).saved := by
  cases step with
  | startOfLine | endOfLine | peek | inspect => rfl
  | literal _ times | char _ times | digit times | word times | characterClass _ times
  | group _ times | namedGroup _ _ times | oneOfChars _ _ _ times | oneOfLiterals _ _ _ times
  | oneOf _ _ _ times =>
    exact Run.saved_quantified times p q fun _ => rfl

theorem trace_behind (step : Step) (text : Text) (p : Pattern) (saved : SavedClasses) :
    step.trace (p.behind text) saved = (step.trace p saved).behind text 0 := by
  cases step with
  | startOfLine | endOfLine | peek | inspect => rfl
  | literal _ times | char _ times | digit times | word times | oneOfChars _ _ _ times
  | oneOfLiterals _ _ _ times =>
    simp only [trace, run]
    rw [Run.ofEvents_quantified _ _ fun _ => rfl, Run.ofEvents_quantified _ _ fun _ => rfl,
      Repetition.behind_traced _ fun _ => Trace.inner_nil]
  | characterClass steps times =>
    exact (Repetition.behind_traced times (fun _ => ClassStep.inner_traceAll _ _ _ _) text).symm
  | group body times | namedGroup _ body times =>
    exact (Repetition.behind_traced times (fun _ => inner_traceAll _ _ _ _) text).symm
  | oneOf first second others times =>
    refine (Repetition.behind_traced times (fun _ => ?_) text).symm
    exact (Trace.inner_under _ _).append
      ((Trace.inner_under _ _).append (inner_traceBranches _ _ _))

theorem traceAll_behind (text : Text) (p : Pattern) (saved : SavedClasses) (position : Nat)
    (steps : List Step) :
    traceAll (p.behind text) saved position steps =
      (traceAll p saved position steps).behind text 1 := by
  induction steps generalizing p saved position with
  | nil => rfl
  | cons step steps ih =>
    have hvalue : (step.run (p.behind text) saved).value =
        ((step.run p saved).value).behind text := by
      rw [(settles_run step _ saved).1, (settles_run step _ saved).1, Pattern.behind_append]
    rw [traceAll, traceAll, Trace.behind_append, ← Trace.under_behind, trace_behind, hvalue,
      saved_run step (p.behind text) p, ih]

theorem saved_runAll (steps : List Step) (p q : Pattern) (saved : SavedClasses) :
    (runAll p steps saved).saved = (runAll q steps saved).saved := by
  induction steps generalizing p q saved with
  | nil => rfl
  | cons step steps ih =>
    rw [runAll, runAll, Run.saved_bind, Run.saved_bind, saved_run step p q]
    exact ih _ _ _

theorem prefix_of_mem_outermost {p : Pattern} {saved : SavedClasses} {position : Nat}
    {steps : List Step} {shown : Text} (h : shown ∈ (traceAll p saved position steps).outermost) :
    p.source <+: shown := by
  rw [← Pattern.empty_behind p, traceAll_behind, Trace.outermost_behind] at h
  obtain ⟨rest, _, rfl⟩ := List.mem_map.mp h
  exact List.prefix_append _ _

theorem shows_trace (step : Step) (p : Pattern) (saved : SavedClasses) :
    (step.trace p saved).Shows p := by
  cases step with
  | startOfLine | endOfLine => exact Trace.inner_nil.shows p
  | peek | inspect =>
    intro entry hentry _ source hsource
    obtain rfl := List.mem_singleton.mp hentry
    exact (Option.some.inj hsource).symm
  | literal _ times | char _ times | digit times | word times | oneOfChars _ _ _ times
  | oneOfLiterals _ _ _ times =>
    simp only [trace, run]
    rw [Run.ofEvents_quantified _ _ fun _ => rfl]
    exact Repetition.shows_traced times (fun _ => Trace.inner_nil) p
  | characterClass steps times =>
    exact Repetition.shows_traced times (fun _ => ClassStep.inner_traceAll _ _ _ _) p
  | group body times | namedGroup _ body times =>
    exact Repetition.shows_traced times (fun _ => inner_traceAll _ _ _ _) p
  | oneOf first second others times =>
    apply Repetition.shows_traced times
    intro q
    exact (Trace.inner_under _ _).append
      ((Trace.inner_under _ _).append (inner_traceBranches _ _ _))

theorem pairwise_outermost (p : Pattern) (saved : SavedClasses) (position : Nat)
    (steps : List Step) :
    (traceAll p saved position steps).outermost.Pairwise (· <+: ·) := by
  induction steps generalizing p saved position with
  | nil => exact List.Pairwise.nil
  | cons step steps ih =>
    have hstep := (shows_trace step p saved).eq_of_mem_outermost position
    rw [traceAll, Trace.outermost_append, List.pairwise_append]
    refine ⟨List.pairwise_of_forall_mem_list fun a ha b hb => ?_, ih _ _ _, fun a ha b hb => ?_⟩
    · have hab : a = b := (hstep a ha).trans (hstep b hb).symm
      subst hab
      exact List.prefix_refl a
    · have hrest := prefix_of_mem_outermost hb
      rw [(settles_run step p saved).1, Pattern.source_append] at hrest
      rw [hstep a ha]
      exact (List.prefix_append _ _).trans hrest

end Step

/-- What stands before a program changes nothing but what its outermost steps show. In sequence,
the second of two programs appends and logs what it does anywhere. -/
theorem Pattern.run_appends :
    (∀ (p : Pattern) (steps : List Step) (saved : SavedClasses),
      (p.run steps saved).value.source = p.source ++ (empty.run steps saved).value.source ∧
      (p.run steps saved).log = (empty.run steps saved).log ∧
      (p.run steps saved).saved = (empty.run steps saved).saved ∧
      (p.run steps saved).events = (Step.traceAll p saved 0 steps).events ∧
      Step.traceAll p saved 0 steps = (Step.traceAll empty saved 0 steps).behind p.source 1) ∧
    (∀ (p : Pattern) (first second : List Step) (saved before between : SavedClasses),
      (p.run (first ++ second) saved).value.source =
        p.source ++ ((empty.run first before).value.source ++
          (empty.run second between).value.source) ∧
      (p.run (first ++ second) saved).log =
        (empty.run first before).log ++ (empty.run second between).log) ∧
    (∀ (p : Pattern) (steps : List Step) (saved : SavedClasses),
      (Step.traceAll p saved 0 steps).outermost.Pairwise (· <+: ·)) := by
  refine ⟨fun p steps saved => ⟨?_, ?_, ?_, ?_, ?_⟩,
    fun p first second saved before between => ⟨?_, ?_⟩,
    fun p steps saved => Step.pairwise_outermost p saved 0 steps⟩
  · rw [Step.source_runAll, Step.source_runAll, source_empty, List.nil_append]
  · rw [Step.log_runAll, Step.log_runAll]
  · exact Step.saved_runAll steps p empty saved
  · exact (Step.events_traceAll p saved 0 steps).symm
  · have hbehind := Step.traceAll_behind p.source empty saved 0 steps
    rwa [empty_behind] at hbehind
  · simp only [Step.source_runAll, Step.fragmentAll_append, source_empty, List.nil_append]
  · rw [Step.log_runAll, Step.log_runAll, Step.log_runAll, Step.messagesAll_append]

end PatternBuilder

import PatternBuilder.Proofs.Verdict

/-!
# Fragments

What a program appends and what it logs are functions of its steps alone: neither the pattern that
it starts from nor the classes saved before play a part. A fragment is put together from the
fragments of the nested programs, and the messages of a nested program come before the message of
the element around it. The main statement is `Step.settles_runAll`.
-/
namespace PatternBuilder
namespace Run
variable {α β : Type}

/-- Whatever was saved before, the run ends in this value and logs these messages. -/
def Settles (run : Run α) (value : α) (log : List Message) : Prop :=
  ∀ saved, (run saved).value = value ∧ (run saved).log = log

theorem settles_pure (value : α) : (pure value : Run α).Settles value [] :=
  fun _ => ⟨rfl, rfl⟩

theorem settles_emit (event : Event) : (emit event).Settles () [] := fun _ => ⟨rfl, rfl⟩

theorem settles_record (message : Message) : (record message).Settles () [message] :=
  fun _ => ⟨rfl, rfl⟩

theorem settles_save (key : Text) (cls : CharacterClass) : (save key cls).Settles () [] :=
  fun _ => ⟨rfl, rfl⟩

theorem Settles.bind {first : Run α} {next : α → Run β} {a : α} {b : β} {log rest : List Message}
    (hfirst : first.Settles a log) (hnext : (next a).Settles b rest) :
    (first >>= next).Settles b (log ++ rest) := by
  intro saved
  obtain ⟨hvalue, hlog⟩ := hfirst saved
  rw [bind_apply, hvalue, hlog]
  obtain ⟨hb, hrest⟩ := hnext (first saved).saved
  exact ⟨hb, congrArg (log ++ ·) hrest⟩

end Run

namespace Repetition

def written (times : Option Repetition) (element : Quantifier → Text) : Text :=
  granted times fun q => element q ++ q.render

def logged (times : Option Repetition) (log : List Message) : List Message :=
  match verdict times with
  | .ok _ => log
  | .error r => [.rejected r]

theorem written_of_ok {times : Option Repetition} {q : Quantifier} (h : verdict times = .ok q)
    (element : Quantifier → Text) : written times element = element q ++ q.render :=
  granted_of_ok h _

theorem written_of_error {times : Option Repetition} {r : Rejection} (h : verdict times = .error r)
    (element : Quantifier → Text) : written times element = [] :=
  granted_of_error h _

theorem logged_of_ok {times : Option Repetition} {q : Quantifier} (h : verdict times = .ok q)
    (log : List Message) : logged times log = log := by
  simp only [logged, h]

theorem logged_of_error {times : Option Repetition} {r : Rejection} (h : verdict times = .error r)
    (log : List Message) : logged times log = [.rejected r] := by
  simp only [logged, h]

end Repetition

theorem Run.settles_quantified {times : Option Repetition} {p : Pattern}
    {next : Quantifier → Run Pattern} {element : Quantifier → Text} {log : List Message}
    (h : ∀ q, (next q).Settles (p.element (element q) q) log) :
    (Run.quantified times p next).Settles (p.append (Repetition.written times element))
      (Repetition.logged times log) := by
  cases hv : Repetition.verdict times with
  | ok q =>
    rw [quantified_of_ok hv, Repetition.written_of_ok hv, Repetition.logged_of_ok hv]
    exact h q
  | error r =>
    rw [quantified_of_error hv, Repetition.written_of_error hv, Repetition.logged_of_error hv,
      Pattern.append_nil]
    exact fun _ => ⟨rfl, rfl⟩

namespace ClassStep

def written : ClassStep → Text
  | .range first last => [first, '-', last]
  | .oneOf first second others => Text.escape Text.classSpecials (first :: second :: others)
  | .peek | .inspect | .save _ | .compare _ => []

def writtenAll (steps : List ClassStep) : Text := steps.flatMap written

@[simp] theorem writtenAll_nil : writtenAll [] = [] := rfl

@[simp] theorem writtenAll_cons (step : ClassStep) (steps : List ClassStep) :
    writtenAll (step :: steps) = step.written ++ writtenAll steps := rfl

theorem settles_run (step : ClassStep) (cls : CharacterClass) :
    (step.run cls).Settles (cls.append step.written) [] := by
  have same : cls.append [] = cls := by simp [CharacterClass.append]
  cases step with
  | range first last => exact Run.settles_pure _
  | oneOf first second others => exact Run.settles_pure _
  | peek => rw [written, same]; exact (Run.settles_emit _).bind (Run.settles_pure cls)
  | inspect => rw [written, same]; exact (Run.settles_emit _).bind (Run.settles_pure cls)
  | save key => rw [written, same]; exact (Run.settles_save key cls).bind (Run.settles_pure cls)
  | compare key => rw [written, same]; exact fun _ => ⟨rfl, rfl⟩

theorem settles_runAll (steps : List ClassStep) (cls : CharacterClass) :
    (runAll cls steps).Settles (cls.append (writtenAll steps)) [] := by
  induction steps generalizing cls with
  | nil =>
    rw [writtenAll_nil, show cls.append [] = cls by simp [CharacterClass.append]]
    exact Run.settles_pure cls
  | cons step steps ih =>
    have hrest := ih (cls.append step.written)
    rw [show (cls.append step.written).append (writtenAll steps) =
      cls.append (writtenAll (step :: steps)) by simp [CharacterClass.append]] at hrest
    exact (settles_run step cls).bind hrest

end ClassStep

namespace Pattern

def bracketed (body : Text) : Text := '[' :: body ++ [']']

theorem characterClass_eq (p : Pattern) (cls : CharacterClass) :
    p.characterClass cls = p.element (bracketed cls.body) cls.quantifier := by
  simp [characterClass, element, bracketed, CharacterClass.render]

theorem oneOfChars_eq (p : Pattern) (first second : Char) (others : List Char) (q : Quantifier) :
    p.oneOfChars first second others q =
      p.element (bracketed (Text.escape Text.classSpecials (first :: second :: others))) q :=
  characterClass_eq p _

theorem alternation_literals (p : Pattern) (texts : List Text) (q : Quantifier) :
    p.alternation (texts.map (empty.literal · Quantifier.once)) q =
      p.element (alternationElement (texts.map (Text.escape Text.literalSpecials))) q := by
  have hsources : (texts.map (empty.literal · Quantifier.once)).map source =
      texts.map (Text.escape Text.literalSpecials) := by
    rw [List.map_map]
    exact List.map_congr_left fun text _ => source_literal_once empty text
  rw [alternation, hsources]

theorem alternation_fragments (p : Pattern) (fragments : List Text) (q : Quantifier) :
    p.alternation (fragments.map empty.append) q = p.element (alternationElement fragments) q := by
  have hsources : (fragments.map empty.append).map source = fragments := by
    rw [List.map_map]
    exact List.map_id fragments
  rw [alternation, hsources]

end Pattern

theorem Run.settles_splice (p : Pattern) (branches : List Pattern) (q : Quantifier) :
    (Run.splice p branches q).Settles (p.alternation branches q)
      [.alternationSpliced branches.length] :=
  (settles_record _).bind (settles_pure _)

namespace Step
open Repetition

mutual

def fragment : Step → Text
  | .literal text times => written times (Pattern.literalElement text)
  | .char c times => written times (Pattern.literalElement [c])
  | .digit times => written times fun _ => ['\\', 'd']
  | .word times => written times fun _ => ['\\', 'w']
  | .startOfLine => ['^']
  | .endOfLine => ['$']
  | .characterClass steps times =>
    written times fun _ => Pattern.bracketed (ClassStep.writtenAll steps)
  | .group body times => written times fun _ => Pattern.parenthesized (fragmentAll body)
  | .namedGroup name body times =>
    written times fun _ => Pattern.namedElement name (fragmentAll body)
  | .oneOfChars first second others times =>
    written times fun _ =>
      Pattern.bracketed (Text.escape Text.classSpecials (first :: second :: others))
  | .oneOfLiterals first second others times =>
    written times fun _ => Pattern.alternationElement
      ((first :: second :: others).map (Text.escape Text.literalSpecials))
  | .oneOf first second others times =>
    written times fun _ => Pattern.alternationElement
      (fragmentAll first :: fragmentAll second :: fragmentBranches others)
  | .peek | .inspect => []

def fragmentAll : List Step → Text
  | [] => []
  | step :: steps => step.fragment ++ fragmentAll steps

def fragmentBranches : List (List Step) → List Text
  | [] => []
  | branch :: branches => fragmentAll branch :: fragmentBranches branches

end

mutual

def messages : Step → List Message
  | .literal _ times | .char _ times | .digit times | .word times | .characterClass _ times
  | .oneOfChars _ _ _ times => logged times []
  | .group body times => logged times (messagesAll body ++ [.groupSpliced (fragmentAll body)])
  | .namedGroup name body times =>
    logged times (messagesAll body ++ [.namedGroupSpliced (fragmentAll body) name])
  | .oneOfLiterals _ _ others times => logged times [.alternationSpliced (others.length + 2)]
  | .oneOf first second others times =>
    logged times (messagesAll first ++ (messagesAll second ++ (messagesBranches others ++
      [.alternationSpliced (others.length + 2)])))
  | .startOfLine | .endOfLine | .peek | .inspect => []

def messagesAll : List Step → List Message
  | [] => []
  | step :: steps => step.messages ++ messagesAll steps

def messagesBranches : List (List Step) → List Message
  | [] => []
  | branch :: branches => messagesAll branch ++ messagesBranches branches

end

theorem fragmentAll_eq_flatMap (steps : List Step) :
    fragmentAll steps = steps.flatMap fragment := by
  induction steps with
  | nil => rfl
  | cons step steps ih => rw [fragmentAll, ih, List.flatMap_cons]

theorem fragmentBranches_eq_map (branches : List (List Step)) :
    fragmentBranches branches = branches.map fragmentAll := by
  induction branches with
  | nil => rfl
  | cons branch branches ih => rw [fragmentBranches, ih, List.map_cons]

theorem length_fragmentBranches (branches : List (List Step)) :
    (fragmentBranches branches).length = branches.length := by
  rw [fragmentBranches_eq_map, List.length_map]

mutual

theorem settles_run (step : Step) (p : Pattern) :
    (step.run p).Settles (p.append step.fragment) step.messages := by
  cases step with
  | literal text times => exact Run.settles_quantified fun q => Run.settles_pure _
  | char c times => exact Run.settles_quantified fun q => Run.settles_pure _
  | digit times => exact Run.settles_quantified fun q => Run.settles_pure _
  | word times => exact Run.settles_quantified fun q => Run.settles_pure _
  | startOfLine => exact Run.settles_pure _
  | endOfLine => exact Run.settles_pure _
  | characterClass steps times =>
    apply Run.settles_quantified
    intro q
    refine (ClassStep.settles_runAll steps { quantifier := q }).bind ?_
    rw [Pattern.characterClass_eq]
    exact Run.settles_pure _
  | group body times | namedGroup _ body times =>
    apply Run.settles_quantified
    intro q
    have hbody := settles_runAll body Pattern.empty
    exact hbody.bind ((Run.settles_record _).bind (Run.settles_pure _))
  | oneOfChars first second others times =>
    apply Run.settles_quantified
    intro q
    rw [← Pattern.oneOfChars_eq]
    exact Run.settles_pure _
  | oneOfLiterals first second others times =>
    apply Run.settles_quantified
    intro q
    have hsplice := Run.settles_splice p
      ((first :: second :: others).map (Pattern.empty.literal · Quantifier.once)) q
    rw [Pattern.alternation_literals, List.length_map] at hsplice
    exact hsplice
  | oneOf first second others times =>
    apply Run.settles_quantified
    intro q
    have hsplice := Run.settles_splice p
      ((fragmentAll first :: fragmentAll second :: fragmentBranches others).map
        Pattern.empty.append) q
    rw [Pattern.alternation_fragments, List.length_map, List.length_cons, List.length_cons,
      length_fragmentBranches] at hsplice
    exact (settles_runAll first Pattern.empty).bind ((settles_runAll second Pattern.empty).bind
      ((settles_runBranches others).bind hsplice))
  | peek =>
    rw [fragment, Pattern.append_nil]
    exact (Run.settles_emit _).bind (Run.settles_pure p)
  | inspect =>
    rw [fragment, Pattern.append_nil]
    exact (Run.settles_emit _).bind (Run.settles_pure p)

theorem settles_runAll (steps : List Step) (p : Pattern) :
    (runAll p steps).Settles (p.append (fragmentAll steps)) (messagesAll steps) := by
  cases steps with
  | nil =>
    rw [fragmentAll, Pattern.append_nil]
    exact Run.settles_pure p
  | cons step steps =>
    rw [fragmentAll, ← Pattern.append_append]
    exact (settles_run step p).bind (settles_runAll steps (p.append step.fragment))

theorem settles_runBranches (branches : List (List Step)) :
    (runBranches branches).Settles ((fragmentBranches branches).map Pattern.empty.append)
      (messagesBranches branches) := by
  cases branches with
  | nil => exact Run.settles_pure _
  | cons branch branches =>
    rw [messagesBranches, ← List.append_nil (messagesBranches branches)]
    exact (settles_runAll branch Pattern.empty).bind
      ((settles_runBranches branches).bind (Run.settles_pure _))

end

theorem source_runAll (p : Pattern) (steps : List Step) (saved : SavedClasses) :
    (p.run steps saved).value.source = p.source ++ fragmentAll steps :=
  congrArg Pattern.source (settles_runAll steps p saved).1

theorem log_runAll (p : Pattern) (steps : List Step) (saved : SavedClasses) :
    (p.run steps saved).log = messagesAll steps :=
  (settles_runAll steps p saved).2

theorem fragmentAll_append (first second : List Step) :
    fragmentAll (first ++ second) = fragmentAll first ++ fragmentAll second := by
  simp only [fragmentAll_eq_flatMap, List.flatMap_append]

theorem messagesAll_append (first second : List Step) :
    messagesAll (first ++ second) = messagesAll first ++ messagesAll second := by
  induction first with
  | nil => rfl
  | cons step steps ih => simp only [List.cons_append, messagesAll, ih, List.append_assoc]

end Step
end PatternBuilder

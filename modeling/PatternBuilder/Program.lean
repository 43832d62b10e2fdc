import PatternBuilder.Pattern

/-!
# Programs

A program is a list of steps. A step appends one element to the pattern at hand, or looks at that
pattern and leaves it alone. Groups and alternations hold programs of their own, each of which
starts from an empty pattern; a character class holds steps on the class. An element that may repeat
says how often; without that it occurs once.

A run takes the classes saved so far, each under its key, and ends in a value, the classes saved by
then, the events that were shown and the messages that were logged. The steps run in order, each on
the pattern that the one before it left. A step whose repetition is rejected does nothing else, and
its own steps do not run. The steps inside a group run before the group is logged and spliced, so
its message follows theirs.
-/
namespace PatternBuilder

structure Shelf (κ α : Type) where
  entries : List (κ × α) := []

namespace Shelf

variable {κ α : Type} [DecidableEq κ]

def empty : Shelf κ α := {}

def get? (shelf : Shelf κ α) (key : κ) : Option α := shelf.entries.lookup key

def put (shelf : Shelf κ α) (key : κ) (value : α) : Shelf κ α :=
  { entries := (key, value) :: shelf.entries }

@[simp] theorem get?_put_self (shelf : Shelf κ α) (key : κ) (value : α) :
    (shelf.put key value).get? key = some value := by simp [get?, put]

theorem get?_put_of_ne (shelf : Shelf κ α) {key other : κ} (value : α) (h : other ≠ key) :
    (shelf.put key value).get? other = shelf.get? other := by
  have hne : (other == key) = false := by simpa using h
  simp [get?, put, List.lookup_cons, hne]

end Shelf

inductive ClassStep
  | range (first last : Char)
  | oneOf (first second : Char) (others : List Char)
  | peek
  | inspect
  | save (key : Text)
  | compare (key : Text)

inductive Step
  | literal (text : Text) (times : Option Repetition)
  | char (c : Char) (times : Option Repetition)
  | digit (times : Option Repetition)
  | word (times : Option Repetition)
  | startOfLine
  | endOfLine
  | characterClass (steps : List ClassStep) (times : Option Repetition)
  | group (body : List Step) (times : Option Repetition)
  | namedGroup (name : Text) (body : List Step) (times : Option Repetition)
  | oneOfChars (first second : Char) (others : List Char) (times : Option Repetition)
  | oneOfLiterals (first second : Text) (others : List Text) (times : Option Repetition)
  | oneOf (first second : List Step) (others : List (List Step)) (times : Option Repetition)
  | peek
  | inspect

abbrev SavedClasses := Shelf Text CharacterClass

inductive Event
  | rejected (rejection : Rejection)
  | shown (pattern : Pattern)
  | inspected (pattern : Pattern)
  | classShown (cls : CharacterClass)
  | classInspected (cls : CharacterClass)
  | compared (same : Option Bool)
  deriving DecidableEq

@[ext] structure Outcome (α : Type) where
  value : α
  saved : SavedClasses
  events : List Event := []
  log : List Message := []

def Run (α : Type) : Type := SavedClasses → Outcome α

namespace Run

variable {α β : Type}

def bind (first : Run α) (next : α → Run β) : Run β := fun saved =>
  let a := first saved
  let b := next a.value a.saved
  { b with events := a.events ++ b.events, log := a.log ++ b.log }

instance : Monad Run where
  pure value := fun saved => { value, saved }
  bind := bind

theorem bind_apply (first : Run α) (next : α → Run β) (saved : SavedClasses) :
    (first >>= next) saved =
      { value := (next (first saved).value (first saved).saved).value
        saved := (next (first saved).value (first saved).saved).saved
        events := (first saved).events ++ (next (first saved).value (first saved).saved).events
        log := (first saved).log ++ (next (first saved).value (first saved).saved).log } := rfl

theorem ext {first second : Run α} (h : ∀ saved, first saved = second saved) : first = second :=
  funext h

instance : LawfulMonad Run := LawfulMonad.mk' Run
  (fun _ => ext fun _ => Outcome.ext rfl rfl (List.append_nil _) (List.append_nil _))
  (fun _ _ => rfl)
  (fun _ _ _ => ext fun _ =>
    Outcome.ext rfl rfl (List.append_assoc _ _ _) (List.append_assoc _ _ _))

def emit (event : Event) : Run Unit := fun saved => { value := (), saved, events := [event] }

def record (message : Message) : Run Unit := fun saved =>
  { value := (), saved, log := [message] }

def save (key : Text) (cls : CharacterClass) : Run Unit := fun saved =>
  { value := (), saved := saved.put key cls }

def saved? (key : Text) : Run (Option CharacterClass) := fun saved =>
  { value := saved.get? key, saved }

@[simp] theorem events_pure (a : α) (saved : SavedClasses) : ((pure a : Run α) saved).events = [] :=
  rfl

@[simp] theorem saved_bind (first : Run α) (next : α → Run β) (saved : SavedClasses) :
    ((first >>= next) saved).saved = (next (first saved).value (first saved).saved).saved := rfl

@[simp] theorem events_bind (first : Run α) (next : α → Run β) (saved : SavedClasses) :
    ((first >>= next) saved).events =
      (first saved).events ++ (next (first saved).value (first saved).saved).events := rfl

@[simp] theorem events_record (message : Message) (saved : SavedClasses) :
    (record message saved).events = [] := rfl

def quantifier? (times : Repetition) : Run (Option Quantifier) := fun saved =>
  let checked := times.quantifier
  match checked.result with
  | .ok q => { value := some q, saved, log := checked.log }
  | .error rejection =>
    { value := none, saved, events := [.rejected rejection], log := checked.log }

theorem quantifier?_of_ok {times : Repetition} {q : Quantifier}
    (h : times.quantifier.result = .ok q) (saved : SavedClasses) :
    quantifier? times saved = { value := some q, saved, log := times.quantifier.log } := by
  simp [quantifier?, h]

theorem quantifier?_of_error {times : Repetition} {rejection : Rejection}
    (h : times.quantifier.result = .error rejection) (saved : SavedClasses) :
    quantifier? times saved =
      { value := none, saved, events := [.rejected rejection], log := times.quantifier.log } := by
  simp [quantifier?, h]

/-- Continues with the quantifier asked for; without one, the pattern stays as it was. -/
def quantified (times : Option Repetition) (p : Pattern) (next : Quantifier → Run Pattern) :
    Run Pattern :=
  match times with
  | none => next Quantifier.once
  | some times => do
    match ← quantifier? times with
    | some q => next q
    | none => return p

end Run

def ClassStep.run (cls : CharacterClass) : ClassStep → Run CharacterClass
  | .range first last => return cls.range first last
  | .oneOf first second others => return cls.oneOf first second others
  | .peek => do
    Run.emit (.classShown cls)
    return cls
  | .inspect => do
    Run.emit (.classInspected cls)
    return cls
  | .save key => do
    Run.save key cls
    return cls
  | .compare key => do
    let other ← Run.saved? key
    Run.emit (.compared (other.map (· == cls)))
    return cls

def ClassStep.runAll (cls : CharacterClass) : List ClassStep → Run CharacterClass
  | [] => return cls
  | step :: steps => do
    let cls ← step.run cls
    runAll cls steps

def Run.splice (p : Pattern) (branches : List Pattern) (q : Quantifier) : Run Pattern := do
  Run.record (.alternationSpliced branches.length)
  return p.alternation branches q

mutual

def Step.run (p : Pattern) : Step → Run Pattern
  | .literal text times => Run.quantified times p fun q => return p.literal text q
  | .char c times => Run.quantified times p fun q => return p.literal [c] q
  | .digit times => Run.quantified times p fun q => return p.digit q
  | .word times => Run.quantified times p fun q => return p.word q
  | .startOfLine => return p.startOfLine
  | .endOfLine => return p.endOfLine
  | .characterClass steps times => Run.quantified times p fun q => do
    let cls ← ClassStep.runAll { quantifier := q } steps
    return p.characterClass cls
  | .group body times => Run.quantified times p fun q => do
    let nested ← runAll Pattern.empty body
    Run.record (.groupSpliced nested.source)
    return p.group nested q
  | .namedGroup name body times => Run.quantified times p fun q => do
    let nested ← runAll Pattern.empty body
    Run.record (.namedGroupSpliced nested.source name)
    return p.namedGroup name nested q
  | .oneOfChars first second others times => Run.quantified times p fun q =>
    return p.oneOfChars first second others q
  | .oneOfLiterals first second others times => Run.quantified times p fun q =>
    Run.splice p ((first :: second :: others).map (Pattern.empty.literal · Quantifier.once)) q
  | .oneOf first second others times => Run.quantified times p fun q => do
    let a ← runAll Pattern.empty first
    let b ← runAll Pattern.empty second
    let cs ← runBranches others
    Run.splice p (a :: b :: cs) q
  | .peek => do
    Run.emit (.shown p)
    return p
  | .inspect => do
    Run.emit (.inspected p)
    return p

def Step.runAll (p : Pattern) : List Step → Run Pattern
  | [] => return p
  | step :: steps => do
    let p ← step.run p
    runAll p steps

def Step.runBranches : List (List Step) → Run (List Pattern)
  | [] => return []
  | branch :: branches => do
    let p ← runAll Pattern.empty branch
    let ps ← runBranches branches
    return p :: ps

end

abbrev Pattern.run (p : Pattern) (steps : List Step) : Run Pattern := Step.runAll p steps

end PatternBuilder

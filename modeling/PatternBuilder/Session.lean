import PatternBuilder.Preset

/-!
# Sessions

A session holds patterns in numbered slots, each empty until it is built on, and the classes saved
by any of its programs. A move acts on one slot and is answered by the source in that slot
afterwards, with the events it showed and the messages it logged. A move leaves all other slots
alone, and building a program move by move comes to the same as running it. The main statements are
`Session.slot_afterAll_of_forall_ne` and `Session.afterAll_building`.
-/
namespace PatternBuilder

inductive Action
  | build (step : Step)
  | reset
  | copy (slot : Int)
  | compare (slot : Int)
  | load (name : Text)
  | take

structure Move where
  slot : Int
  action : Action

inductive MoveEvent
  | program (event : Event)
  | compared (same : Bool)
  | unknownPreset
  | taken (source : Text)
  deriving DecidableEq

structure Answer where
  source : Text
  events : List MoveEvent
  log : List Message

structure Session where
  slots : Shelf Int Pattern := Shelf.empty
  saved : SavedClasses := Shelf.empty

namespace Session

def slot (s : Session) (n : Int) : Pattern := (s.slots.get? n).getD Pattern.empty

def setSlot (s : Session) (n : Int) (p : Pattern) : Session := { s with slots := s.slots.put n p }

@[simp] theorem slot_setSlot_self (s : Session) (n : Int) (p : Pattern) :
    (s.setSlot n p).slot n = p := by simp [slot, setSlot]

theorem slot_setSlot_of_ne (s : Session) {m n : Int} (p : Pattern) (h : m ≠ n) :
    (s.setSlot n p).slot m = s.slot m := by simp [slot, setSlot, Shelf.get?_put_of_ne _ _ h]

def act (s : Session) (n : Int) : Action → Session × List MoveEvent × List Message
  | .build step =>
    let outcome := step.run (s.slot n) s.saved
    ({ s with saved := outcome.saved }.setSlot n outcome.value,
      outcome.events.map .program, outcome.log)
  | .reset => (s.setSlot n Pattern.empty, [], [])
  | .copy other => (s.setSlot n (s.slot other), [], [])
  | .compare other => (s, [.compared (s.slot n == s.slot other)], [])
  | .load name =>
    match Preset.ofName? name with
    | some preset => (s.setSlot n preset.pattern, [], [])
    | none => (s, [.unknownPreset], [])
  | .take => (s.setSlot n Pattern.empty, [.taken (s.slot n).source], [])

def perform (s : Session) (move : Move) : Session × Answer :=
  let (after, events, log) := s.act move.slot move.action
  (after, { source := (after.slot move.slot).source, events, log })

def performAll (s : Session) : List Move → List Answer
  | [] => []
  | move :: moves =>
    let (after, answer) := s.perform move
    answer :: after.performAll moves

def afterAll (s : Session) (moves : List Move) : Session :=
  moves.foldl (fun s move => (s.perform move).1) s

theorem slot_act_of_ne (s : Session) {m n : Int} (h : m ≠ n) (action : Action) :
    (s.act n action).1.slot m = s.slot m := by
  cases action with
  | build step => exact slot_setSlot_of_ne { s with saved := _ } _ h
  | reset | copy _ | take => exact slot_setSlot_of_ne s _ h
  | compare _ => rfl
  | load name =>
    rw [act]
    split
    · exact slot_setSlot_of_ne s _ h
    · rfl

theorem slot_afterAll_of_forall_ne (s : Session) {m : Int} {moves : List Move}
    (h : ∀ move ∈ moves, m ≠ move.slot) : (s.afterAll moves).slot m = s.slot m := by
  induction moves generalizing s with
  | nil => rfl
  | cons move moves ih =>
    obtain ⟨hmove, hmoves⟩ := List.forall_mem_cons.mp h
    exact (ih (s.perform move).1 hmoves).trans (slot_act_of_ne s hmove move.action)

def building (n : Int) (steps : List Step) : List Move :=
  steps.map fun step => { slot := n, action := .build step }

theorem act_build (s : Session) (n : Int) (step : Step) :
    (s.act n (.build step)).1.slot n = (step.run (s.slot n) s.saved).value ∧
      (s.act n (.build step)).1.saved = (step.run (s.slot n) s.saved).saved :=
  ⟨slot_setSlot_self _ n _, rfl⟩

/-- Built move by move, a program leaves what its run leaves, and shows and logs the same. -/
theorem afterAll_building (s : Session) (n : Int) (steps : List Step) :
    (s.afterAll (building n steps)).slot n = ((s.slot n).run steps s.saved).value ∧
    (s.afterAll (building n steps)).saved = ((s.slot n).run steps s.saved).saved ∧
    (s.performAll (building n steps)).flatMap Answer.events =
      ((s.slot n).run steps s.saved).events.map .program ∧
    (s.performAll (building n steps)).flatMap Answer.log = ((s.slot n).run steps s.saved).log := by
  induction steps generalizing s with
  | nil => exact ⟨rfl, rfl, rfl, rfl⟩
  | cons step steps ih =>
    obtain ⟨hslot, hsaved⟩ := act_build s n step
    obtain ⟨hvalue, hclasses, hevents, hlog⟩ := ih (s.act n (.build step)).1
    rw [hslot, hsaved] at hvalue hclasses hevents hlog
    rw [Pattern.run, Step.runAll, Run.bind_apply]
    refine ⟨hvalue, hclasses, ?_, ?_⟩
    · rw [List.map_append, ← hevents]
      rfl
    · rw [← hlog]
      rfl

end Session
end PatternBuilder

import PatternBuilder.Proofs.Trace

/-!
# Steps in post-order

The steps that a run reaches, in the order in which it is done with them, are the steps of the
program in post-order: what is inside a step comes before the step, and both come before the next
step. A step that is rejected is reached, but nothing inside it is. The main statements are
`Step.ordered_visitsAll` and `Step.mem_visitsAll`: the list of visits is in order, and it holds a
step at a place when the run reaches that step there.
-/
namespace PatternBuilder

/-- Post-order on places. -/
inductive Place.Before : Place → Place → Prop
  | inside (position : Nat) (place : Place) : Before (position :: place) []
  | earlier {i j : Nat} (h : i < j) (a b : Place) : Before (i :: a) (j :: b)
  | under (position : Nat) {a b : Place} : Before a b → Before (position :: a) (position :: b)

theorem Place.Before.ne {a b : Place} (h : Before a b) : a ≠ b := by
  induction h with
  | inside position place => exact List.cons_ne_nil _ _
  | earlier h a b =>
    rintro ⟨⟩
    exact Nat.lt_irrefl _ h
  | under position _ ih =>
    intro heq
    exact ih (List.cons.inj heq).2

/-- The place leads into one of the items, which are counted from a position. -/
def Place.LeadsInto {α : Type} (position : Nat) (items : List α) (Inside : α → Place → Prop)
    (place : Place) : Prop :=
  ∃ i a rest, place = (i + position) :: rest ∧ items[i]? = some a ∧ Inside a rest

abbrev Visits := List (Place × Step)

namespace Visits

def under (position : Nat) (visits : Visits) : Visits :=
  visits.map fun v => (position :: v.1, v.2)

def Ordered (visits : Visits) : Prop := visits.Pairwise fun a b => Place.Before a.1 b.1

theorem mem_under {position : Nat} {visits : Visits} {place : Place} {step : Step} :
    (place, step) ∈ visits.under position ↔
      ∃ rest, place = position :: rest ∧ (rest, step) ∈ visits := by
  simp only [under, List.mem_map, Prod.mk.injEq, Prod.exists]
  constructor
  · rintro ⟨rest, _, hmem, rfl, rfl⟩
    exact ⟨rest, rfl, hmem⟩
  · rintro ⟨rest, rfl, hmem⟩
    exact ⟨rest, step, hmem, rfl, rfl⟩

theorem Ordered.under {visits : Visits} (h : visits.Ordered) (position : Nat) :
    (visits.under position).Ordered :=
  List.pairwise_map.mpr (h.imp (Place.Before.under position))

def From (position : Nat) (visits : Visits) : Prop :=
  ∀ v ∈ visits, ∃ i rest, v.1 = i :: rest ∧ position ≤ i

theorem from_nil (position : Nat) : From position [] := fun _ h => absurd h List.not_mem_nil

theorem from_under_append (position : Nat) (visits : Visits) {rest : Visits}
    (h : From (position + 1) rest) : From position (visits.under position ++ rest) := by
  intro v hv
  rcases List.mem_append.mp hv with hv | hv
  · obtain ⟨place, hplace, _⟩ := mem_under.mp hv
    exact ⟨position, place, hplace, Nat.le_refl _⟩
  · obtain ⟨i, place, hplace, hle⟩ := h v hv
    exact ⟨i, place, hplace, Nat.le_of_succ_le hle⟩

theorem Ordered.append_from {visits rest : Visits} {position : Nat} (h : visits.Ordered)
    (hrest : rest.Ordered) (hfrom : From (position + 1) rest) :
    (visits.under position ++ rest).Ordered := by
  refine List.pairwise_append.mpr ⟨h.under position, hrest, ?_⟩
  intro a ha b hb
  obtain ⟨place, hplace, _⟩ := mem_under.mp ha
  obtain ⟨i, other, hother, hle⟩ := hfrom b hb
  rw [hplace, hother]
  exact .earlier hle place other

theorem Ordered.append_self {visits : Visits} {position : Nat} (h : visits.Ordered)
    (hfrom : From position visits) (step : Step) : Ordered (visits ++ [([], step)]) := by
  refine List.pairwise_append.mpr ⟨h, List.pairwise_singleton _ _, ?_⟩
  intro a ha b hb
  obtain ⟨i, place, hplace, _⟩ := hfrom a ha
  obtain rfl := List.mem_singleton.mp hb
  rw [hplace]
  exact .inside i place

theorem mem_nil_iff {α : Type} {position : Nat} {place : Place} {last : Step}
    {Inside : α → Place → Prop} :
    (place, last) ∈ ([] : Visits) ↔ Place.LeadsInto position [] Inside place := by
  simp [Place.LeadsInto]

theorem mem_under_append {α : Type} {position : Nat} {visits rest : Visits} {first : α}
    {others : List α} {place : Place} {last : Step} {Inside : α → Place → Prop}
    (hvisits : ∀ place, (place, last) ∈ visits ↔ Inside first place)
    (hrest : (place, last) ∈ rest ↔ Place.LeadsInto (position + 1) others Inside place) :
    (place, last) ∈ visits.under position ++ rest ↔
      Place.LeadsInto position (first :: others) Inside place := by
  rw [List.mem_append, mem_under, hrest]
  constructor
  · rintro (⟨inside, rfl, hmem⟩ | ⟨i, a, inside, rfl, ha, hinside⟩)
    · exact ⟨0, first, inside, by rw [Nat.zero_add], rfl, (hvisits inside).mp hmem⟩
    · exact ⟨i + 1, a, inside, by rw [Nat.add_right_comm]; rfl, ha, hinside⟩
  · rintro ⟨i, a, inside, rfl, ha, hinside⟩
    cases i with
    | zero =>
      obtain rfl := Option.some.inj ha
      exact .inl ⟨inside, by rw [Nat.zero_add], (hvisits inside).mpr hinside⟩
    | succ i => exact .inr ⟨i, a, inside, by rw [Nat.add_right_comm]; rfl, ha, hinside⟩

end Visits

namespace Step
open Repetition

theorem granted_of_forall {α : Type} {times : Option Repetition} {written : Quantifier → List α}
    {P : List α → Prop} (hnil : P []) (h : ∀ q, P (written q)) : P (granted times written) := by
  unfold granted
  split
  · exact h _
  · exact hnil

theorem mem_granted {α : Type} {times : Option Repetition} {written : Quantifier → List α} {a : α} :
    a ∈ granted times written ↔ ∃ q, verdict times = .ok q ∧ a ∈ written q := by
  cases h : verdict times with
  | ok q => simp [granted_of_ok h]
  | error r => simp [granted_of_error h]

theorem granted_nil {α : Type} (times : Option Repetition) :
    granted times (fun _ => ([] : List α)) = [] := by
  unfold granted
  split <;> rfl

mutual

def visitsInside : Step → Visits
  | .group body times | .namedGroup _ body times => granted times fun _ => visitsAll 0 body
  | .oneOf first second others times => granted times fun _ =>
    (visitsAll 0 first).under 0 ++ ((visitsAll 0 second).under 1 ++ visitsBranches 2 others)
  | _ => []

def visitsAll (position : Nat) : List Step → Visits
  | [] => []
  | step :: steps =>
    Visits.under position (step.visitsInside ++ [([], step)]) ++ visitsAll (position + 1) steps

def visitsBranches (position : Nat) : List (List Step) → Visits
  | [] => []
  | branch :: branches =>
    (visitsAll 0 branch).under position ++ visitsBranches (position + 1) branches

end

def body? : Step → Option (List Step)
  | .group body _ | .namedGroup _ body _ => some body
  | _ => none

/-- A run that comes to a step goes on to the step at this place from there. -/
inductive Reaches : Step → Place → Step → Prop
  | self (step : Step) : Reaches step [] step
  | group {step inner last : Step} {body : List Step} {q : Quantifier} {i : Nat} {place : Place} :
      step.body? = some body → verdict step.times = .ok q → body[i]? = some inner →
      Reaches inner place last → Reaches step (i :: place) last
  | oneOf {first second branch : List Step} {others : List (List Step)}
      {times : Option Repetition} {q : Quantifier} {i j : Nat} {inner last : Step}
      {place : Place} : verdict times = .ok q → (first :: second :: others)[j]? = some branch →
      branch[i]? = some inner → Reaches inner place last →
      Reaches (.oneOf first second others times) (j :: i :: place) last

def ReachedAt (steps : List Step) (place : Place) (last : Step) : Prop :=
  ∃ i step rest, place = i :: rest ∧ steps[i]? = some step ∧ step.Reaches rest last

theorem from_visitsAll (position : Nat) (steps : List Step) :
    Visits.From position (visitsAll position steps) := by
  induction steps generalizing position with
  | nil => exact Visits.from_nil position
  | cons step steps ih => exact Visits.from_under_append position _ (ih (position + 1))

theorem from_visitsBranches (position : Nat) (branches : List (List Step)) :
    Visits.From position (visitsBranches position branches) := by
  induction branches generalizing position with
  | nil => exact Visits.from_nil position
  | cons branch branches ih => exact Visits.from_under_append position _ (ih (position + 1))

theorem visitsInside_oneOf (first second : List Step) (others : List (List Step))
    (times : Option Repetition) :
    visitsInside (.oneOf first second others times) =
      granted times fun _ => visitsBranches 0 (first :: second :: others) := rfl

theorem from_visitsInside (step : Step) : Visits.From 0 step.visitsInside := by
  cases step with
  | group body times | namedGroup _ body times =>
    exact granted_of_forall (Visits.from_nil 0) fun _ => from_visitsAll 0 body
  | oneOf first second others times =>
    rw [visitsInside_oneOf]
    exact granted_of_forall (Visits.from_nil 0) fun _ => from_visitsBranches 0 _
  | literal _ _ | char _ _ | digit _ | word _ | startOfLine | endOfLine | characterClass _ _
  | oneOfChars _ _ _ _ | oneOfLiterals _ _ _ _ | peek | inspect => exact Visits.from_nil 0

mutual

theorem ordered_visitsInside (step : Step) : step.visitsInside.Ordered := by
  cases step with
  | group body times | namedGroup _ body times =>
    exact granted_of_forall List.Pairwise.nil fun _ => ordered_visitsAll 0 body
  | oneOf first second others times =>
    refine granted_of_forall List.Pairwise.nil fun _ => ?_
    -- A step names its first two branches, so the positions of the others begin at two.
    have hothers := from_visitsBranches 2 others
    have hrest := (ordered_visitsAll 0 second).append_from (ordered_visitsBranches 2 others) hothers
    exact (ordered_visitsAll 0 first).append_from hrest (Visits.from_under_append 1 _ hothers)
  | literal _ _ | char _ _ | digit _ | word _ | startOfLine | endOfLine | characterClass _ _
  | oneOfChars _ _ _ _ | oneOfLiterals _ _ _ _ | peek | inspect => exact List.Pairwise.nil

theorem ordered_visitsAll (position : Nat) (steps : List Step) :
    (visitsAll position steps).Ordered := by
  cases steps with
  | nil => exact List.Pairwise.nil
  | cons step steps =>
    have hstep := (ordered_visitsInside step).append_self (from_visitsInside step) step
    exact hstep.append_from (ordered_visitsAll (position + 1) steps)
      (from_visitsAll (position + 1) steps)

theorem ordered_visitsBranches (position : Nat) (branches : List (List Step)) :
    (visitsBranches position branches).Ordered := by
  cases branches with
  | nil => exact List.Pairwise.nil
  | cons branch branches =>
    exact (ordered_visitsAll 0 branch).append_from (ordered_visitsBranches (position + 1) branches)
      (from_visitsBranches (position + 1) branches)

end

theorem reaches_iff_of_body? {step last : Step} {body : List Step} (h : step.body? = some body)
    {place : Place} :
    step.Reaches place last ↔
      (∃ q, verdict step.times = .ok q ∧ ReachedAt body place last) ∨ place = [] ∧ last = step := by
  constructor
  · intro hreaches
    cases hreaches with
    | self => exact .inr ⟨rfl, rfl⟩
    | group hbody hq hinner hrest =>
      obtain rfl := Option.some.inj (h.symm.trans hbody)
      exact .inl ⟨_, hq, _, _, _, rfl, hinner, hrest⟩
    | oneOf => exact nomatch h
  · rintro (⟨q, hq, i, inner, rest, rfl, hinner, hrest⟩ | ⟨rfl, rfl⟩)
    · exact .group h hq hinner hrest
    · exact .self _

theorem reaches_oneOf_iff {first second : List Step} {others : List (List Step)}
    {times : Option Repetition} {place : Place} {last : Step} :
    Reaches (.oneOf first second others times) place last ↔
      (∃ q, verdict times = .ok q ∧
        Place.LeadsInto 0 (first :: second :: others)
          (fun branch inside => ReachedAt branch inside last) place) ∨
        place = [] ∧ last = .oneOf first second others times := by
  constructor
  · intro h
    cases h with
    | self => exact .inr ⟨rfl, rfl⟩
    | group hbody => exact nomatch hbody
    | oneOf hq hbranch hinner hreaches =>
      exact .inl ⟨_, hq, _, _, _, rfl, hbranch, _, _, _, rfl, hinner, hreaches⟩
  · rintro (⟨q, hq, j, branch, _, rfl, hbranch, i, inner, rest, rfl, hinner, hreaches⟩ | ⟨rfl, rfl⟩)
    · exact .oneOf hq hbranch hinner hreaches
    · exact .self _

mutual

theorem mem_visits (step last : Step) (place : Place) :
    (place, last) ∈ step.visitsInside ++ [([], step)] ↔ step.Reaches place last := by
  rw [List.mem_append, List.mem_singleton, Prod.mk.injEq]
  cases step with
  | group body times | namedGroup _ body times =>
    rw [reaches_iff_of_body? rfl]
    simp only [visitsInside, mem_granted, mem_visitsAll 0 body last place]
    rfl
  | oneOf first second others times =>
    have hfirst : ∀ place, (place, last) ∈ visitsAll 0 first ↔ ReachedAt first place last :=
      mem_visitsAll 0 first last
    have hsecond : ∀ place, (place, last) ∈ visitsAll 0 second ↔ ReachedAt second place last :=
      mem_visitsAll 0 second last
    rw [reaches_oneOf_iff, visitsInside, mem_granted]
    simp only [Visits.mem_under_append hfirst
      (Visits.mem_under_append hsecond (mem_visitsBranches 2 others last place))]
  | literal _ _ | char _ _ | digit _ | word _ | startOfLine | endOfLine | characterClass _ _
  | oneOfChars _ _ _ _ | oneOfLiterals _ _ _ _ | peek | inspect =>
    constructor
    · rintro (hmem | ⟨rfl, rfl⟩)
      · exact absurd hmem List.not_mem_nil
      · exact .self _
    · intro hreaches
      cases hreaches with
      | self => exact .inr ⟨rfl, rfl⟩
      | group hbody => exact nomatch hbody

theorem mem_visitsAll (position : Nat) (steps : List Step) (last : Step) (place : Place) :
    (place, last) ∈ visitsAll position steps ↔
      Place.LeadsInto position steps (fun step rest => step.Reaches rest last) place := by
  cases steps with
  | nil => exact Visits.mem_nil_iff
  | cons step steps =>
    exact Visits.mem_under_append (mem_visits step last)
      (mem_visitsAll (position + 1) steps last place)

theorem mem_visitsBranches (position : Nat) (branches : List (List Step)) (last : Step)
    (place : Place) :
    (place, last) ∈ visitsBranches position branches ↔
      Place.LeadsInto position branches (fun branch inside => ReachedAt branch inside last)
        place := by
  cases branches with
  | nil => exact Visits.mem_nil_iff
  | cons branch branches =>
    exact Visits.mem_under_append (mem_visitsAll 0 branch last)
      (mem_visitsBranches (position + 1) branches last place)

end

end Step
end PatternBuilder

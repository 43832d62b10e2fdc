import PatternBuilder.Proofs.Atoms
import PatternBuilder.Proofs.Deletion
import PatternBuilder.Proofs.NormalForm

/-!
# What a quantifier binds

A quantifier repeats the atom in front of it, so a step that is granted one must put its element
down as a single atom, as it is or in parentheses. All readable steps do. A literal without
characters does not: it appends the quantifier alone, and that repeats what was appended earlier.
The main statement is `Step.appendsAtom_iff`.
-/
namespace PatternBuilder
open Regex

theorem Repetition.written_none (element : Quantifier → Text) :
    written none element = element Quantifier.once := by
  have hverdict : verdict none = .ok Quantifier.once := rfl
  rw [written_of_ok hverdict, Quantifier.render_once, List.append_nil]

namespace Step
open Repetition

def withTimes (times : Option Repetition) : Step → Step
  | .literal text _ => .literal text times
  | .char c _ => .char c times
  | .digit _ => .digit times
  | .word _ => .word times
  | .characterClass steps _ => .characterClass steps times
  | .group body _ => .group body times
  | .namedGroup name body _ => .namedGroup name body times
  | .oneOfChars first second others _ => .oneOfChars first second others times
  | .oneOfLiterals first second others _ => .oneOfLiterals first second others times
  | .oneOf first second others _ => .oneOf first second others times
  | .startOfLine => .startOfLine
  | .endOfLine => .endOfLine
  | .peek => .peek
  | .inspect => .inspect

/-- The whole element of a step, as it stands or in parentheses. -/
def Holds (step : Step) (text : Text) : Prop :=
  text = (step.withTimes none).fragment ∨
    text = Pattern.parenthesized (step.withTimes none).fragment

theorem exists_holds {step : Step} {q : Quantifier} (hq : verdict step.times = .ok q) :
    ∃ text, step.Holds text ∧ step.fragment = text ++ q.render := by
  cases step with
  | literal text times =>
    refine ⟨Pattern.literalElement text q, ?_, written_of_ok hq _⟩
    rw [Holds, withTimes, fragment, written_none]
    -- Only a repeated literal of several characters goes into parentheses.
    by_cases hwrap : q ≠ Quantifier.once ∧ 2 ≤ text.length
    · right
      simp [Pattern.literalElement, hwrap]
    · left
      simp [Pattern.literalElement, hwrap]
  | char c times =>
    refine ⟨Pattern.literalElement [c] q, ?_, written_of_ok hq _⟩
    rw [Holds, withTimes, fragment, written_none]
    simp [Pattern.literalElement]
  | digit times | word times | characterClass _ times | group _ times | namedGroup _ _ times
  | oneOfChars _ _ _ times | oneOfLiterals _ _ _ times | oneOf _ _ _ times =>
    refine ⟨_, .inl ?_, written_of_ok hq _⟩
    rw [withTimes, fragment, written_none]
  | startOfLine | endOfLine | peek | inspect =>
    obtain rfl : Quantifier.once = q := by simpa [times, verdict] using hq
    exact ⟨_, .inl rfl, (List.append_nil _).symm⟩

theorem exists_repeated {step : Step} {q : Quantifier} (hq : verdict step.times = .ok q)
    (hne : q ≠ Quantifier.once) : ∃ node, step.nodes = [.repeated node q] := by
  have htimes : ∀ node : Node, node.times q = .repeated node q := fun node => if_neg hne
  cases step with
  | literal text times =>
    have hnodes : (Step.literal text times).nodes = Node.ofLiteral text q := granted_of_ok hq _
    rw [hnodes]
    unfold Node.ofLiteral
    rw [if_neg hne]
    split
    · exact ⟨_, rfl⟩
    · exact ⟨_, rfl⟩
  | char c times =>
    exact ⟨.char c, (granted_of_ok hq _).trans (if_neg hne)⟩
  | digit times | word times | characterClass _ times | group _ times | namedGroup _ _ times
  | oneOfChars _ _ _ times | oneOfLiterals _ _ _ times | oneOf _ _ _ times =>
    have hverdict : verdict times = .ok q := hq
    rw [nodes, granted_of_ok hverdict, htimes]
    exact ⟨_, rfl⟩
  | startOfLine | endOfLine | peek | inspect =>
    have honce : Quantifier.once = q := by simpa [times, verdict] using hq
    exact absurd honce.symm hne

/-- Behind any pattern the step appends this atom, which holds its whole element, and the
quantifier, and what it appends is read so. -/
structure AppendsAtom (step : Step) (q : Quantifier) (atom : Node) : Prop where
  isAtom : atom.isAtom = true
  legible : atom.Legible
  holds : step.Holds atom.render
  source_eq : ∀ (p : Pattern) (saved : SavedClasses),
    (step.run p saved).value.source = p.source ++ (atom.render ++ q.render)
  splitAtom?_eq : splitAtom? (atom.render ++ q.render) = some (atom.render, q.render)

theorem source_run (step : Step) (p : Pattern) (saved : SavedClasses) :
    (step.run p saved).value.source = p.source ++ step.fragment :=
  congrArg Pattern.source (settles_run step p saved).1

theorem exists_appendsAtom {step : Step} {q : Quantifier} (hq : verdict step.times = .ok q)
    (hne : q ≠ Quantifier.once) (h : step.meets .readable = true) :
    ∃ atom, step.AppendsAtom q atom := by
  obtain ⟨text, hholds, hfragment⟩ := exists_holds hq
  obtain ⟨atom, hnodes⟩ := exists_repeated hq hne
  have hspells := spells_fragment step h
  rw [hnodes] at hspells
  obtain ⟨⟨hatom, hlegible⟩, _⟩ := hspells.legible.1
  have hrender : step.fragment = atom.render ++ q.render := by
    rw [← hspells.render_eq, Node.renderAll, Node.renderAll, Node.render, List.append_nil]
  -- The tree knows the atom and the fragment the element; the quantifier makes them one.
  have htext : text = atom.render := by
    rw [hrender] at hfragment
    exact (List.append_cancel_right hfragment).symm
  subst htext
  refine ⟨atom, hatom, hlegible, hholds, ?_, Node.splitAtom?_render hlegible hatom _⟩
  intro p saved
  rw [source_run, hrender]

theorem not_appendsAtom_literal_nil {times : Option Repetition} {q : Quantifier}
    (hq : verdict times = .ok q) (atom : Node) : ¬(Step.literal [] times).AppendsAtom q atom := by
  intro h
  have hfragment : (Step.literal [] times).fragment = q.render := by
    rw [fragment, written_of_ok hq]
    simp [Pattern.literalElement]
  have hsource := h.source_eq Pattern.empty Shelf.empty
  rw [source_run, hfragment, List.append_cancel_left_eq] at hsource
  exact splitAtom?_ne_nil h.splitAtom?_eq (List.append_left_eq_self.mp hsource.symm)

/-- Every quantifier but that of a literal without characters binds to the element of its step. A
readable step has no repeated literal without characters inside either: the bare quantifier would
bind to what stands before it in the group, or turn the parenthesis that opens it into the start of
a name, and then the element is no longer one atom. -/
theorem appendsAtom_iff {step : Step} {q : Quantifier} (hq : verdict step.times = .ok q)
    (hne : q ≠ Quantifier.once)
    (h : step.meets .readable = true ∨ step = .literal [] step.times) :
    (∃ atom, step.AppendsAtom q atom) ↔ step ≠ .literal [] step.times := by
  constructor
  · rintro ⟨atom, hatom⟩ hempty
    rw [hempty] at hatom
    exact not_appendsAtom_literal_nil hq atom hatom
  · intro hsome
    exact exists_appendsAtom hq hne (h.resolve_right hsome)

def bindingSample : Step :=
  .namedGroup "a(b".toList
    [.oneOf [.literal "x)".toList (some .optional)]
      [.characterClass [.range '(' ')', .oneOf ']' '\\' []] (some .zeroOrMoreLazy)]
      [[.endOfLine, .group [] (some (.exactly 1))]] none]
    (some (.range 2 3))

theorem appendsAtom_bindingSample :
    (verdict bindingSample.times = .ok (Quantifier.between 2 3) ∧
        Quantifier.between 2 3 ≠ Quantifier.once ∧ bindingSample.meets .readable = true) ∧
      ∃ atom, bindingSample.AppendsAtom (Quantifier.between 2 3) atom := by
  have hq : verdict bindingSample.times = .ok (Quantifier.between 2 3) := by decide
  have hne : Quantifier.between 2 3 ≠ Quantifier.once := by decide
  have h : bindingSample.meets .readable = true := by decide
  exact ⟨⟨hq, hne, h⟩, (appendsAtom_iff hq hne (.inl h)).mpr nofun⟩

/-- The question mark of the literal repeats the digit before it. -/
theorem literal_nil_optional_behind_digit :
    (Pattern.empty.run [.digit none, .literal [] (some .optional)] Shelf.empty).value.source =
        "\\d?".toList ∧
      verdict (some .optional) = .ok Quantifier.optional ∧
      Quantifier.optional ≠ Quantifier.once ∧
      ¬∃ atom, (Step.literal [] (some .optional)).AppendsAtom Quantifier.optional atom := by
  refine ⟨by decide, rfl, by decide, ?_⟩
  rintro ⟨atom, hatom⟩
  exact not_appendsAtom_literal_nil rfl atom hatom

end Step
end PatternBuilder

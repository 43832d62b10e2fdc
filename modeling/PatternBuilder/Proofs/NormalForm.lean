import PatternBuilder.Proofs.Granting
import PatternBuilder.Proofs.RegexReading

/-!
# Normal forms

The normal form of a program is the tree that its source spells. It keeps groups, branches, classes
and quantifiers. A literal comes apart into its characters, or becomes a group of them when it is
repeated, and what is rejected or only looks at the pattern is gone. Programs are readable when
their literals pass no characters on, so that nothing that one element writes can be taken for part
of another. The main statement is `Step.spells_fragmentAll`.
-/
namespace PatternBuilder
namespace Regex
open Text

/-- The text is that of these nodes, which are legible. -/
structure Spells (text : Text) (nodes : List Node) : Prop where
  legible : Node.LegibleAll nodes
  render_eq : Node.renderAll nodes = text

structure SpellsAtom (text : Text) (node : Node) : Prop where
  legible : node.Legible
  isAtom : node.isAtom = true
  render_eq : node.render = text

structure SpellsBranches (texts : List Text) (branches : List (List Node)) : Prop where
  legible : Node.LegibleBranches branches
  render_eq : Node.renderBranches branches = texts

theorem spells_nil : Spells [] [] := ⟨trivial, rfl⟩

theorem Spells.append {a b : Text} {first second : List Node} (ha : Spells a first)
    (hb : Spells b second) : Spells (a ++ b) (first ++ second) where
  legible := ha.legible.append hb.legible
  render_eq := by rw [Node.renderAll_append, ha.render_eq, hb.render_eq]

theorem spells_chars {text : Text} (h : ∀ c ∈ text, c ∉ passThrough) :
    Spells (escape literalSpecials text) (text.map .char) :=
  ⟨Node.legibleAll_chars h, Node.renderAll_chars text⟩

theorem SpellsAtom.times {text : Text} {node : Node} (h : SpellsAtom text node) {q : Quantifier}
    (hq : q.Normal) : Spells (text ++ q.render) [node.times q] where
  legible := ⟨h.legible.times h.isAtom hq, trivial⟩
  render_eq := by
    rw [Node.renderAll, Node.renderAll, Node.render_times, h.render_eq, List.append_nil]

theorem spellsAtom_char {c : Char} (h : c ∉ passThrough) :
    SpellsAtom (escape literalSpecials [c]) (.char c) where
  legible := h
  isAtom := rfl
  render_eq := by rw [escape_cons, escape_nil, List.append_nil, Node.render]

theorem spellsAtom_cls {body : Text} (h : Closed body) :
    SpellsAtom (Pattern.bracketed body) (.cls body) :=
  ⟨h, rfl, rfl⟩

theorem spellsBranches_nil : SpellsBranches [] [] := ⟨trivial, rfl⟩

theorem SpellsBranches.cons {text : Text} {texts : List Text} {nodes : List Node}
    {branches : List (List Node)} (h : Spells text nodes) (hrest : SpellsBranches texts branches) :
    SpellsBranches (text :: texts) (nodes :: branches) where
  legible := ⟨h.legible, hrest.legible⟩
  render_eq := by rw [Node.renderBranches, h.render_eq, hrest.render_eq]

theorem spellsAtom_alternation {texts : List Text} {branches : List (List Node)}
    (h : SpellsBranches texts branches) (hne : branches ≠ []) :
    SpellsAtom (Pattern.alternationElement texts) (.group none branches) where
  legible := ⟨nofun, hne, h.legible⟩
  isAtom := rfl
  render_eq := by rw [Node.render, h.render_eq]; rfl

theorem spellsAtom_group {text : Text} {nodes : List Node} (h : Spells text nodes) :
    SpellsAtom (Pattern.parenthesized text) (.group none [nodes]) := by
  have hgroup := spellsAtom_alternation (.cons h spellsBranches_nil) (List.cons_ne_nil _ _)
  rw [Pattern.alternationElement, List.intercalate_singleton] at hgroup
  exact hgroup

theorem spellsAtom_namedGroup {name text : Text} {nodes : List Node} (hname : '>' ∉ name)
    (h : Spells text nodes) :
    SpellsAtom (Pattern.namedElement name text) (.group (some name) [nodes]) where
  legible := by
    refine ⟨?_, List.cons_ne_nil _ _, h.legible, trivial⟩
    rintro _ ⟨⟩
    exact hname
  isAtom := rfl
  render_eq := by
    rw [Node.render, Node.renderBranches, Node.renderBranches, List.intercalate_singleton,
      h.render_eq, Node.heading, List.append_assoc, List.singleton_append]
    rfl

/-- A repeated literal is one element: its only character, or a group of its characters. -/
def Node.ofLiteral (text : Text) (q : Quantifier) : List Node :=
  if q = Quantifier.once then text.map .char
  else
    match text with
    | [c] => [.repeated (.char c) q]
    | _ => [.repeated (.group none [text.map .char]) q]

theorem spells_literal {text : Text} {q : Quantifier} (h : ∀ c ∈ text, c ∉ passThrough)
    (hq : q.Normal) (hne : q ≠ Quantifier.once → text ≠ []) :
    Spells (Pattern.literalElement text q ++ q.render) (Node.ofLiteral text q) := by
  by_cases honce : q = Quantifier.once
  · subst honce
    have hchars := spells_chars h
    simp only [Pattern.literalElement, Node.ofLiteral, Quantifier.render_once, List.append_nil,
      ne_eq, not_true_eq_false, false_and, if_false, if_true]
    exact hchars
  · have htimes : ∀ node : Node, node.times q = .repeated node q := fun node => if_neg honce
    -- Only a literal that is repeated becomes one node, so the length decides which one.
    cases text with
    | nil => exact absurd rfl (hne honce)
    | cons c rest =>
      cases rest with
      | nil =>
        have hnodes : Node.ofLiteral [c] q = [.repeated (.char c) q] := if_neg honce
        have hchar := (spellsAtom_char (h c List.mem_cons_self)).times hq
        have hshort : ¬(q ≠ Quantifier.once ∧ 2 ≤ [c].length) := fun h => absurd h.2 (by simp)
        rw [htimes, ← hnodes] at hchar
        rw [Pattern.literalElement, if_neg hshort]
        exact hchar
      | cons d rest =>
        have hnodes : Node.ofLiteral (c :: d :: rest) q =
            [.repeated (.group none [(c :: d :: rest).map .char]) q] := if_neg honce
        have hgroup := (spellsAtom_group (spells_chars h)).times hq
        have hlong : q ≠ Quantifier.once ∧ 2 ≤ (c :: d :: rest).length := ⟨honce, by simp⟩
        rw [htimes, ← hnodes] at hgroup
        rw [Pattern.literalElement, if_pos hlong]
        exact hgroup

end Regex

namespace Repetition
open Regex

def repeats (times : Option Repetition) : Bool :=
  match verdict times with
  | .ok q => q ≠ Quantifier.once
  | .error _ => false

theorem spells_written {times : Option Repetition} {element : Quantifier → Text}
    {nodes : Quantifier → List Node}
    (h : ∀ q, verdict times = .ok q → Spells (element q ++ q.render) (nodes q)) :
    Spells (written times element) (granted times nodes) := by
  cases hv : verdict times with
  | ok q =>
    rw [written_of_ok hv, granted_of_ok hv]
    exact h q hv
  | error r =>
    rw [written_of_error hv, granted_of_error hv]
    exact spells_nil

theorem spells_element {times : Option Repetition} {text : Text} {node : Node}
    (h : SpellsAtom text node) :
    Spells (written times fun _ => text) (granted times fun q => [node.times q]) :=
  spells_written fun _ hv => h.times (normal_of_ok hv)

end Repetition

def Conditions.readable : Conditions where
  literal times text :=
    text.all (fun c => c ∉ Regex.passThrough) && (!Repetition.repeats times || !text.isEmpty)
  endpoint c := c ∉ ['\\', ']']
  name text := '>' ∉ text

namespace Step
open Repetition Regex

mutual

def nodes : Step → List Node
  | .literal text times => granted times (Node.ofLiteral text)
  | .char c times => granted times (Node.ofLiteral [c])
  | .digit times => granted times fun q => [Node.digit.times q]
  | .word times => granted times fun q => [Node.word.times q]
  | .startOfLine => [.lineStart]
  | .endOfLine => [.lineEnd]
  | .characterClass steps times =>
    granted times fun q => [(Node.cls (ClassStep.writtenAll steps)).times q]
  | .group body times => granted times fun q => [(Node.group none [nodesAll body]).times q]
  | .namedGroup name body times =>
    granted times fun q => [(Node.group (some name) [nodesAll body]).times q]
  | .oneOfChars first second others times =>
    granted times fun q =>
      [(Node.cls (Text.escape Text.classSpecials (first :: second :: others))).times q]
  | .oneOfLiterals first second others times =>
    granted times fun q =>
      [(Node.group none ((first :: second :: others).map (·.map .char))).times q]
  | .oneOf first second others times =>
    granted times fun q =>
      [(Node.group none (nodesAll first :: nodesAll second :: nodesBranches others)).times q]
  | .peek | .inspect => []

def nodesAll : List Step → List Node
  | [] => []
  | step :: steps => step.nodes ++ nodesAll steps

def nodesBranches : List (List Step) → List (List Node)
  | [] => []
  | branch :: branches => nodesAll branch :: nodesBranches branches

end

theorem spells_readable {times : Option Repetition} {text : Text}
    (h : Conditions.readable.literal times text = true) :
    Spells (written times (Pattern.literalElement text)) (granted times (Node.ofLiteral text)) := by
  simp only [Conditions.readable, Bool.and_eq_true, Bool.or_eq_true, List.all_eq_true,
    decide_eq_true_eq] at h
  obtain ⟨hchars, hempty⟩ := h
  apply spells_written
  intro q hv
  apply spells_literal hchars (normal_of_ok hv)
  intro hne
  have hrepeats : repeats times = true := by simp [repeats, hv, hne]
  simpa [hrepeats] using hempty

theorem spellsBranches_literals {texts : List Text}
    (h : texts.all (Conditions.readable.literal none) = true) :
    SpellsBranches (texts.map (Text.escape Text.literalSpecials)) (texts.map (·.map .char)) := by
  induction texts with
  | nil => exact spellsBranches_nil
  | cons text texts ih =>
    rw [List.all_cons, Bool.and_eq_true] at h
    obtain ⟨htext, htexts⟩ := h
    simp only [Conditions.readable, Bool.and_eq_true, List.all_eq_true, decide_eq_true_eq] at htext
    exact .cons (spells_chars htext.1) (ih htexts)

mutual

theorem spells_fragment (step : Step) (h : step.meets .readable = true) :
    Spells step.fragment step.nodes := by
  cases step with
  | literal text times => exact spells_readable h
  | char c times => exact spells_readable h
  | digit times => exact spells_element ⟨trivial, rfl, rfl⟩
  | word times => exact spells_element ⟨trivial, rfl, rfl⟩
  | startOfLine | endOfLine => exact ⟨⟨trivial, trivial⟩, rfl⟩
  | characterClass steps times =>
    have hends : ∀ c, Conditions.readable.endpoint c = true → c ≠ '\\' ∧ c ≠ ']' := by
      intro c hc
      simpa [Conditions.readable] using hc
    exact spells_element (spellsAtom_cls (ClassStep.closed_writtenAll hends h))
  | group body times => exact spells_element (spellsAtom_group (spells_fragmentAll body h))
  | namedGroup name body times =>
    rw [meets, Bool.and_eq_true] at h
    have hname : '>' ∉ name := of_decide_eq_true h.1
    exact spells_element (spellsAtom_namedGroup hname (spells_fragmentAll body h.2))
  | oneOfChars first second others times =>
    exact spells_element (spellsAtom_cls (Text.closed_escape (first :: second :: others)))
  | oneOfLiterals first second others times =>
    exact spells_element
      (spellsAtom_alternation (spellsBranches_literals h) (List.cons_ne_nil _ _))
  | oneOf first second others times =>
    rw [meets, Bool.and_eq_true, Bool.and_eq_true] at h
    have hbranches : SpellsBranches
        (fragmentAll first :: fragmentAll second :: fragmentBranches others)
        (nodesAll first :: nodesAll second :: nodesBranches others) :=
      .cons (spells_fragmentAll first h.1)
        (.cons (spells_fragmentAll second h.2.1) (spells_fragmentBranches others h.2.2))
    exact spells_element (spellsAtom_alternation hbranches (List.cons_ne_nil _ _))
  | peek | inspect => exact spells_nil

theorem spells_fragmentAll (steps : List Step) (h : meetsAll .readable steps = true) :
    Spells (fragmentAll steps) (nodesAll steps) := by
  cases steps with
  | nil => exact spells_nil
  | cons step steps =>
    rw [meetsAll, Bool.and_eq_true] at h
    exact (spells_fragment step h.1).append (spells_fragmentAll steps h.2)

theorem spells_fragmentBranches (branches : List (List Step))
    (h : meetsBranches .readable branches = true) :
    SpellsBranches (fragmentBranches branches) (nodesBranches branches) := by
  cases branches with
  | nil => exact spellsBranches_nil
  | cons branch branches =>
    rw [meetsBranches, Bool.and_eq_true] at h
    exact .cons (spells_fragmentAll branch h.1) (spells_fragmentBranches branches h.2)

end

theorem spells_source {steps : List Step} (h : meetsAll .readable steps = true)
    (saved : SavedClasses) :
    Spells (Pattern.empty.run steps saved).value.source (nodesAll steps) := by
  rw [source_runAll, Pattern.source_empty, List.nil_append]
  exact spells_fragmentAll steps h

/-- The source of a readable program is read back as its normal form, so that two readable programs
have one source when they have one normal form, and only then. -/
theorem read?_source {steps : List Step} (h : meetsAll .readable steps = true)
    (saved : SavedClasses) :
    Regex.read? (Pattern.empty.run steps saved).value.source = some (nodesAll steps) ∧
      ∀ others, meetsAll .readable others = true → ∀ before : SavedClasses,
        ((Pattern.empty.run others before).value.source =
            (Pattern.empty.run steps saved).value.source ↔
          nodesAll others = nodesAll steps) := by
  have hsteps := spells_source h saved
  constructor
  · rw [← hsteps.render_eq]
    exact read?_renderAll hsteps.legible
  · intro others hothers before
    have hspells := spells_source hothers before
    rw [← hsteps.render_eq, ← hspells.render_eq]
    exact renderAll_inj hspells.legible hsteps.legible

def seamSample : List Step :=
  [.char '+' (some .zeroOrMoreLazy),
    .group [.namedGroup "n".toList [.oneOfLiterals [] "a.b".toList ["(".toList] none]
      (some (.range 0 3))] (some (.exactly 1)),
    .startOfLine, .literal "yes".toList (some (.atLeast 2)),
    .characterClass [.range 'a' '-', .oneOf ']' '\\' []] (some .oneOrMoreLazy)]

def seamTwin : List Step :=
  [.literal "+".toList (some .zeroOrMoreLazy), .peek,
    .group [.namedGroup "n".toList
      [.oneOf [.digit (some (.exactly 0))] [.literal "a.b".toList none] [[.char '(' none]] none]
      (some (.atMost 3))] none,
    .startOfLine, .group [.char 'y' none, .literal "es".toList none] (some (.atLeast 2)),
    .characterClass [.range 'a' '-', .peek, .oneOf ']' '\\' []] (some .oneOrMoreLazy)]

theorem read?_source_seamSample :
    (meetsAll .readable seamSample = true ∧ meetsAll .readable seamTwin = true) ∧
      Regex.read? (Pattern.empty.run seamSample Shelf.empty).value.source =
        some (nodesAll seamSample) ∧
      (Pattern.empty.run seamTwin Shelf.empty).value.source =
        (Pattern.empty.run seamSample Shelf.empty).value.source := by
  have h : meetsAll .readable seamSample = true := by decide
  have htwin : meetsAll .readable seamTwin = true := by decide
  obtain ⟨hread, hsame⟩ := read?_source h Shelf.empty
  have hnodes : nodesAll seamTwin = nodesAll seamSample := rfl
  exact ⟨⟨h, htwin⟩, hread, (hsame seamTwin htwin Shelf.empty).mpr hnodes⟩

end Step
end PatternBuilder

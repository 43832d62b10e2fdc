import PatternBuilder.Quantifier

/-!
# Patterns

A pattern is the source text assembled so far, and every operation appends to it. An operation puts
its element down as one unit and the quantifier behind it, so that the quantifier governs the whole
element: a repeated literal of several characters goes into parentheses. A character class collects
ranges and single characters in its body, in the order in which they come. The ends of a range go in
as they are; listed characters are escaped.
-/
namespace PatternBuilder

structure CharacterClass where
  body : Text := []
  quantifier : Quantifier := Quantifier.once
  deriving DecidableEq

namespace CharacterClass

def append (cls : CharacterClass) (text : Text) : CharacterClass :=
  { cls with body := cls.body ++ text }

def range (cls : CharacterClass) (first last : Char) : CharacterClass :=
  cls.append [first, '-', last]

def oneOf (cls : CharacterClass) (first second : Char) (others : List Char) : CharacterClass :=
  cls.append (Text.escape Text.classSpecials (first :: second :: others))

def render (cls : CharacterClass) : Text :=
  '[' :: cls.body ++ ']' :: cls.quantifier.render

def inspect (cls : CharacterClass) : Text :=
  "CharacterClass \x7b body: ".toList ++ Text.quoted cls.body ++ ", quantifier: ".toList ++
    cls.quantifier.inspect ++ " \x7d".toList

end CharacterClass

structure Pattern where
  source : Text := []
  deriving DecidableEq

namespace Pattern

def empty : Pattern := {}

def append (p : Pattern) (text : Text) : Pattern := { source := p.source ++ text }

def element (p : Pattern) (text : Text) (q : Quantifier) : Pattern :=
  p.append (text ++ q.render)

def parenthesized (text : Text) : Text := '(' :: text ++ [')']

/-- The element for a literal. One character or none needs no parentheses. -/
def literalElement (text : Text) (q : Quantifier) : Text :=
  let escaped := Text.escape Text.literalSpecials text
  if q ≠ Quantifier.once ∧ 2 ≤ text.length then parenthesized escaped else escaped

def namedElement (name nested : Text) : Text :=
  parenthesized ("?<".toList ++ name ++ '>' :: nested)

def alternationElement (branches : List Text) : Text :=
  parenthesized (['|'].intercalate branches)

def literal (p : Pattern) (text : Text) (q : Quantifier) : Pattern :=
  p.element (literalElement text q) q

def digit (p : Pattern) (q : Quantifier) : Pattern := p.element ['\\', 'd'] q

def word (p : Pattern) (q : Quantifier) : Pattern := p.element ['\\', 'w'] q

def startOfLine (p : Pattern) : Pattern := p.append ['^']

def endOfLine (p : Pattern) : Pattern := p.append ['$']

def characterClass (p : Pattern) (cls : CharacterClass) : Pattern := p.append cls.render

def group (p nested : Pattern) (q : Quantifier) : Pattern :=
  p.element (parenthesized nested.source) q

def namedGroup (p : Pattern) (name : Text) (nested : Pattern) (q : Quantifier) : Pattern :=
  p.element (namedElement name nested.source) q

def alternation (p : Pattern) (branches : List Pattern) (q : Quantifier) : Pattern :=
  p.element (alternationElement (branches.map source)) q

def oneOfChars (p : Pattern) (first second : Char) (others : List Char) (q : Quantifier) :
    Pattern :=
  let cls : CharacterClass := { quantifier := q }
  p.characterClass (cls.oneOf first second others)

def inspect (p : Pattern) : Text :=
  "Pattern \x7b source: ".toList ++ Text.quoted p.source ++ " \x7d".toList

@[simp] theorem source_empty : empty.source = [] := rfl

@[simp] theorem source_append (p : Pattern) (text : Text) :
    (p.append text).source = p.source ++ text := rfl

@[simp] theorem append_nil (p : Pattern) : p.append [] = p := by simp [append]

theorem append_append (p : Pattern) (a b : Text) : (p.append a).append b = p.append (a ++ b) := by
  simp [append]

theorem literal_once (p : Pattern) (text : Text) :
    p.literal text Quantifier.once = p.append (Text.escape Text.literalSpecials text) := by
  simp [literal, literalElement, element]

theorem source_literal_once (p : Pattern) (text : Text) :
    (p.literal text Quantifier.once).source =
      p.source ++ Text.escape Text.literalSpecials text := by
  rw [literal_once, source_append]

end Pattern

end PatternBuilder

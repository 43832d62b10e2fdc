import PatternBuilder.Proofs.Conditions
import PatternBuilder.Proofs.QuantifierText
import PatternBuilder.Regex.Reader

/-!
# The text of an expression

Every tree has a text. The trees whose text can be read back are the legible ones: a character has
no meaning of its own, the body of a class is closed, a name does not end early, and a quantifier is
normal and stands behind an element that takes one. Legibility says nothing about what comes before
or after a node, so the texts of legible nodes can be put next to each other.
-/
namespace PatternBuilder.Regex
open Text

/-- Characters that literal text passes on as they are although they mean something. -/
def passThrough : Text := ['*', '?', '\x7b', '\x7d', '|', '^', '$', '\\']

namespace Node

/-- Anchors take no quantifier, and neither does a node that has one. -/
def isAtom : Node → Bool
  | .char _ | .digit | .word | .cls _ | .group _ _ => true
  | .lineStart | .lineEnd | .repeated _ _ => false

def heading : Option Text → Text
  | none => []
  | some name => "?<".toList ++ name ++ ['>']

mutual

def render : Node → Text
  | .char c => escapeChar literalSpecials c
  | .digit => ['\\', 'd']
  | .word => ['\\', 'w']
  | .lineStart => ['^']
  | .lineEnd => ['$']
  | .cls body => Pattern.bracketed body
  | .group name branches =>
    Pattern.parenthesized (heading name ++ ['|'].intercalate (renderBranches branches))
  | .repeated node q => node.render ++ q.render

def renderAll : List Node → Text
  | [] => []
  | node :: nodes => node.render ++ renderAll nodes

def renderBranches : List (List Node) → List Text
  | [] => []
  | branch :: branches => renderAll branch :: renderBranches branches

end

mutual

def Legible : Node → Prop
  | .char c => c ∉ passThrough
  | .digit | .word | .lineStart | .lineEnd => True
  | .cls body => Closed body
  | .group name branches =>
    (∀ text, name = some text → '>' ∉ text) ∧ branches ≠ [] ∧ LegibleBranches branches
  | .repeated node q => (node.isAtom = true ∧ node.Legible) ∧ q.Normal ∧ q ≠ Quantifier.once

def LegibleAll : List Node → Prop
  | [] => True
  | node :: nodes => node.Legible ∧ LegibleAll nodes

def LegibleBranches : List (List Node) → Prop
  | [] => True
  | branch :: branches => LegibleAll branch ∧ LegibleBranches branches

end

theorem renderAll_append (a b : List Node) : renderAll (a ++ b) = renderAll a ++ renderAll b := by
  induction a with
  | nil => rfl
  | cons node nodes ih => simp only [List.cons_append, renderAll, ih, List.append_assoc]

theorem LegibleAll.append {a b : List Node} (ha : LegibleAll a) (hb : LegibleAll b) :
    LegibleAll (a ++ b) := by
  induction a with
  | nil => exact hb
  | cons node nodes ih => exact ⟨ha.1, ih ha.2⟩

theorem render_times (node : Node) (q : Quantifier) :
    (node.times q).render = node.render ++ q.render := by
  unfold times
  split
  · next h => rw [h, Quantifier.render_once, List.append_nil]
  · rw [render]

theorem Legible.times {node : Node} {q : Quantifier} (hnode : node.Legible)
    (hatom : node.isAtom = true) (hq : q.Normal) : (node.times q).Legible := by
  unfold Node.times
  split
  · exact hnode
  · next h => exact ⟨⟨hatom, hnode⟩, hq, h⟩

theorem renderAll_chars (text : Text) :
    renderAll (text.map .char) = escape literalSpecials text := by
  induction text with
  | nil => rfl
  | cons c text ih => rw [List.map_cons, renderAll, render, ih, escape_cons]

theorem legibleAll_chars {text : Text} (h : ∀ c ∈ text, c ∉ passThrough) :
    LegibleAll (text.map .char) := by
  induction text with
  | nil => exact trivial
  | cons c text ih =>
    exact ⟨h c List.mem_cons_self, ih fun d hd => h d (List.mem_cons_of_mem c hd)⟩

end Node
end PatternBuilder.Regex

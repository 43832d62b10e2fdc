import Mathlib.Algebra.Ring.Parity
import Mathlib.Data.List.DropRight
import Mathlib.Data.List.Induction
import PatternBuilder.Pattern

/-!
# How escaped literal text is read

A reader goes from left to right and keeps one bit: whether it stands between a backslash, not
itself escaped, and the character that this backslash escapes. The backslashes of a literal are not
escaped themselves, so they mix with the ones put in. After the escaped form of a text the bit is
the parity of the backslashes at the end of the text. The main statement is `Pattern.reads_literal`.
-/
namespace PatternBuilder
namespace Text

/-- The reader is in the middle of an escape after this text. -/
def midEscape (text : Text) : Bool := text.foldl (fun escaped c => !escaped && c == '\\') false

theorem midEscape_concat (text : Text) (c : Char) :
    midEscape (text ++ [c]) = (!midEscape text && c == '\\') := by
  rw [midEscape, List.foldl_concat]
  rfl

theorem midEscape_concat_backslash (text : Text) :
    midEscape (text ++ ['\\']) = !midEscape text := by
  simp [midEscape_concat]

theorem midEscape_concat_of_ne {c : Char} (h : c ≠ '\\') (text : Text) :
    midEscape (text ++ [c]) = false := by
  simp [midEscape_concat, h]

def trailingBackslashes (text : Text) : Nat := (text.rtakeWhile (· == '\\')).length

theorem trailingBackslashes_concat (text : Text) :
    trailingBackslashes (text ++ ['\\']) = trailingBackslashes text + 1 := by
  simp [trailingBackslashes]

theorem trailingBackslashes_concat_of_ne {c : Char} (h : c ≠ '\\') (text : Text) :
    trailingBackslashes (text ++ [c]) = 0 := by
  simp [trailingBackslashes, h]

theorem midEscape_escape (text : Text) :
    midEscape (escape literalSpecials text) = true ↔ Odd (trailingBackslashes text) := by
  induction text using List.reverseRecOn with
  | nil => simp [midEscape, trailingBackslashes]
  | append_singleton text c ih =>
    rw [escape_concat]
    by_cases hslash : c = '\\'
    · subst hslash
      have hplain : '\\' ∉ literalSpecials := by decide
      rw [escapeChar_of_notMem hplain, midEscape_concat_backslash, trailingBackslashes_concat,
        Nat.odd_add_one, ← ih, Bool.not_eq_true', Bool.not_eq_true]
    · rw [trailingBackslashes_concat_of_ne hslash]
      by_cases hspecial : c ∈ literalSpecials
      · rw [escapeChar_of_mem hspecial]
        have hend : midEscape (escape literalSpecials text ++ ['\\'] ++ [c]) = false :=
          midEscape_concat_of_ne hslash _
        rw [List.append_assoc, List.singleton_append] at hend
        simp [hend]
      · rw [escapeChar_of_notMem hspecial, midEscape_concat_of_ne hslash]
        simp

def escapedFront (before : Text) (c : Char) : Text :=
  if c ∈ literalSpecials then escape literalSpecials before ++ ['\\']
  else escape literalSpecials before

theorem escape_eq_escapedFront (before : Text) (c : Char) (after : Text) :
    escape literalSpecials (before ++ c :: after) =
      escapedFront before c ++ c :: escape literalSpecials after := by
  rw [escape_append, escape_cons]
  by_cases hspecial : c ∈ literalSpecials
  · simp [escapedFront, escapeChar_of_mem hspecial, hspecial]
  · simp [escapedFront, escapeChar_of_notMem hspecial, hspecial]

theorem midEscape_escapedFront_of_mem {c : Char} (h : c ∈ literalSpecials) (before : Text) :
    midEscape (escapedFront before c) = true ↔ Even (trailingBackslashes before) := by
  rw [escapedFront, if_pos h, midEscape_concat_backslash, Bool.not_eq_true', ← Bool.not_eq_true,
    midEscape_escape, Nat.not_odd_iff_even]

theorem midEscape_escapedFront_of_notMem {c : Char} (h : c ∉ literalSpecials) (before : Text) :
    midEscape (escapedFront before c) = true ↔ Odd (trailingBackslashes before) := by
  rw [escapedFront, if_neg h, midEscape_escape]

end Text

namespace Pattern
open Text

/-- In what a literal appends, one of the six special characters is read as escaped when an even
number of backslashes stands before it in the literal, another character when an odd number does,
and the reading ends in the middle of an escape when the literal ends with an odd number of them. -/
theorem reads_literal (p : Pattern) (text : Text) :
    ∃ written, (p.literal text Quantifier.once).source = p.source ++ written ∧
      (∀ before c after, text = before ++ c :: after → ∃ front,
        written = front ++ c :: escape ['(', ')', '[', ']', '+', '.'] after ∧
        (c ∈ ['(', ')', '[', ']', '+', '.'] →
          (midEscape front = true ↔ Even (trailingBackslashes before))) ∧
        (c ∉ ['(', ')', '[', ']', '+', '.'] → c ≠ '\\' →
          (midEscape front = true ↔ Odd (trailingBackslashes before)))) ∧
      (midEscape written = true ↔ Odd (trailingBackslashes text)) := by
  refine ⟨escape literalSpecials text, source_literal_once p text, ?_, midEscape_escape text⟩
  rintro before c after rfl
  exact ⟨escapedFront before c, escape_eq_escapedFront before c after,
    fun h => midEscape_escapedFront_of_mem h before,
    fun h _ => midEscape_escapedFront_of_notMem h before⟩

/-- The backslash of the literal escapes the one that is put in, and the parenthesis stays active.
-/
theorem reads_literal_backslash_paren :
    ("\\(".toList = ['\\'] ++ '(' :: [] ∧ '(' ∈ ['(', ')', '[', ']', '+', '.']) ∧
      ∃ front, (empty.literal "\\(".toList Quantifier.once).source = front ++ ['('] ∧
        ¬midEscape front = true := by
  obtain ⟨written, hsource, hread, _⟩ := reads_literal empty "\\(".toList
  obtain ⟨front, hfront, hspecial, _⟩ := hread ['\\'] '(' [] rfl
  have hparen : '(' ∈ ['(', ')', '[', ']', '+', '.'] := by decide
  refine ⟨⟨rfl, hparen⟩, front, ?_, ?_⟩
  · rw [hsource, hfront]
    rfl
  · rw [hspecial hparen]
    decide

end Pattern
end PatternBuilder

import Mathlib.Data.List.Induction
import Mathlib.Data.Set.Function
import PatternBuilder.Pattern

/-!
# Escaping undone

When the backslash is not a special character, the escaped form of a text does not say which of its
backslashes were put in, and yet nothing is lost: they are the ones directly before a special
character. Dropping these gives the text back, and the escaped forms are the texts in which each
special character stands behind a backslash. The main statement is `Pattern.bijOn_literal`.
-/
namespace PatternBuilder
namespace Text
variable {specials : Text}

def unescape (specials : Text) : Text → Text
  | [] => []
  | c :: rest =>
    if c = '\\' ∧ rest.head?.any (· ∈ specials) then unescape specials rest
    else c :: unescape specials rest

/-- Directly before each special character there is a backslash. -/
def Guarded (specials text : Text) : Prop :=
  ∀ before c after, text = before ++ c :: after → c ∈ specials → before.getLast? = some '\\'

theorem head?_escape_any (hslash : '\\' ∉ specials) (text : Text) :
    (escape specials text).head?.any (· ∈ specials) = false := by
  cases text with
  | nil => rfl
  | cons c text =>
    rw [escape_cons]
    by_cases hspecial : c ∈ specials
    · simp [escapeChar_of_mem hspecial, hslash]
    · simp [escapeChar_of_notMem hspecial, hspecial]

theorem unescape_cons_of_ne {c : Char} (h : c ≠ '\\') (rest : Text) :
    unescape specials (c :: rest) = c :: unescape specials rest := by
  simp [unescape, h]

theorem unescape_escape (hslash : '\\' ∉ specials) (text : Text) :
    unescape specials (escape specials text) = text := by
  induction text with
  | nil => rfl
  | cons c text ih =>
    rw [escape_cons]
    by_cases hspecial : c ∈ specials
    · have hne : c ≠ '\\' := fun heq => hslash (heq ▸ hspecial)
      rw [escapeChar_of_mem hspecial, List.cons_append, unescape, if_pos (by simp [hspecial]),
        List.singleton_append, unescape_cons_of_ne hne, ih]
    · rw [escapeChar_of_notMem hspecial, List.singleton_append, unescape,
        if_neg (by simp [head?_escape_any hslash]), ih]

theorem guarded_nil : Guarded specials [] := by
  intro before c after h
  simp at h

theorem guarded_concat_iff {text : Text} {c : Char} :
    Guarded specials (text ++ [c]) ↔
      Guarded specials text ∧ (c ∈ specials → text.getLast? = some '\\') := by
  constructor
  · intro h
    constructor
    · rintro before d after rfl hd
      exact h before d (after ++ [c]) (by simp) hd
    · exact h text c [] rfl
  · rintro ⟨htext, hc⟩ before d after heq hd
    rcases List.eq_nil_or_concat after with rfl | ⟨front, last, rfl⟩
    · obtain ⟨rfl, hlast⟩ := List.append_inj' heq rfl
      obtain rfl : c = d := by simpa using hlast
      exact hc hd
    · have hsplit : text = before ++ d :: front := by
        have happend : text ++ [c] = (before ++ d :: front) ++ [last] := by simpa using heq
        exact (List.append_inj' happend rfl).1
      exact htext before d front hsplit hd

theorem guarded_escape (hslash : '\\' ∉ specials) (text : Text) :
    Guarded specials (escape specials text) := by
  induction text using List.reverseRecOn with
  | nil => exact guarded_nil
  | append_singleton text c ih =>
    rw [escape_concat]
    by_cases hspecial : c ∈ specials
    · have hfront : Guarded specials (escape specials text ++ ['\\']) :=
        guarded_concat_iff.mpr ⟨ih, fun h => absurd h hslash⟩
      have hlast : (escape specials text ++ ['\\']).getLast? = some '\\' := by simp
      have hguarded := guarded_concat_iff.mpr ⟨hfront, fun _ : c ∈ specials => hlast⟩
      rw [List.append_assoc, List.singleton_append] at hguarded
      rw [escapeChar_of_mem hspecial]
      exact hguarded
    · rw [escapeChar_of_notMem hspecial]
      exact guarded_concat_iff.mpr ⟨ih, fun h => absurd h hspecial⟩

theorem exists_of_escape_eq_concat (hslash : '\\' ∉ specials) {text front : Text}
    (h : escape specials text = front ++ ['\\']) : ∃ t, escape specials t = front := by
  rcases List.eq_nil_or_concat text with rfl | ⟨t, c, rfl⟩
  · simp at h
  · rw [List.concat_eq_append, escape_concat] at h
    by_cases hspecial : c ∈ specials
    · rw [escapeChar_of_mem hspecial, ← List.singleton_append, ← List.append_assoc] at h
      obtain rfl : c = '\\' := by simpa using (List.append_inj' h rfl).2
      contradiction
    · rw [escapeChar_of_notMem hspecial] at h
      exact ⟨t, (List.append_inj' h rfl).1⟩

theorem Guarded.exists_escape_eq (hslash : '\\' ∉ specials) {source : Text}
    (h : Guarded specials source) : ∃ text, escape specials text = source := by
  -- From the end, where a special character brings its backslash along.
  induction source using List.reverseRecOn with
  | nil => exact ⟨[], rfl⟩
  | append_singleton source c ih =>
    obtain ⟨hsource, hc⟩ := guarded_concat_iff.mp h
    obtain ⟨text, htext⟩ := ih hsource
    by_cases hspecial : c ∈ specials
    · obtain ⟨front, rfl⟩ := List.getLast?_eq_some_iff.mp (hc hspecial)
      obtain ⟨t, ht⟩ := exists_of_escape_eq_concat hslash htext
      refine ⟨t ++ [c], ?_⟩
      rw [escape_concat, escapeChar_of_mem hspecial, ht]
      simp
    · refine ⟨text ++ [c], ?_⟩
      rw [escape_concat, escapeChar_of_notMem hspecial, htext]

theorem escape_unescape_iff (hslash : '\\' ∉ specials) {source : Text} :
    escape specials (unescape specials source) = source ↔ Guarded specials source := by
  constructor
  · intro h
    have hguarded := guarded_escape hslash (unescape specials source)
    rw [h] at hguarded
    exact hguarded
  · intro h
    obtain ⟨text, rfl⟩ := h.exists_escape_eq hslash
    rw [unescape_escape hslash]

end Text

namespace Pattern
open Text

/-- Literals are one-to-one onto the sources in which each of the six special characters stands
behind a backslash; dropping these backslashes is the inverse on both sides. A literal in two parts
is the two literals in sequence. -/
theorem bijOn_literal :
    Set.BijOn (fun text => (empty.literal text Quantifier.once).source) Set.univ
      {source | Guarded ['(', ')', '[', ']', '+', '.'] source} ∧
    (∀ text, unescape ['(', ')', '[', ']', '+', '.']
      (empty.literal text Quantifier.once).source = text) ∧
    (∀ source, (empty.literal (unescape ['(', ')', '[', ']', '+', '.'] source)
      Quantifier.once).source = source ↔ Guarded ['(', ')', '[', ']', '+', '.'] source) ∧
    (∀ (p : Pattern) (a b : Text), p.literal (a ++ b) Quantifier.once =
      (p.literal a Quantifier.once).literal b Quantifier.once) ∧
    (∀ (p : Pattern) (a b : Text), (p.literal a Quantifier.once).source =
      (p.literal b Quantifier.once).source ↔ a = b) := by
  have hspecials : ['(', ')', '[', ']', '+', '.'] = literalSpecials := rfl
  have hslash : '\\' ∉ literalSpecials := by decide
  have hsource (text : Text) :
      (empty.literal text Quantifier.once).source = escape literalSpecials text :=
    source_literal_once empty text
  have hinjective : Function.Injective (escape literalSpecials) :=
    Function.LeftInverse.injective (unescape_escape hslash)
  simp only [hsource, hspecials]
  refine ⟨⟨?_, hinjective.injOn, ?_⟩, unescape_escape hslash,
    fun _ => escape_unescape_iff hslash, ?_, ?_⟩
  · intro text _
    exact guarded_escape hslash text
  · intro source h
    obtain ⟨text, htext⟩ := Guarded.exists_escape_eq hslash h
    exact ⟨text, Set.mem_univ text, htext⟩
  · intro p a b
    rw [literal_once, literal_once, literal_once, escape_append, append_append]
  · intro p a b
    rw [source_literal_once, source_literal_once, List.append_cancel_left_eq]
    exact hinjective.eq_iff

end Pattern
end PatternBuilder

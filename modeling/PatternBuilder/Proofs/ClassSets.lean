import PatternBuilder.Proofs.ClassMembers

/-!
# The set of a class

The engine takes more from the body of a class than its members: a caret in front turns the set
around, and two bare ampersands, hyphens or tildes in a row are an operator between two operands.
Listed characters are escaped so that neither a caret nor a hyphen is bare, and no bracket. But
ampersands and tildes are not escaped, and the class holds what was listed only where no two of
them come together. The main statement is `Pattern.denotes_listed`.
-/
namespace PatternBuilder
namespace Regex
open Text

namespace ClassBody

theorem contains_operators (a b : Symbol) :
    operators.contains [a, b] = (operator? a b).isSome := by
  have hmem : operators.contains [a, b] = true ↔ (operator? a b).isSome = true := by
    rw [List.contains_iff_mem, operator?]
    simp only [operators, List.mem_cons, List.not_mem_nil, or_false]
    split
    · next h => simp [h]
    · next hand =>
      split
      · next h => simp [h]
      · next hminus =>
        split
        · next h => simp [h]
        · next htilde => simp [hand, hminus, htilde]
  exact Bool.eq_iff_iff.mpr hmem

theorem operands_of_not_hasOperator {found : List Symbol} (h : hasOperator found = false) :
    operands found = (found, []) := by
  induction found with
  | nil => rfl
  | cons a rest ih =>
    cases rest with
    | nil => rfl
    | cons b rest =>
      rw [hasOperator, Bool.or_eq_false_iff, contains_operators, Option.isSome_eq_false_iff] at h
      have hnone : operator? a b = none := by simpa using h.1
      rw [operands, hnone, ih h.2]

theorem combined_of_not_hasOperator {found : List Symbol} (h : hasOperator found = false) :
    combined found = listedSet found := by
  rw [combined, operands_of_not_hasOperator h]
  rfl

theorem denotes_of_head? {body : Text} (h : (symbols body).head? ≠ some (.bare '^')) :
    denotes body = combined (symbols body) := by
  funext c
  unfold denotes
  split
  · next rest hfound =>
    rw [hfound] at h
    exact absurd rfl h
  · rfl

theorem denotes_of_set? {body : Text} {set : Char → Bool} (h : set? body = some set) :
    denotes body = set := by
  unfold set? at h
  obtain ⟨hlist, hset⟩ := Option.ite_none_right_eq_some.mp h
  simp only [isList, Bool.and_eq_true, Bool.not_eq_true', bne_iff_ne] at hlist
  obtain ⟨⟨⟨⟨⟨_, hhead⟩, _⟩, _⟩, hoperator⟩, _⟩ := hlist
  rw [denotes_of_head? hhead, combined_of_not_hasOperator hoperator, ← Option.some.inj hset]
  rfl

theorem plainEnds_of_mem_singles (chars : Text) : ∀ m ∈ chars.map Member.single, m.PlainEnds := by
  intro m hm
  obtain ⟨c, _, rfl⟩ := List.mem_map.mp hm
  exact trivial

theorem members_escape (chars : Text) :
    members (escape classSpecials chars) = chars.map Member.single := by
  have hmembers := members_written (plainEnds_of_mem_singles chars)
  rw [List.flatMap_map] at hmembers
  exact hmembers

theorem symbols_escape (chars : Text) :
    symbols (escape classSpecials chars) = chars.map Symbol.listed := by
  have hsymbols := symbols_written (plainEnds_of_mem_singles chars)
  rw [List.flatMap_map, List.flatMap_map] at hsymbols
  rw [List.map_eq_flatMap]
  exact hsymbols

theorem bare_mem_listed_iff {chars : Text} {c : Char} :
    Symbol.bare c ∈ chars.map Symbol.listed ↔ c ∈ chars ∧ c ∉ classSpecials := by
  rw [List.mem_map]
  constructor
  · rintro ⟨d, hd, heq⟩
    obtain ⟨rfl, hplain⟩ := Symbol.listed_eq_bare_iff.mp heq
    exact ⟨hd, hplain⟩
  · rintro ⟨hc, hplain⟩
    exact ⟨c, hc, Symbol.listed_eq_bare_iff.mpr ⟨rfl, hplain⟩⟩

/-- Two characters that stand for an operator are next to each other. -/
def OperatorPair (chars : Text) : Prop := ['&', '&'] <:+: chars ∨ ['~', '~'] <:+: chars

theorem operatorPair_cons_cons {a b : Char} {rest : Text} :
    OperatorPair (a :: b :: rest) ↔
      ([a, b] = ['&', '&'] ∨ [a, b] = ['~', '~']) ∨ OperatorPair (b :: rest) := by
  have hpair (c : Char) :
      [c, c] <:+: a :: b :: rest ↔ [a, b] = [c, c] ∨ [c, c] <:+: b :: rest := by
    rw [List.infix_cons_iff, List.cons_prefix_cons, List.cons_prefix_cons]
    simp only [List.nil_prefix, and_true, List.cons.injEq, eq_comm]
  rw [OperatorPair, hpair, hpair, OperatorPair]
  exact or_or_or_comm

theorem contains_operators_listed (a b : Char) :
    operators.contains [Symbol.listed a, Symbol.listed b] = true ↔
      [a, b] = ['&', '&'] ∨ [a, b] = ['~', '~'] := by
  have hhyphen : '-' ∈ classSpecials := by decide
  have hplain : '&' ∉ classSpecials ∧ '~' ∉ classSpecials := by decide
  rw [List.contains_iff_mem]
  simp only [operators, List.mem_cons, List.not_mem_nil, or_false, List.cons.injEq, and_true,
    Symbol.listed_eq_bare_iff]
  constructor
  · rintro (⟨⟨rfl, _⟩, rfl, _⟩ | ⟨⟨rfl, hbare⟩, _⟩ | ⟨⟨rfl, _⟩, rfl, _⟩)
    · exact .inl ⟨rfl, rfl⟩
    · exact absurd hhyphen hbare
    · exact .inr ⟨rfl, rfl⟩
  · rintro (⟨rfl, rfl⟩ | ⟨rfl, rfl⟩)
    · exact .inl ⟨⟨rfl, hplain.1⟩, rfl, hplain.1⟩
    · exact .inr (.inr ⟨⟨rfl, hplain.2⟩, rfl, hplain.2⟩)

theorem hasOperator_listed (chars : Text) :
    hasOperator (chars.map Symbol.listed) = true ↔ OperatorPair chars := by
  induction chars with
  | nil => simp [hasOperator, OperatorPair]
  | cons a rest ih =>
    cases rest with
    | nil => simp [hasOperator, OperatorPair, List.infix_cons_iff]
    | cons b rest =>
      rw [List.map_cons, List.map_cons, hasOperator, Bool.or_eq_true, contains_operators_listed,
        ← List.map_cons, ih, operatorPair_cons_cons]

theorem opensClass_listed (c : Char) : opensClass (.listed c) = false := by
  have hbracket : '[' ∈ classSpecials := by decide
  unfold Symbol.listed
  split
  · rfl
  · next hc =>
    have hne : c ≠ '[' := fun heq => hc (heq ▸ hbracket)
    simpa [opensClass] using hne

theorem escapesWord_listed (c : Char) : escapesWord (.listed c) = false := by
  have hspecial : ∀ d ∈ classSpecials, d.isAlphanum = false := by simp [classSpecials]
  unfold Symbol.listed
  split
  · next hc => exact hspecial c hc
  · rfl

theorem isList_escape {chars : Text} (hne : chars ≠ []) (h : ¬OperatorPair chars) :
    isList (escape classSpecials chars) = true := by
  have hempty : (chars.map Symbol.listed).isEmpty = false := by simpa using hne
  have hhead : (chars.map Symbol.listed).head? ≠ some (.bare '^') := by
    intro heq
    have hmem := bare_mem_listed_iff.mp (List.mem_of_mem_head? heq)
    exact hmem.2 (by decide)
  have hopens : (chars.map Symbol.listed).any opensClass = false := by
    simp [List.any_eq_false, opensClass_listed]
  have hword : (chars.map Symbol.listed).any escapesWord = false := by
    simp [List.any_eq_false, escapesWord_listed]
  have hoperator : hasOperator (chars.map Symbol.listed) = false := by
    rw [← Bool.not_eq_true, hasOperator_listed]
    exact h
  have hordered : (chars.map Member.single).all Member.wellOrdered = true := by
    simp [Member.wellOrdered]
  simp only [isList, symbols_escape, members_escape, hempty, hopens, hword, hoperator, hordered,
    bne_iff_ne.mpr hhead, Bool.not_false, Bool.and_self]

theorem any_holds_singles_iff {chars : Text} {c : Char} :
    (chars.map Member.single).any (·.holds c) = true ↔ c ∈ chars := by
  simp [Member.holds]

end ClassBody
end Regex

open Regex ClassBody

/-- Between the brackets of a class of listed characters, however they were listed, no character
with a meaning of its own is bare, and an operator stands just where two ampersands or two tildes
were listed one after the other. Elsewhere the class is the list of its members, and its set is the
set of the characters listed. -/
theorem Pattern.denotes_listed {chars : Text} (hne : chars ≠ []) :
    ∃ body : Text,
      (∀ (p : Pattern) a b cs q, chars = a :: b :: cs →
        (p.oneOfChars a b cs q).source = p.source ++ ('[' :: body ++ ']' :: q.render)) ∧
      (∀ steps q saved, ClassStep.membersAll steps = chars.map Member.single →
        (ClassStep.runAll { quantifier := q } steps saved).value.render =
          '[' :: body ++ ']' :: q.render) ∧
      (∀ c ∈ ['\\', '^', '-', '[', ']'], Symbol.bare c ∉ symbols body) ∧
      (hasOperator (symbols body) = true ↔ OperatorPair chars) ∧
      (¬OperatorPair chars → (∃ set, set? body = some set ∧ ∀ c, set c = true ↔ c ∈ chars) ∧
        ∀ c, denotes body c = true ↔ c ∈ chars) := by
  refine ⟨Text.escape Text.classSpecials chars, ?_, ?_, ?_, ?_, ?_⟩
  · rintro p a b cs q rfl
    rfl
  · intro steps q saved hmembers
    rw [ClassStep.value_runAll, hmembers, List.flatMap_map]
    rfl
  · intro c hc hmem
    rw [symbols_escape] at hmem
    exact (bare_mem_listed_iff.mp hmem).2 hc
  · rw [symbols_escape]
    exact hasOperator_listed chars
  · intro hpair
    have hset : set? (Text.escape Text.classSpecials chars) =
        some fun c => (chars.map Member.single).any (·.holds c) := by
      rw [set?, if_pos (isList_escape hne hpair), members_escape]
    rw [denotes_of_set? hset]
    exact ⟨⟨_, hset, fun _ => any_holds_singles_iff⟩, fun _ => any_holds_singles_iff⟩

theorem Pattern.denotes_listed_caretSample :
    ("^&-&".toList ≠ [] ∧ ¬OperatorPair "^&-&".toList) ∧
    ∀ c, denotes "\\^&\\-&".toList c = true ↔ c ∈ "^&-&".toList := by
  have hne : "^&-&".toList ≠ [] := by decide
  have hpair : ¬OperatorPair "^&-&".toList := by unfold OperatorPair; decide
  obtain ⟨body, hsource, _, _, _, hdenotes⟩ := denotes_listed hne
  have hbody : '[' :: "\\^&\\-&".toList ++ [']'] = '[' :: body ++ [']'] :=
    hsource empty '^' '&' ['-', '&'] Quantifier.once rfl
  obtain rfl := (List.cons.inj (List.append_cancel_right hbody)).2
  exact ⟨⟨hne, hpair⟩, (hdenotes hpair).2⟩

/-- Two ampersands alone are an operator between two empty operands, and the class holds nothing. -/
theorem Pattern.oneOfChars_ampersands :
    (empty.oneOfChars '&' '&' [] Quantifier.once).source = "[&&]".toList ∧
      hasOperator (symbols "&&".toList) = true ∧ denotes "&&".toList '&' = false := by
  decide

end PatternBuilder

import PatternBuilder.Quantifier
import PatternBuilder.Text.Cutting

/-!
# The text of a quantifier

A quantifier is written as one mark or as bounds between braces. It is normal when only the two open
ones are lazy, the counts fit, and the maximum is positive and not below the minimum. A normal
quantifier has one of ten forms, and it is read back from its text. The main statement is
`Quantifier.read?_render`.
-/
namespace PatternBuilder
namespace Text

theorem isDigit_of_mem_decimal {n : Nat} {c : Char} (h : c ∈ decimal n) : c.isDigit = true :=
  Nat.isDigit_of_mem_toDigits (by decide) (by decide) h

theorem comma_notMem_decimal (n : Nat) : ',' ∉ decimal n :=
  fun h => absurd (isDigit_of_mem_decimal h) (by decide)

theorem decimal_ne_nil (n : Nat) : decimal n ≠ [] := Nat.toDigits_ne_nil

theorem head?_decimal_ne_zero {n : Nat} (h : 1 ≤ n) : (decimal n).head? ≠ some '0' := by
  induction n using Nat.strongRecOn with
  | ind n ih =>
    by_cases hn : n < 10
    · have hdigit : ∀ k < 10, 1 ≤ k → Nat.digitChar k ≠ '0' := by decide
      rw [decimal, Nat.toDigits_of_lt_base hn]
      simpa using hdigit n hn h
    · have hrest : (decimal (n / 10)).head? ≠ some '0' := ih (n / 10) (by omega) (by omega)
      obtain ⟨d, ds, hd⟩ := List.exists_cons_of_ne_nil (decimal_ne_nil (n / 10))
      rw [hd] at hrest
      rw [decimal, Nat.toDigits_of_base_le (by decide) (by omega), ← decimal, hd]
      exact hrest

theorem takeWhile_decimal (n : Nat) (rest : Text) :
    (decimal n ++ ',' :: rest).takeWhile (· ≠ ',') = decimal n :=
  takeWhile_cut (comma_notMem_decimal n) rest

theorem dropWhile_decimal (n : Nat) (rest : Text) :
    (decimal n ++ ',' :: rest).dropWhile (· ≠ ',') = ',' :: rest :=
  dropWhile_cut (comma_notMem_decimal n) rest

end Text

namespace Quantifier
open Text

def marks : Text := ['*', '+', '?']

def IsBounds (text : Text) : Prop := ∀ c ∈ text, c = ',' ∨ c.isDigit = true

theorem isBounds_decimal (n : Nat) : IsBounds (decimal n) :=
  fun _ hc => .inr (isDigit_of_mem_decimal hc)

theorem isBounds_comma : IsBounds [','] :=
  fun _ hc => .inl (List.mem_singleton.mp hc)

theorem IsBounds.append {a b : Text} (ha : IsBounds a) (hb : IsBounds b) : IsBounds (a ++ b) :=
  fun c hc => (List.mem_append.mp hc).elim (ha c) (hb c)

theorem IsBounds.notMem {text : Text} (h : IsBounds text) {c : Char} (hcomma : c ≠ ',')
    (hdigit : c.isDigit = false) : c ∉ text := by
  intro hc
  rcases h c hc with hc | hc
  · exact hcomma hc
  · rw [hdigit] at hc
    contradiction

def braced (bounds : Text) : Text := '\x7b' :: bounds ++ ['\x7d']

theorem sign_atLeast {m : Nat} (h : 2 ≤ m) : sign m none = braced (decimal m ++ [',']) := by
  obtain ⟨k, rfl⟩ := Nat.exists_eq_add_of_le' h
  simp [sign, braced]

theorem sign_exactly {n : Nat} (h : 2 ≤ n) : sign n (some n) = braced (decimal n) := by
  obtain ⟨k, rfl⟩ := Nat.exists_eq_add_of_le' h
  simp [sign, braced]

theorem sign_atMost {n : Nat} (h : 2 ≤ n) : sign 0 (some n) = braced (',' :: decimal n) := by
  obtain ⟨k, rfl⟩ := Nat.exists_eq_add_of_le' h
  simp [sign, braced]

theorem sign_between {m n : Nat} (hm : 1 ≤ m) (h : m < n) :
    sign m (some n) = braced (decimal m ++ ',' :: decimal n) := by
  obtain ⟨k, rfl⟩ := Nat.exists_eq_add_of_le' hm
  simp [sign, braced, Nat.ne_of_lt h]

theorem sign_shape (m : Nat) (max : Option Nat) :
    (∃ c ∈ marks, sign m max = [c]) ∨ ∃ bounds, IsBounds bounds ∧ sign m max = braced bounds := by
  unfold sign
  split
  · exact .inl ⟨'*', by decide, rfl⟩
  · exact .inl ⟨'+', by decide, rfl⟩
  · exact .inl ⟨'?', by decide, rfl⟩
  · refine .inr ⟨decimal m ++ [','], (isBounds_decimal m).append isBounds_comma, ?_⟩
    simp [braced]
  · next n _ =>
    split
    · exact .inr ⟨decimal m, isBounds_decimal m, rfl⟩
    · split
      · exact .inr ⟨[','] ++ decimal n, isBounds_comma.append (isBounds_decimal n), rfl⟩
      · refine .inr ⟨decimal m ++ ([','] ++ decimal n),
          (isBounds_decimal m).append (isBounds_comma.append (isBounds_decimal n)), ?_⟩
        simp [braced]

def IsSign (c : Char) : Prop := c ∈ marks ∨ c ∈ ['\x7b', ',', '\x7d'] ∨ c.isDigit = true

theorem isSign_of_mem_braced {bounds : Text} (h : IsBounds bounds) {c : Char}
    (hc : c ∈ braced bounds) : IsSign c := by
  simp only [braced, List.cons_append, List.mem_cons, List.mem_append, List.not_mem_nil,
    or_false] at hc
  rcases hc with rfl | hc | rfl
  · exact .inr (.inl (by decide))
  · rcases h c hc with rfl | hdigit
    · exact .inr (.inl (by decide))
    · exact .inr (.inr hdigit)
  · exact .inr (.inl (by decide))

theorem isSign_of_mem_render {q : Quantifier} {c : Char} (hc : c ∈ q.render) : IsSign c := by
  unfold render at hc
  split at hc
  · exact absurd hc List.not_mem_nil
  · rcases List.mem_append.mp hc with hc | hc
    · rcases sign_shape q.min q.max with ⟨mark, hmark, hsign⟩ | ⟨bounds, hbounds, hsign⟩
      · rw [hsign, List.mem_singleton] at hc
        exact .inl (hc ▸ hmark)
      · rw [hsign] at hc
        exact isSign_of_mem_braced hbounds hc
    · split at hc
      · obtain rfl := List.mem_singleton.mp hc
        exact .inl (by decide)
      · exact absurd hc List.not_mem_nil

theorem readCount?_decimal {n : Nat} (h : 1 ≤ n) (hn : n ≤ largestCount) :
    readCount? (decimal n) = some n := by
  have hdigits : (decimal n).all Char.isDigit = true :=
    List.all_eq_true.mpr fun _ hc => isDigit_of_mem_decimal hc
  rw [readCount?, if_pos ⟨decimal_ne_nil n, head?_decimal_ne_zero h, hdigits⟩,
    ofDigitChars_decimal, if_pos hn]

theorem read?_braced (bounds : Text) : read? (braced bounds) = readBounds? bounds := by
  simp [braced, read?]

theorem readBounds?_atLeast {m : Nat} (h : 2 ≤ m) (hm : m ≤ largestCount) :
    readBounds? (decimal m ++ [',']) = some (atLeast m) := by
  unfold readBounds?
  simp only [takeWhile_decimal, dropWhile_decimal, readCount?_decimal (by omega) hm,
    Option.bind_eq_bind, Option.bind_some, if_pos h]

theorem readBounds?_exactly {n : Nat} (h : 2 ≤ n) (hn : n ≤ largestCount) :
    readBounds? (decimal n) = some (exactly n) := by
  have hall := ne_of_notMem (comma_notMem_decimal n)
  have htake : (decimal n).takeWhile (· ≠ ',') = decimal n := List.takeWhile_eq_self_iff.mpr hall
  have hdrop : (decimal n).dropWhile (· ≠ ',') = [] := List.dropWhile_eq_nil_iff.mpr hall
  unfold readBounds?
  simp only [htake, hdrop, readCount?_decimal (by omega) hn, Option.bind_eq_bind,
    Option.bind_some, if_pos h]

theorem readBounds?_atMost {n : Nat} (h : 2 ≤ n) (hn : n ≤ largestCount) :
    readBounds? (',' :: decimal n) = some (atMost n) := by
  obtain ⟨d, ds, hd⟩ := List.exists_cons_of_ne_nil (decimal_ne_nil n)
  have hcount := readCount?_decimal (by omega) hn
  rw [hd] at hcount ⊢
  simp [readBounds?, hcount, h]

theorem readBounds?_between {m n : Nat} (hm : 1 ≤ m) (h : m < n) (hn : n ≤ largestCount) :
    readBounds? (decimal m ++ ',' :: decimal n) = some (between m n) := by
  have hupper := readCount?_decimal (by omega) hn
  have hlower := readCount?_decimal hm (by omega)
  obtain ⟨d, ds, hd⟩ := List.exists_cons_of_ne_nil (decimal_ne_nil n)
  unfold readBounds?
  rw [hd] at hupper ⊢
  simp only [takeWhile_decimal, dropWhile_decimal, hupper, hlower, decimal_ne_nil,
    Option.bind_eq_bind, Option.bind_some, if_neg, if_pos h, not_false_eq_true]

/-- The bounds fit and are in order, and only the two open ones are lazy. -/
structure Normal (q : Quantifier) : Prop where
  open_of_lazy : q.lazy = true → q.max = none ∧ q.min ≤ 1
  min_le : q.min ≤ largestCount
  max_bounds : ∀ n, q.max = some n → 1 ≤ n ∧ q.min ≤ n ∧ n ≤ largestCount

inductive Form : Quantifier → Prop
  | once : Form once
  | zeroOrMore : Form zeroOrMore
  | zeroOrMoreLazy : Form zeroOrMore.asLazy
  | oneOrMore : Form oneOrMore
  | oneOrMoreLazy : Form oneOrMore.asLazy
  | optional : Form optional
  | exactly {n : Nat} (h : 2 ≤ n) (hn : n ≤ largestCount) : Form (exactly n)
  | atLeast {m : Nat} (h : 2 ≤ m) (hm : m ≤ largestCount) : Form (atLeast m)
  | atMost {n : Nat} (h : 2 ≤ n) (hn : n ≤ largestCount) : Form (atMost n)
  | between {m n : Nat} (hm : 1 ≤ m) (h : m < n) (hn : n ≤ largestCount) : Form (between m n)

theorem Normal.form {q : Quantifier} (h : q.Normal) : q.Form := by
  obtain ⟨m, max, lazy⟩ := q
  obtain ⟨hlazy, hm, hmax⟩ := h
  cases max with
  | none =>
    by_cases h2 : 2 ≤ m
    · have heager : lazy = false := by
        cases lazy with
        | false => rfl
        | true => exact absurd (hlazy rfl).2 (by simp; omega)
      subst heager
      exact .atLeast h2 hm
    · obtain rfl | rfl : m = 0 ∨ m = 1 := by omega
      · cases lazy with
        | false => exact .zeroOrMore
        | true => exact .zeroOrMoreLazy
      · cases lazy with
        | false => exact .oneOrMore
        | true => exact .oneOrMoreLazy
  | some n =>
    have heager : lazy = false := by
      cases lazy with
      | false => rfl
      | true => exact absurd (hlazy rfl).1 (by simp)
    subst heager
    obtain ⟨hpositive, hle, hn⟩ : 1 ≤ n ∧ m ≤ n ∧ n ≤ largestCount := hmax n rfl
    by_cases hone : n = 1
    · subst hone
      obtain rfl | rfl : m = 0 ∨ m = 1 := by omega
      · exact .optional
      · exact .once
    · rcases Nat.lt_or_eq_of_le hle with hlt | heq
      · by_cases hzero : m = 0
        · subst hzero
          exact .atMost (by omega) hn
        · exact .between (by omega) hlt hn
      · subst heq
        exact .exactly (by omega) hn

theorem render_exactly {n : Nat} (h : 2 ≤ n) : (exactly n).render = braced (decimal n) := by
  have hmany : n ≠ 1 := by omega
  simp [render, exactly, sign_exactly h, hmany]

theorem render_atLeast {m : Nat} (h : 2 ≤ m) :
    (atLeast m).render = braced (decimal m ++ [',']) := by
  simp [render, atLeast, sign_atLeast h]

theorem render_atMost {n : Nat} (h : 2 ≤ n) : (atMost n).render = braced (',' :: decimal n) := by
  simp [render, atMost, sign_atMost h]

theorem render_between {m n : Nat} (hm : 1 ≤ m) (h : m < n) :
    (between m n).render = braced (decimal m ++ ',' :: decimal n) := by
  have hmany : ¬(m = 1 ∧ n = 1) := by omega
  simp [render, between, sign_between hm h, hmany]

theorem Form.read?_render {q : Quantifier} (h : q.Form) : read? q.render = some q := by
  cases h with
  | once | zeroOrMore | zeroOrMoreLazy | oneOrMore | oneOrMoreLazy | optional => rfl
  | exactly h hn => rw [render_exactly h, read?_braced, readBounds?_exactly h hn]
  | atLeast h hm => rw [render_atLeast h, read?_braced, readBounds?_atLeast h hm]
  | atMost h hn => rw [render_atMost h, read?_braced, readBounds?_atMost h hn]
  | between hm h hn => rw [render_between hm h, read?_braced, readBounds?_between hm h hn]

theorem read?_render {q : Quantifier} (h : q.Normal) : read? q.render = some q :=
  h.form.read?_render

end Quantifier
end PatternBuilder

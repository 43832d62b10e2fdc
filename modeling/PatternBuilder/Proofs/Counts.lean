import Mathlib.Order.Bounds.Basic
import PatternBuilder.Proofs.QuantifierLanguage

/-!
# How often an element occurs

A repetition asks for a set of counts, and so does a quantifier. What a repetition is granted allows
the counts that it asks for and no others. Since the bounds of a normal quantifier are the least and
the greatest of its counts, two repetitions that ask for the same are granted the same quantifier,
and two that ask for different counts are not. The main statement is `Repetition.eq_iff_counts_eq`.
-/
namespace PatternBuilder

namespace Quantifier

def counts (q : Quantifier) : Set ℕ := {k | q.min ≤ k ∧ ∀ n, q.max = some n → k ≤ n}

theorem mem_counts_atLeast {m k : ℕ} : k ∈ (atLeast m).counts ↔ m ≤ k :=
  ⟨And.left, fun h => ⟨h, nofun⟩⟩

theorem mem_counts_between {m n k : ℕ} : k ∈ (between m n).counts ↔ m ≤ k ∧ k ≤ n := by
  constructor
  · rintro ⟨hmin, hmax⟩
    exact ⟨hmin, hmax n rfl⟩
  · rintro ⟨hmin, hmax⟩
    refine ⟨hmin, ?_⟩
    rintro _ ⟨⟩
    exact hmax

theorem isLeast_min {q : Quantifier} (h : q.Normal) : IsLeast q.counts q.min := by
  constructor
  · exact ⟨Nat.le_refl _, fun n hn => (h.max_bounds n hn).2.1⟩
  · intro k hk
    exact hk.1

theorem max_eq_some_iff {q : Quantifier} (h : q.Normal) {n : ℕ} :
    q.max = some n ↔ IsGreatest q.counts n := by
  have hgreatest : ∀ k, q.max = some k → IsGreatest q.counts k := by
    intro k hk
    constructor
    · refine ⟨(h.max_bounds k hk).2.1, fun j hj => ?_⟩
      rw [hk] at hj
      exact Nat.le_of_eq (Option.some.inj hj)
    · intro j hj
      exact hj.2 k hk
  constructor
  · exact hgreatest n
  · intro hn
    cases hmax : q.max with
    | none =>
      -- Without a maximum the next count is allowed as well.
      have hmore : n + 1 ∈ q.counts := by
        refine ⟨Nat.le_succ_of_le hn.1.1, fun j hj => ?_⟩
        rw [hmax] at hj
        contradiction
      exact absurd (hn.2 hmore) (Nat.not_succ_le_self n)
    | some k => exact congrArg some ((hgreatest k hmax).unique hn)

theorem Normal.eq_of_counts_eq {q r : Quantifier} (hq : q.Normal) (hr : r.Normal)
    (hcounts : q.counts = r.counts) (hlazy : q.lazy = r.lazy) : q = r := by
  have hmin : q.min = r.min := by
    have hleast := isLeast_min hr
    rw [← hcounts] at hleast
    exact (isLeast_min hq).unique hleast
  have hmax : q.max = r.max := by
    apply Option.ext
    intro n
    rw [max_eq_some_iff hq, max_eq_some_iff hr, hcounts]
  cases q
  cases r
  cases hmin
  cases hmax
  cases hlazy
  rfl

end Quantifier

namespace Repetition
open Checked Quantifier

def counts : Repetition → Set ℕ
  | .once | .byDefault => {1}
  | .zeroOrMore | .zeroOrMoreLazy => Set.univ
  | .oneOrMore | .oneOrMoreLazy => {k | 1 ≤ k}
  | .optional => {0, 1}
  | .exactly count => {k | (k : ℤ) = count.toInt}
  | .atLeast count => {k | count.toInt ≤ k}
  | .atMost count => {k | (k : ℤ) ≤ count.toInt}
  | .range lower upper => {k | lower.toInt ≤ k ∧ (k : ℤ) ≤ upper.toInt}

def isLazy : Repetition → Bool
  | .zeroOrMoreLazy | .oneOrMoreLazy => true
  | _ => false

theorem mem_counts_of_ok {times : Repetition} {q : Quantifier}
    (h : times.quantifier.result = .ok q) (k : ℕ) : k ∈ times.counts ↔ k ∈ q.counts := by
  cases times with
  | once | byDefault =>
    obtain rfl := pure_ok_iff.mp h
    refine Iff.trans ?_ (mem_counts_between (m := 1) (n := 1)).symm
    rw [counts, Set.mem_singleton_iff]
    omega
  | zeroOrMore | zeroOrMoreLazy =>
    obtain rfl := pure_ok_iff.mp h
    exact iff_of_true (Set.mem_univ k) ⟨Nat.zero_le k, nofun⟩
  | oneOrMore | oneOrMoreLazy =>
    obtain rfl := pure_ok_iff.mp h
    exact ⟨fun hk => ⟨hk, nofun⟩, And.left⟩
  | optional =>
    obtain rfl := pure_ok_iff.mp h
    refine Iff.trans ?_ (mem_counts_between (m := 0) (n := 1)).symm
    rw [counts, Set.mem_insert_iff, Set.mem_singleton_iff]
    omega
  | exactly count =>
    obtain ⟨n, _, hn, rfl⟩ := exactCount_ok_iff.mp h
    refine Iff.trans ?_ (mem_counts_between (m := n) (n := n)).symm
    rw [counts, Set.mem_ofPred_eq]
    omega
  | atLeast count =>
    obtain ⟨m, hm, hq⟩ := bind_ok_iff.mp h
    obtain rfl := pure_ok_iff.mp hq
    rw [nonNegative_ok_iff] at hm
    rw [counts, Set.mem_ofPred_eq, mem_counts_atLeast]
    omega
  | atMost count =>
    obtain ⟨n, hn, hq⟩ := bind_ok_iff.mp h
    obtain rfl := pure_ok_iff.mp hq
    rw [positive_ok_iff] at hn
    refine Iff.trans ?_ (mem_counts_between (m := 0) (n := n)).symm
    rw [counts, Set.mem_ofPred_eq]
    omega
  | range lower upper =>
    obtain ⟨m, n, hm, hn, _, _, rfl⟩ := boundedCount_ok_iff.mp h
    rw [counts, Set.mem_ofPred_eq, mem_counts_between]
    omega

theorem isLazy_of_ok {times : Repetition} {q : Quantifier}
    (h : times.quantifier.result = .ok q) : times.isLazy = q.lazy := by
  cases times with
  | once | byDefault | zeroOrMore | zeroOrMoreLazy | oneOrMore | oneOrMoreLazy | optional =>
    obtain rfl := pure_ok_iff.mp h
    rfl
  | exactly count =>
    obtain ⟨n, _, _, rfl⟩ := exactCount_ok_iff.mp h
    rfl
  | atLeast count | atMost count =>
    obtain ⟨n, _, hq⟩ := bind_ok_iff.mp h
    obtain rfl := pure_ok_iff.mp hq
    rfl
  | range lower upper =>
    obtain ⟨m, n, _, _, _, _, rfl⟩ := boundedCount_ok_iff.mp h
    rfl

/-- Two repetitions that are granted have one quantifier, and one text, when they ask for the same
counts with the same laziness, and only then. Its bounds are in order and fit. -/
theorem eq_iff_counts_eq {a b : Repetition} {q r : Quantifier} (ha : a.quantifier.result = .ok q)
    (hb : b.quantifier.result = .ok r) :
    (q = r ↔ a.counts = b.counts ∧ a.isLazy = b.isLazy) ∧
    (q.render = r.render ↔ a.counts = b.counts ∧ a.isLazy = b.isLazy) ∧
    q.min ≤ 2147483647 ∧
    (∀ n, q.max = some n → q.min ≤ n ∧ 1 ≤ n ∧ n ≤ 2147483647) ∧
    (q.lazy = true → q.max = none ∧ (q.min = 0 ∨ q.min = 1)) := by
  have hq : q.Granted := ⟨a, ha⟩
  have hr : r.Granted := ⟨b, hb⟩
  have hqcounts : a.counts = q.counts := Set.ext (mem_counts_of_ok ha)
  have hrcounts : b.counts = r.counts := Set.ext (mem_counts_of_ok hb)
  have heq : q = r ↔ a.counts = b.counts ∧ a.isLazy = b.isLazy := by
    rw [hqcounts, hrcounts, isLazy_of_ok ha, isLazy_of_ok hb]
    constructor
    · rintro rfl
      exact ⟨rfl, rfl⟩
    · rintro ⟨hcounts, hlazy⟩
      exact hq.normal.eq_of_counts_eq hr.normal hcounts hlazy
  have hrender : q.render = r.render ↔ q = r :=
    ⟨hq.eq_of_render_eq hr, congrArg render⟩
  obtain ⟨hopen, hmin, hmax⟩ := hq.normal
  refine ⟨heq, hrender.trans heq, hmin, fun n hn => ?_, fun hlazy => ?_⟩
  · obtain ⟨hpositive, hle, hfits⟩ := hmax n hn
    exact ⟨hle, hpositive, hfits⟩
  · obtain ⟨hunbounded, hle⟩ := hopen hlazy
    exact ⟨hunbounded, by omega⟩

theorem eq_iff_counts_eq_largest :
    ((Repetition.range 0 2147483647).quantifier.result = .ok (Quantifier.atMost 2147483647) ∧
      (Repetition.atMost 2147483647).quantifier.result = .ok (Quantifier.atMost 2147483647)) ∧
    (Repetition.range 0 2147483647).counts = (Repetition.atMost 2147483647).counts := by
  have hrange : (Repetition.range 0 2147483647).quantifier.result =
      .ok (Quantifier.atMost 2147483647) := by rfl
  have hatMost : (Repetition.atMost 2147483647).quantifier.result =
      .ok (Quantifier.atMost 2147483647) := by rfl
  exact ⟨⟨hrange, hatMost⟩, ((eq_iff_counts_eq hrange hatMost).1.mp rfl).1⟩

end Repetition
end PatternBuilder

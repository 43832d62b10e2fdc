import PatternBuilder.Proofs.Verdict

/-!
# When a repetition is refused

A repetition makes demands on its counts, in a fixed order, and each demand has a rejection of its
own. The repetition is refused when some demand is broken, and the rejection is that of the first
one. So a range with equal bounds, or with a lower bound of zero, is refused as the shorter way of
asking for it would be, except that a range names the bound that is negative. The main statement is
`Repetition.refused_iff`.
-/
namespace PatternBuilder

/-- A condition on the counts of a repetition, and what is said when it does not hold. -/
structure Demand where
  broken : Bool
  rejection : Rejection

namespace Demand
open Checked

def check (q : Quantifier) : List Demand → Checked Quantifier
  | [] => pure q
  | demand :: demands =>
    if demand.broken then reject demand.rejection.parameter demand.rejection.constraint
    else check q demands

theorem result_check_eq_error_iff (q : Quantifier) (demands : List Demand) (r : Rejection) :
    (check q demands).result = .error r ↔
      (demands.find? (·.broken)).map Demand.rejection = some r := by
  induction demands with
  | nil => simp [check]
  | cons demand demands ih =>
    by_cases h : demand.broken = true
    · simp [check, reject, h]
    · simp [check, h, ih]

end Demand

namespace Repetition
open Checked Demand

def demands : Repetition → List Demand
  | .exactly count | .atMost count => [⟨count.toInt ≤ 0, ⟨"count".toList, .greaterThanZero⟩⟩]
  | .atLeast count => [⟨count.toInt < 0, ⟨"count".toList, .nonNegative⟩⟩]
  | .range min max =>
    [⟨min.toInt < 0, ⟨"min".toList, .nonNegative⟩⟩,
      ⟨max.toInt < 0, ⟨"max".toList, .nonNegative⟩⟩,
      ⟨max.toInt < min.toInt, ⟨"max".toList, .notLessThanMin⟩⟩,
      ⟨min.toInt = 0 ∧ max.toInt = 0, ⟨"count".toList, .greaterThanZero⟩⟩]
  | .once | .byDefault | .zeroOrMore | .zeroOrMoreLazy | .oneOrMore | .oneOrMoreLazy
  | .optional => []

def firstBroken? (times : Repetition) : Option Rejection :=
  (times.demands.find? (·.broken)).map Demand.rejection

theorem nonNegative_eq (parameter : Text) (count : Int32) :
    nonNegative parameter count =
      if count.toInt < 0 then reject parameter .nonNegative else pure count.toInt.toNat := by
  unfold nonNegative
  cases count.toInt with
  | ofNat n =>
    have hn : ¬Int.ofNat n < 0 := Int.not_lt.mpr (Int.natCast_nonneg n)
    rw [if_neg hn, Int.ofNat_eq_natCast, Int.toNat_natCast]
  | negSucc n => rw [if_pos (Int.negSucc_lt_zero n)]

theorem positive_eq (parameter : Text) (count : Int32) :
    positive parameter count =
      if count.toInt ≤ 0 then reject parameter .greaterThanZero else pure count.toInt.toNat := by
  unfold positive
  cases count.toInt with
  | ofNat n =>
    cases n with
    | zero => rfl
    | succ n =>
      have hn : ¬Int.ofNat (n + 1) ≤ 0 := Int.not_le.mpr (Int.natCast_pos.mpr n.succ_pos)
      rw [if_neg hn, Int.ofNat_eq_natCast, Int.toNat_natCast]
  | negSucc n => rw [if_pos (Int.le_of_lt (Int.negSucc_lt_zero n))]

theorem exactCount_eq (count : Int32) :
    exactCount count = check (Quantifier.exactly count.toInt.toNat) (exactly count).demands := by
  unfold exactCount
  rw [positive_eq]
  by_cases h : count.toInt ≤ 0
  · simp [check, demands, countName, h]
  · simp [check, demands, h]

theorem boundedCount_eq (min max : Int32) :
    boundedCount min max =
      check (Quantifier.between min.toInt.toNat max.toInt.toNat) (range min max).demands := by
  unfold boundedCount
  rw [nonNegative_eq, nonNegative_eq]
  by_cases hmin : min.toInt < 0
  · simp [check, demands, hmin]
  by_cases hmax : max.toInt < 0
  · simp [check, demands, hmin, hmax]
  simp only [if_neg hmin, if_neg hmax, Checked.pure_bind]
  by_cases hlt : max.toInt < min.toInt
  · have hbounds : max.toInt.toNat < min.toInt.toNat := by omega
    rw [if_pos hbounds]
    simp [check, demands, hmin, hmax, hlt]
  have hbounds : ¬max.toInt.toNat < min.toInt.toNat := by omega
  rw [if_neg hbounds]
  by_cases heq : min.toInt = max.toInt
  · -- The bounds are checked once more, as an exact count, and only zero fails there.
    rw [if_pos (congrArg Int.toNat heq), exactCount_eq, heq]
    by_cases hzero : max.toInt = 0
    · simp [check, demands, heq, hzero]
    · have hpositive : ¬max.toInt ≤ 0 := by omega
      simp [check, demands, heq, hmax, hzero, hpositive, Quantifier.exactly, Quantifier.between]
  · have hne : min.toInt.toNat ≠ max.toInt.toNat := by omega
    have hzero : ¬(min.toInt = 0 ∧ max.toInt = 0) := by omega
    rw [if_neg hne]
    simp [check, demands, hmin, hmax, hlt, hzero]

theorem exists_quantifier_eq (times : Repetition) :
    ∃ q, times.quantifier = check q times.demands := by
  cases times with
  | once | byDefault | zeroOrMore | zeroOrMoreLazy | oneOrMore | oneOrMoreLazy | optional =>
    exact ⟨_, rfl⟩
  | exactly count => exact ⟨_, exactCount_eq count⟩
  | atLeast count =>
    refine ⟨Quantifier.atLeast count.toInt.toNat, ?_⟩
    by_cases h : count.toInt < 0 <;>
      simp [quantifier, nonNegative_eq, check, demands, countName, h]
  | atMost count =>
    refine ⟨Quantifier.atMost count.toInt.toNat, ?_⟩
    by_cases h : count.toInt ≤ 0 <;>
      simp [quantifier, positive_eq, check, demands, countName, h]
  | range min max => exact ⟨_, boundedCount_eq min max⟩

theorem result_eq_error_iff (times : Repetition) (r : Rejection) :
    times.quantifier.result = .error r ↔ times.firstBroken? = some r := by
  obtain ⟨q, hq⟩ := times.exists_quantifier_eq
  rw [hq, result_check_eq_error_iff, firstBroken?]

theorem result_ne_of_firstBroken? {a b : Repetition} {r s : Rejection}
    (ha : a.firstBroken? = some r) (hb : b.firstBroken? = some s) (h : r ≠ s) :
    a.quantifier.result ≠ b.quantifier.result := by
  intro heq
  rw [(result_eq_error_iff a r).mpr ha, (result_eq_error_iff b s).mpr hb] at heq
  exact h (Except.error.inj heq)

theorem range_self_eq_exactly {n : Int32} (h : 0 ≤ n.toInt) :
    (range n n).quantifier = (exactly n).quantifier := by
  have hn : ¬n.toInt < 0 := by omega
  rw [quantifier, quantifier, boundedCount_eq, exactCount_eq]
  by_cases hzero : n.toInt = 0
  · simp [check, demands, hzero]
  · have hpositive : ¬n.toInt ≤ 0 := by omega
    simp [check, demands, hn, hzero, hpositive, Quantifier.exactly, Quantifier.between]

theorem range_zero_eq_atMost {n : Int32} (h : 0 ≤ n.toInt) :
    (range 0 n).quantifier = (atMost n).quantifier := by
  have hn : ¬n.toInt < 0 := by omega
  rw [quantifier, quantifier, boundedCount_eq, positive_eq]
  by_cases hzero : n.toInt = 0
  · simp [check, demands, countName, hzero]
  · have hpositive : ¬n.toInt ≤ 0 := by omega
    simp [check, demands, hn, hzero, hpositive, Quantifier.atMost, Quantifier.between]

theorem firstBroken?_of_neg {n : Int32} (h : n.toInt < 0) :
    (range n n).firstBroken? = some ⟨"min".toList, .nonNegative⟩ ∧
    (range 0 n).firstBroken? = some ⟨"max".toList, .nonNegative⟩ ∧
    (exactly n).firstBroken? = some ⟨"count".toList, .greaterThanZero⟩ ∧
    (atMost n).firstBroken? = some ⟨"count".toList, .greaterThanZero⟩ := by
  have hn : n.toInt ≤ 0 := Int.le_of_lt h
  simp [firstBroken?, demands, h, hn]

theorem exists_error_iff (times : Repetition) :
    (∃ r, times.quantifier.result = .error r) ↔ ∃ demand ∈ times.demands, demand.broken = true := by
  rw [← List.find?_isSome, Option.isSome_iff_exists]
  simp only [result_eq_error_iff, firstBroken?, Option.map_eq_some_iff]
  constructor
  · rintro ⟨_, demand, hfirst, _⟩
    exact ⟨demand, hfirst⟩
  · rintro ⟨demand, hfirst⟩
    exact ⟨_, demand, hfirst, rfl⟩

theorem lines_log (times : Repetition) :
    times.quantifier.log.map Message.line =
      times.firstBroken?.toList.map Rejection.debugLine := by
  have hlog : times.quantifier.log = times.quantifier.rejections := candid_quantifier times
  rw [hlog, rejections]
  cases h : times.quantifier.result with
  | ok q =>
    have hnone : times.firstBroken? = none := by
      rw [Option.eq_none_iff_forall_ne_some]
      intro r hr
      rw [(result_eq_error_iff times r).mpr hr] at h
      exact nomatch h
    rw [hnone]
    rfl
  | error r =>
    rw [(result_eq_error_iff times r).mp h]
    exact congrArg (fun line => [line]) (Message.line_rejected r)

/-- A repetition is refused when one of its demands is broken, with the rejection of the first that
is; that rejection is logged, once, and nothing is logged otherwise. A range with equal bounds is an
exact count, and one from zero is an upper bound, as long as the count is not negative. -/
theorem refused_iff (times : Repetition) (n : Int32) :
    (∀ r, times.quantifier.result = .error r ↔ times.firstBroken? = some r) ∧
    ((∃ r, times.quantifier.result = .error r) ↔ ∃ demand ∈ times.demands, demand.broken = true) ∧
    times.quantifier.log.map Message.line = times.firstBroken?.toList.map Rejection.debugLine ∧
    ((range n n).quantifier.agree (exactly n).quantifier = true ↔ 0 ≤ n.toInt) ∧
    ((range n n).quantifier = (exactly n).quantifier ↔ 0 ≤ n.toInt) ∧
    ((range 0 n).quantifier.agree (atMost n).quantifier = true ↔ 0 ≤ n.toInt) ∧
    ((range 0 n).quantifier = (atMost n).quantifier ↔ 0 ≤ n.toInt) := by
  refine ⟨result_eq_error_iff times, exists_error_iff times, lines_log times, ?_⟩
  simp only [agree_iff]
  by_cases hn : 0 ≤ n.toInt
  · have hexactly := range_self_eq_exactly hn
    have hatMost := range_zero_eq_atMost hn
    simp only [hexactly, hatMost, hn, and_self]
  · obtain ⟨hself, hzero, hexactly, hatMost⟩ := firstBroken?_of_neg (Int.not_le.mp hn)
    have hfirst := result_ne_of_firstBroken? hself hexactly (by decide)
    have hsecond := result_ne_of_firstBroken? hzero hatMost (by decide)
    exact ⟨iff_of_false hfirst hn, iff_of_false (fun h => hfirst (congrArg result h)) hn,
      iff_of_false hsecond hn, iff_of_false (fun h => hsecond (congrArg result h)) hn⟩

end Repetition
end PatternBuilder

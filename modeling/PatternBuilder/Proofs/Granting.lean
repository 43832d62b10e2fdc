import PatternBuilder.Proofs.QuantifierText
import PatternBuilder.Proofs.Verdict

/-!
# When a repetition is granted

A repetition is granted a quantifier when its counts lie where they must, and the bounds of the
quantifier are those counts. What is granted is normal, and each normal quantifier is what some
repetition is granted. The main statements are `Repetition.normal_of_ok` and
`Quantifier.granted_iff_form`.
-/
namespace PatternBuilder

theorem Checked.bind_ok_iff {α β : Type} {x : Checked α} {f : α → Checked β} {b : β} :
    (x >>= f).result = .ok b ↔ ∃ a, x.result = .ok a ∧ (f a).result = .ok b := by
  obtain ⟨result, log⟩ := x
  cases result with
  | error rejection => exact ⟨nofun, fun ⟨_, h, _⟩ => nomatch h⟩
  | ok a =>
    constructor
    · intro h
      exact ⟨a, rfl, h⟩
    · rintro ⟨_, ⟨⟩, h⟩
      exact h

theorem Checked.reject_ok_iff {α : Type} {parameter : Text} {constraint : Constraint} {a : α} :
    (reject parameter constraint : Checked α).result = .ok a ↔ False :=
  ⟨nofun, False.elim⟩

theorem Checked.pure_ok_iff {α : Type} {a b : α} : (pure a : Checked α).result = .ok b ↔ b = a := by
  rw [result_pure, Except.ok.injEq, eq_comm]

namespace Repetition
open Checked

theorem nonNegative_ok_iff {parameter : Text} {count : Int32} {n : Nat} :
    (nonNegative parameter count).result = .ok n ↔ (n : ℤ) = count.toInt := by
  unfold nonNegative
  split
  · next k hk => rw [pure_ok_iff, hk, Int.ofNat_eq_natCast, Int.natCast_inj]
  · next k hk =>
    rw [reject_ok_iff, hk, Int.negSucc_eq, false_iff]
    omega

theorem positive_ok_iff {parameter : Text} {count : Int32} {n : Nat} :
    (positive parameter count).result = .ok n ↔ 1 ≤ n ∧ (n : ℤ) = count.toInt := by
  unfold positive
  split
  · next k hk =>
    rw [pure_ok_iff, hk, Int.ofNat_eq_natCast, Int.natCast_inj]
    omega
  · next hk =>
    rw [reject_ok_iff, false_iff, not_and]
    intro hn heq
    obtain ⟨k, rfl⟩ := Nat.exists_eq_add_of_le' hn
    exact hk k heq.symm

theorem exactCount_ok_iff {count : Int32} {q : Quantifier} :
    (exactCount count).result = .ok q ↔
      ∃ n : Nat, 1 ≤ n ∧ (n : ℤ) = count.toInt ∧ q = Quantifier.exactly n := by
  unfold exactCount
  simp only [bind_ok_iff, positive_ok_iff, pure_ok_iff, and_assoc]

theorem boundedCount_ok_iff {min max : Int32} {q : Quantifier} :
    (boundedCount min max).result = .ok q ↔
      ∃ m n : Nat, (m : ℤ) = min.toInt ∧ (n : ℤ) = max.toInt ∧ m ≤ n ∧ 1 ≤ n ∧
        q = Quantifier.between m n := by
  unfold boundedCount
  simp only [bind_ok_iff, nonNegative_ok_iff]
  constructor
  · rintro ⟨m, hm, n, hn, h⟩
    refine ⟨m, n, hm, hn, ?_⟩
    split at h
    · exact (reject_ok_iff.mp h).elim
    · next hle =>
      split at h
      · next heq =>
        obtain ⟨k, hk, hcount, rfl⟩ := exactCount_ok_iff.mp h
        obtain rfl : k = m := by omega
        subst heq
        exact ⟨Nat.le_refl k, hk, rfl⟩
      · next hne =>
        exact ⟨by omega, by omega, pure_ok_iff.mp h⟩
  · rintro ⟨m, n, hm, hn, hle, hpositive, rfl⟩
    refine ⟨m, hm, n, hn, ?_⟩
    rw [if_neg (by omega)]
    split
    · next heq =>
      subst heq
      exact exactCount_ok_iff.mpr ⟨m, hpositive, hm, rfl⟩
    · rfl

theorem exists_toInt_eq {n : Nat} (h : n ≤ Quantifier.largestCount) :
    ∃ count : Int32, count.toInt = n :=
  ⟨Int32.ofNat n, Int32.toInt_ofNat_of_lt (Nat.lt_succ_of_le h)⟩

theorem le_largestCount {n : Nat} {count : Int32} (h : (n : ℤ) = count.toInt) :
    n ≤ Quantifier.largestCount := by
  have hcount := count.toInt_lt
  rw [Quantifier.largestCount]
  omega

end Repetition

namespace Quantifier
open Repetition Checked

theorem normal_atLeast {m : Nat} (h : m ≤ largestCount) : (atLeast m).Normal where
  open_of_lazy := nofun
  min_le := h
  max_bounds := nofun

theorem normal_asLazy {m : Nat} (h : m ≤ 1) : (atLeast m).asLazy.Normal where
  open_of_lazy _ := ⟨rfl, h⟩
  min_le := Nat.le_trans h (by decide)
  max_bounds := nofun

theorem normal_between {m n : Nat} (hn : 1 ≤ n) (h : m ≤ n) (hle : n ≤ largestCount) :
    (between m n).Normal where
  open_of_lazy := nofun
  min_le := Nat.le_trans h hle
  max_bounds := by
    rintro _ ⟨⟩
    exact ⟨hn, h, hle⟩

/-- Some repetition is granted this quantifier. -/
def Granted (q : Quantifier) : Prop := ∃ times : Repetition, times.quantifier.result = .ok q

theorem Granted.normal {q : Quantifier} (h : q.Granted) : q.Normal := by
  obtain ⟨times, hq⟩ := h
  cases times with
  | once | byDefault =>
    obtain rfl := pure_ok_iff.mp hq
    exact normal_between (Nat.le_refl 1) (Nat.le_refl 1) (by decide)
  | zeroOrMore | oneOrMore =>
    obtain rfl := pure_ok_iff.mp hq
    exact normal_atLeast (by decide)
  | zeroOrMoreLazy | oneOrMoreLazy =>
    obtain rfl := pure_ok_iff.mp hq
    exact normal_asLazy (by decide)
  | optional =>
    obtain rfl := pure_ok_iff.mp hq
    exact normal_between (Nat.le_refl 1) (Nat.zero_le 1) (by decide)
  | exactly count =>
    obtain ⟨n, hpositive, hn, rfl⟩ := exactCount_ok_iff.mp hq
    exact normal_between hpositive (Nat.le_refl n) (le_largestCount hn)
  | atLeast count =>
    obtain ⟨m, hm, hpure⟩ := bind_ok_iff.mp hq
    obtain rfl := pure_ok_iff.mp hpure
    exact normal_atLeast (le_largestCount (nonNegative_ok_iff.mp hm))
  | atMost count =>
    obtain ⟨n, hn, hpure⟩ := bind_ok_iff.mp hq
    obtain rfl := pure_ok_iff.mp hpure
    obtain ⟨hpositive, heq⟩ := positive_ok_iff.mp hn
    exact normal_between hpositive (Nat.zero_le n) (le_largestCount heq)
  | range lower upper =>
    obtain ⟨m, n, _, hn, hle, hpositive, rfl⟩ := boundedCount_ok_iff.mp hq
    exact normal_between hpositive hle (le_largestCount hn)

theorem Form.granted {q : Quantifier} (h : q.Form) : q.Granted := by
  cases h with
  | once => exact ⟨.once, rfl⟩
  | zeroOrMore => exact ⟨.zeroOrMore, rfl⟩
  | zeroOrMoreLazy => exact ⟨.zeroOrMoreLazy, rfl⟩
  | oneOrMore => exact ⟨.oneOrMore, rfl⟩
  | oneOrMoreLazy => exact ⟨.oneOrMoreLazy, rfl⟩
  | optional => exact ⟨.optional, rfl⟩
  | @exactly n h hn =>
    obtain ⟨count, hcount⟩ := exists_toInt_eq hn
    exact ⟨.exactly count, exactCount_ok_iff.mpr ⟨n, by omega, hcount.symm, rfl⟩⟩
  | @atLeast m h hm =>
    obtain ⟨count, hcount⟩ := exists_toInt_eq hm
    exact ⟨.atLeast count, bind_ok_iff.mpr ⟨m, nonNegative_ok_iff.mpr hcount.symm, rfl⟩⟩
  | @atMost n h hn =>
    obtain ⟨count, hcount⟩ := exists_toInt_eq hn
    exact ⟨.atMost count,
      bind_ok_iff.mpr ⟨n, positive_ok_iff.mpr ⟨by omega, hcount.symm⟩, rfl⟩⟩
  | @between m n hm h hn =>
    obtain ⟨lower, hlower⟩ := exists_toInt_eq (n := m) (by omega)
    obtain ⟨upper, hupper⟩ := exists_toInt_eq hn
    exact ⟨.range lower upper, boundedCount_ok_iff.mpr
      ⟨m, n, hlower.symm, hupper.symm, by omega, by omega, rfl⟩⟩

theorem granted_iff_form {q : Quantifier} : q.Granted ↔ q.Form :=
  ⟨fun h => h.normal.form, Form.granted⟩

end Quantifier

theorem Repetition.normal_of_ok {times : Option Repetition} {q : Quantifier}
    (h : verdict times = .ok q) : q.Normal := by
  cases times with
  | none =>
    obtain rfl := Except.ok.inj h
    exact Quantifier.Form.once.granted.normal
  | some times => exact Quantifier.Granted.normal ⟨times, h⟩

end PatternBuilder

import Mathlib.Data.List.Basic
import Mathlib.Data.List.Induction
import Mathlib.Data.Set.Function
import PatternBuilder.Proofs.Granting

/-!
# The language of quantifiers

The words are the empty text, the marks and lazy marks, and the counts between braces, in decimal
with no zero in front. Writing is one-to-one between the quantifiers that can be granted and these
words, and reading is its inverse: it takes a word back to its quantifier and refuses any other
text. The main statement is `Quantifier.bijOn_render`.
-/
namespace PatternBuilder
namespace Text

/-- Digits of a number with no zero in front. -/
structure Numeral (digits : Text) (n : Nat) : Prop where
  isDigit : ∀ c ∈ digits, c.isDigit = true
  head_ne_zero : digits.head? ≠ some '0'
  value : Nat.ofDigitChars 10 digits 0 = n

theorem numeral_decimal {n : Nat} (h : 1 ≤ n) : Numeral (decimal n) n where
  isDigit _ := isDigit_of_mem_decimal
  head_ne_zero := head?_decimal_ne_zero h
  value := ofDigitChars_decimal n

theorem exists_digitChar {c : Char} (h : c.isDigit = true) :
    ∃ k < 10, c = Nat.digitChar k ∧ c.toNat - '0'.toNat = k := by
  have hbounds : 48 ≤ c.toNat ∧ c.toNat ≤ 57 := Char.isDigit_iff_toNat.mp h
  have hk : c.toNat - 48 < 10 := by omega
  refine ⟨c.toNat - 48, hk, Char.toNat_inj.mp ?_, rfl⟩
  rw [Nat.toNat_digitChar_of_lt_ten hk]
  omega

theorem Numeral.eq_decimal {digits : Text} {n : Nat} (h : Numeral digits n) (hne : digits ≠ []) :
    1 ≤ n ∧ digits = decimal n := by
  -- From the last digit on, as a decimal ends in the remainder by ten.
  induction digits using List.reverseRecOn generalizing n with
  | nil => exact absurd rfl hne
  | append_singleton front c ih =>
    obtain ⟨hdigits, hhead, hvalue⟩ := h
    obtain ⟨k, hk, rfl, hdigit⟩ := exists_digitChar (hdigits c (by simp))
    rw [Nat.ofDigitChars_append, Nat.ofDigitChars_cons, Nat.ofDigitChars_nil, hdigit] at hvalue
    by_cases hfront : front = []
    · subst hfront
      have hzero : k ≠ 0 := by
        rintro rfl
        exact hhead rfl
      obtain rfl : k = n := by simpa using hvalue
      exact ⟨by omega, (Nat.toDigits_of_lt_base hk).symm⟩
    · have hfrontHead : front.head? ≠ some '0' := by
        obtain ⟨d, rest, hd⟩ := List.exists_cons_of_ne_nil hfront
        rw [hd] at hhead ⊢
        exact hhead
      obtain ⟨hpositive, hdecimal⟩ :=
        ih ⟨fun d hd => hdigits d (by simp [hd]), hfrontHead, rfl⟩ hfront
      have hdiv : n / 10 = Nat.ofDigitChars 10 front 0 := by omega
      have hmod : n % 10 = k := by omega
      refine ⟨by omega, ?_⟩
      rw [decimal, Nat.toDigits_of_base_le (by decide) (by omega), hdiv, hmod]
      exact congrArg (· ++ [Nat.digitChar k]) hdecimal

theorem Numeral.eq_decimal_of_le {digits : Text} {n k : Nat} (h : Numeral digits n) (hk : 1 ≤ k)
    (hn : k ≤ n) : digits = decimal n := by
  refine (h.eq_decimal ?_).2
  rintro rfl
  have hzero : 0 = n := h.value
  omega

end Text

namespace Quantifier
open Text

inductive Word : Text → Prop
  | nothing : Word []
  | star : Word ['*']
  | plus : Word ['+']
  | mark : Word ['?']
  | lazyStar : Word ['*', '?']
  | lazyPlus : Word ['+', '?']
  | exactly {digits : Text} {n : Nat} :
    Numeral digits n → 2 ≤ n → n ≤ 2147483647 → Word ('\x7b' :: digits ++ ['\x7d'])
  | atLeast {digits : Text} {n : Nat} :
    Numeral digits n → 2 ≤ n → n ≤ 2147483647 → Word ('\x7b' :: digits ++ [',', '\x7d'])
  | atMost {digits : Text} {n : Nat} :
    Numeral digits n → 2 ≤ n → n ≤ 2147483647 → Word ('\x7b' :: ',' :: digits ++ ['\x7d'])
  | between {lower upper : Text} {m n : Nat} :
    Numeral lower m → Numeral upper n → 1 ≤ m → m < n → n ≤ 2147483647 →
      Word ('\x7b' :: lower ++ ',' :: upper ++ ['\x7d'])

theorem Form.word {q : Quantifier} (h : q.Form) : Word q.render := by
  cases h with
  | once => exact .nothing
  | zeroOrMore => exact .star
  | zeroOrMoreLazy => exact .lazyStar
  | oneOrMore => exact .plus
  | oneOrMoreLazy => exact .lazyPlus
  | optional => exact .mark
  | exactly h hn =>
    rw [render_exactly h]
    exact .exactly (numeral_decimal (by omega)) h hn
  | atLeast h hm =>
    rw [render_atLeast h, braced, List.cons_append, List.append_assoc]
    exact .atLeast (numeral_decimal (by omega)) h hm
  | atMost h hn =>
    rw [render_atMost h]
    exact .atMost (numeral_decimal (by omega)) h hn
  | between hm h hn =>
    rw [render_between hm h]
    exact .between (numeral_decimal hm) (numeral_decimal (by omega)) hm h hn

theorem Word.exists_form {text : Text} (h : Word text) :
    ∃ q : Quantifier, q.Form ∧ q.render = text := by
  cases h with
  | nothing => exact ⟨_, .once, rfl⟩
  | star => exact ⟨_, .zeroOrMore, rfl⟩
  | plus => exact ⟨_, .oneOrMore, rfl⟩
  | mark => exact ⟨_, .optional, rfl⟩
  | lazyStar => exact ⟨_, .zeroOrMoreLazy, rfl⟩
  | lazyPlus => exact ⟨_, .oneOrMoreLazy, rfl⟩
  | exactly hdigits h hn =>
    obtain rfl := hdigits.eq_decimal_of_le (by decide) h
    exact ⟨_, .exactly h hn, render_exactly h⟩
  | atLeast hdigits h hn =>
    obtain rfl := hdigits.eq_decimal_of_le (by decide) h
    refine ⟨_, .atLeast h hn, ?_⟩
    rw [render_atLeast h, braced, List.cons_append, List.append_assoc]
    rfl
  | atMost hdigits h hn =>
    obtain rfl := hdigits.eq_decimal_of_le (by decide) h
    exact ⟨_, .atMost h hn, render_atMost h⟩
  | between hlower hupper hm h hn =>
    obtain rfl := hlower.eq_decimal_of_le (by decide) hm
    obtain rfl := hupper.eq_decimal_of_le (by decide) (Nat.le_trans hm (Nat.le_of_lt h))
    exact ⟨_, .between hm h hn, render_between hm h⟩

theorem readCount?_eq_some_iff {digits : Text} {n : Nat} :
    readCount? digits = some n ↔ 1 ≤ n ∧ n ≤ largestCount ∧ digits = decimal n := by
  constructor
  · intro h
    unfold readCount? at h
    split at h
    · next hdigits =>
      obtain ⟨hne, hhead, hall⟩ := hdigits
      simp only [Option.ite_none_right_eq_some, Option.some.injEq] at h
      obtain ⟨hle, hvalue⟩ := h
      have hnumeral : Numeral digits n := ⟨List.all_eq_true.mp hall, hhead, hvalue⟩
      obtain ⟨hpositive, hdecimal⟩ := hnumeral.eq_decimal hne
      exact ⟨hpositive, hvalue ▸ hle, hdecimal⟩
    · contradiction
  · rintro ⟨hpositive, hle, rfl⟩
    exact readCount?_decimal hpositive hle

theorem of_bind_readCount? {digits : Text} {fits : Nat → Prop} [DecidablePred fits]
    {form : Nat → Quantifier} {q : Quantifier}
    (h : ((readCount? digits).bind fun n => if fits n then some (form n) else none) = some q) :
    ∃ n, 1 ≤ n ∧ n ≤ largestCount ∧ digits = decimal n ∧ fits n ∧ form n = q := by
  obtain ⟨n, hn, hform⟩ := Option.bind_eq_some_iff.mp h
  obtain ⟨hpositive, hle, hdigits⟩ := readCount?_eq_some_iff.mp hn
  obtain ⟨hfits, hq⟩ := Option.ite_none_right_eq_some.mp hform
  exact ⟨n, hpositive, hle, hdigits, hfits, Option.some.inj hq⟩

theorem form_of_readBounds? {bounds : Text} {q : Quantifier} (h : readBounds? bounds = some q) :
    q.Form ∧ q.render = braced bounds := by
  have hsplit := List.takeWhile_append_dropWhile (p := (· ≠ ',')) (l := bounds)
  have hcomma : ∀ c rest, bounds.dropWhile (· ≠ ',') = c :: rest → c = ',' := by
    intro c rest hrest
    have hhead := List.head?_dropWhile_not (· ≠ ',') bounds
    rw [hrest] at hhead
    simpa using hhead
  unfold readBounds? at h
  simp only [Option.bind_eq_bind] at h
  split at h
  · next hrest =>
    obtain ⟨n, _, hle, hlower, h2, rfl⟩ := of_bind_readCount? h
    rw [hrest, List.append_nil, hlower] at hsplit
    exact ⟨.exactly h2 hle, hsplit ▸ render_exactly h2⟩
  · next c hrest =>
    obtain ⟨m, _, hle, hlower, h2, rfl⟩ := of_bind_readCount? h
    rw [hrest, hcomma _ _ hrest, hlower] at hsplit
    exact ⟨.atLeast h2 hle, hsplit ▸ render_atLeast h2⟩
  · next c upper _ hrest =>
    obtain ⟨n, hn, hlower⟩ := Option.bind_eq_some_iff.mp h
    obtain ⟨_, hle, hupper⟩ := readCount?_eq_some_iff.mp hn
    rw [hrest, hcomma _ _ hrest, hupper] at hsplit
    split at hlower
    · next hempty =>
      obtain ⟨h2, hq⟩ := Option.ite_none_right_eq_some.mp hlower
      obtain rfl := Option.some.inj hq
      rw [hempty, List.nil_append] at hsplit
      exact ⟨.atMost h2 hle, hsplit ▸ render_atMost h2⟩
    · obtain ⟨m, hpositive, _, hdecimal, hlt, rfl⟩ := of_bind_readCount? hlower
      rw [hdecimal] at hsplit
      exact ⟨.between hpositive hlt hle, hsplit ▸ render_between hpositive hlt⟩

theorem form_of_read? {text : Text} {q : Quantifier} (h : read? text = some q) :
    q.Form ∧ q.render = text := by
  unfold read? at h
  split at h
  case h_1 =>
    obtain rfl := Option.some.inj h
    exact ⟨.once, rfl⟩
  case h_2 =>
    obtain rfl := Option.some.inj h
    exact ⟨.zeroOrMore, rfl⟩
  case h_3 =>
    obtain rfl := Option.some.inj h
    exact ⟨.zeroOrMoreLazy, rfl⟩
  case h_4 =>
    obtain rfl := Option.some.inj h
    exact ⟨.oneOrMore, rfl⟩
  case h_5 =>
    obtain rfl := Option.some.inj h
    exact ⟨.oneOrMoreLazy, rfl⟩
  case h_6 =>
    obtain rfl := Option.some.inj h
    exact ⟨.optional, rfl⟩
  case h_7 rest =>
    obtain ⟨hlast, hbounds⟩ := Option.ite_none_right_eq_some.mp h
    obtain ⟨hform, hrender⟩ := form_of_readBounds? hbounds
    refine ⟨hform, ?_⟩
    rw [hrender, braced, List.cons_append, List.dropLast_append_getLast? _ hlast]
  case h_8 => contradiction

theorem read?_eq_some_iff {text : Text} {q : Quantifier} :
    read? text = some q ↔ q.Granted ∧ q.render = text := by
  rw [granted_iff_form]
  constructor
  · exact form_of_read?
  · rintro ⟨hform, rfl⟩
    exact hform.read?_render

theorem Granted.eq_of_render_eq {q r : Quantifier} (hq : q.Granted) (hr : r.Granted)
    (h : q.render = r.render) : q = r := by
  have hread := read?_eq_some_iff.mpr ⟨hq, h⟩
  rw [read?_render hr.normal] at hread
  exact (Option.some.inj hread).symm

/-- Writing is one-to-one from the quantifiers that can be granted onto the words, reading undoes it
and knows nothing else, and the one that is not written is a single occurrence. -/
theorem bijOn_render :
    Set.BijOn render {q | q.Granted} {text | Word text} ∧
    (∀ text q, read? text = some q ↔ q.Granted ∧ q.render = text) ∧
    (∀ q : {q : Quantifier // q.Granted}, q.val.isOnce = true ↔ q.val.render = []) := by
  refine ⟨⟨?_, ?_, ?_⟩, fun _ _ => read?_eq_some_iff, ?_⟩
  · intro q hq
    exact (granted_iff_form.mp hq).word
  · intro q hq r hr h
    exact Granted.eq_of_render_eq hq hr h
  · intro text htext
    obtain ⟨q, hform, hrender⟩ := Word.exists_form htext
    exact ⟨q, hform.granted, hrender⟩
  · rintro ⟨q, hq⟩
    have honce : Granted once := Form.once.granted
    constructor
    · intro h
      obtain rfl : q = once := by simpa [isOnce] using h
      rfl
    · intro h
      obtain rfl := hq.eq_of_render_eq honce h
      rfl

end Quantifier
end PatternBuilder

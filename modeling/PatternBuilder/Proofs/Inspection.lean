import PatternBuilder.Pattern
import PatternBuilder.Proofs.QuantifierText

/-!
# What the forms field by field tell

A quoted text is read back a character at a time, whichever characters count as plain, and the
reader stops behind the closing quote. So the form of a value field by field tells the value, for
quantifiers and for classes. The main statements are `Text.unquote?_quoteWith` and
`CharacterClass.inspect_inj`.
-/
namespace PatternBuilder

namespace Text

def hexDigitValue (c : Char) : Nat :=
  if c.isDigit then c.toNat - '0'.toNat else c.toNat - 'a'.toNat + 10

def ofHexDigits (n : Nat) (digits : Text) : Nat :=
  digits.foldl (fun value c => 16 * value + hexDigitValue c) n

theorem ofHexDigits_concat (n : Nat) (digits : Text) (c : Char) :
    ofHexDigits n (digits ++ [c]) = 16 * ofHexDigits n digits + hexDigitValue c := by
  rw [ofHexDigits, List.foldl_append, ofHexDigits]
  rfl

theorem ofHexDigits_hexadecimal (n : Nat) : ofHexDigits 0 (hexadecimal n) = n := by
  have hdigit : ∀ k < 16, hexDigitValue (Nat.digitChar k) = k := by decide
  induction n using Nat.strongRecOn with
  | ind n ih =>
    rw [hexadecimal]
    by_cases hn : n < 16
    · rw [Nat.toDigits_of_lt_base hn, ← List.nil_append [_], ofHexDigits_concat, hdigit n hn]
      exact Nat.zero_add n
    · have hfront : ofHexDigits 0 (Nat.toDigits 16 (n / 16)) = n / 16 := ih (n / 16) (by omega)
      have hlast : n % 16 < 16 := Nat.mod_lt n (by decide)
      rw [Nat.toDigits_of_base_le (by decide) (by omega), ofHexDigits_concat, hfront,
        hdigit _ hlast]
      omega

/-- Where a reader of quoted text is: between characters, after a backslash, after `\u`, or within
the braces behind that, with the number read so far. -/
inductive QuotePlace
  | between
  | escape
  | marked
  | digits (n : Nat)

def unescapeName? (c : Char) : Option Char :=
  if c = '"' then some '"'
  else if c = '\\' then some '\\'
  else if c = '0' then some '\x00'
  else if c = 't' then some '\t'
  else if c = 'n' then some '\n'
  else if c = 'r' then some '\r'
  else none

def consRead (c : Char) (read : Option (Text × Text)) : Option (Text × Text) :=
  read.map fun r => (c :: r.1, r.2)

/-- The text up to the closing quote, and what stands behind the quote. -/
def unquoteFrom : QuotePlace → Text → Option (Text × Text)
  | _, [] => none
  | .between, c :: rest =>
    if c = '"' then some ([], rest)
    else if c = '\\' then unquoteFrom .escape rest
    else consRead c (unquoteFrom .between rest)
  | .escape, c :: rest =>
    if c = 'u' then unquoteFrom .marked rest
    else (unescapeName? c).bind fun d => consRead d (unquoteFrom .between rest)
  | .marked, c :: rest => if c = '\x7b' then unquoteFrom (.digits 0) rest else none
  | .digits n, c :: rest =>
    if c = '\x7d' then consRead (Char.ofNat n) (unquoteFrom .between rest)
    else unquoteFrom (.digits (16 * n + hexDigitValue c)) rest

def unquote? : Text → Option (Text × Text)
  | '"' :: rest => unquoteFrom .between rest
  | _ => none

theorem unquoteFrom_digits {digits : Text} (h : '\x7d' ∉ digits) (n : Nat) (rest : Text) :
    unquoteFrom (.digits n) (digits ++ '\x7d' :: rest) =
      consRead (Char.ofNat (ofHexDigits n digits)) (unquoteFrom .between rest) := by
  induction digits generalizing n with
  | nil => rfl
  | cons c digits ih =>
    obtain ⟨hc, hdigits⟩ := not_or.mp (mt List.mem_cons.mpr h)
    rw [List.cons_append, unquoteFrom, if_neg (Ne.symm hc), ih hdigits]
    rfl

theorem unquoteFrom_codePointForm (c : Char) (rest : Text) :
    unquoteFrom .between (codePointForm c ++ rest) = consRead c (unquoteFrom .between rest) := by
  have hbrace : '\x7d' ∉ hexadecimal c.toNat := notMem_hexadecimal (by decide) c.toNat
  have hread := unquoteFrom_digits hbrace 0 rest
  rw [ofHexDigits_hexadecimal, Char.ofNat_toNat] at hread
  rw [← hread, codePointForm]
  simp only [List.append_assoc, List.cons_append, List.nil_append]
  rfl

theorem unquoteFrom_quoteChar (plain : Char → Bool) (c : Char) (rest : Text) :
    unquoteFrom .between (quoteChar plain c ++ rest) = consRead c (unquoteFrom .between rest) := by
  unfold quoteChar
  split
  case h_7 _ hquote hslash _ _ _ _ =>
    split
    · rw [List.singleton_append, unquoteFrom, if_neg hquote, if_neg hslash]
    · exact unquoteFrom_codePointForm c rest
  all_goals rfl

theorem unquote?_quoteWith (plain : Char → Bool) (text rest : Text) :
    unquote? (quoteWith plain text ++ rest) = some (text, rest) := by
  show unquoteFrom .between (text.flatMap (quoteChar plain) ++ ['"'] ++ rest) = _
  induction text with
  | nil => rfl
  | cons c text ih =>
    rw [List.flatMap_cons, List.append_assoc, List.append_assoc, unquoteFrom_quoteChar,
      ← List.append_assoc, ih]
    rfl

theorem unquote?_quoteWith_self (plain : Char → Bool) (text : Text) :
    unquote? (quoteWith plain text) = some (text, []) := by
  have hread := unquote?_quoteWith plain text []
  rwa [List.append_nil] at hread

theorem quoteWith_append_inj {plain : Char → Bool} {a b s t : Text}
    (h : quoteWith plain a ++ s = quoteWith plain b ++ t) : a = b ∧ s = t := by
  have hread := unquote?_quoteWith plain a s
  rw [h, unquote?_quoteWith plain b t] at hread
  obtain ⟨hb, ht⟩ := Prod.mk.inj (Option.some.inj hread)
  exact ⟨hb.symm, ht.symm⟩

theorem quoted_append_inj {a b s t : Text} (h : quoted a ++ s = quoted b ++ t) :
    a = b ∧ s = t := quoteWith_append_inj h

def DigitFree (text : Text) : Prop := ∀ c, text.head? = some c → c.isDigit = false

theorem decimal_append_inj {m n : Nat} {s t : Text} (hs : DigitFree s) (ht : DigitFree t)
    (h : decimal m ++ s = decimal n ++ t) : m = n ∧ s = t := by
  have hdigits (k : Nat) : ∀ c ∈ decimal k, c.isDigit = true := fun _ => isDigit_of_mem_decimal
  have htake (k : Nat) {rest : Text} (hrest : DigitFree rest) :
      (decimal k ++ rest).takeWhile Char.isDigit = decimal k := by
    rw [List.takeWhile_append_of_pos (hdigits k)]
    cases rest with
    | nil => exact List.append_nil _
    | cons c rest => rw [List.takeWhile_cons_of_neg (by simp [hrest c rfl]), List.append_nil]
  have hmn : decimal m = decimal n := by rw [← htake m hs, h, htake n ht]
  obtain rfl := decimal_injective hmn
  exact ⟨rfl, List.append_cancel_left h⟩

end Text

namespace Quantifier

def maxForm : Option Nat → Text
  | none => "None".toList
  | some n => "Some(".toList ++ Text.decimal n ++ [')']

def lazyForm (lazy : Bool) : Text := if lazy then "true".toList else "false".toList

theorem inspect_eq (q : Quantifier) :
    q.inspect = "Quantifier \x7b min: ".toList ++ Text.decimal q.min ++ ", max: ".toList ++
      maxForm q.max ++ ", lazy: ".toList ++ lazyForm q.lazy ++ " \x7d".toList := by
  obtain ⟨m, max, lazy⟩ := q
  cases max with
  | none => rfl
  | some n => rfl

theorem maxForm_append_inj {a b : Option Nat} {s t : Text}
    (h : maxForm a ++ s = maxForm b ++ t) : a = b ∧ s = t := by
  have hletter : 'N' ≠ 'S' := by decide
  cases a with
  | none =>
    cases b with
    | none => exact ⟨rfl, List.append_cancel_left h⟩
    | some n => exact absurd (List.cons.inj h).1 hletter
  | some m =>
    cases b with
    | none => exact absurd (List.cons.inj h).1.symm hletter
    | some n =>
      have hclose (rest : Text) : Text.DigitFree ([')'] ++ rest) := by
        rintro _ ⟨⟩
        decide
      have hforms : "Some(".toList ++ Text.decimal m ++ [')'] ++ s =
          "Some(".toList ++ Text.decimal n ++ [')'] ++ t := h
      simp only [List.append_assoc] at hforms
      obtain ⟨rfl, hrest⟩ :=
        Text.decimal_append_inj (hclose s) (hclose t) (List.append_cancel_left hforms)
      exact ⟨rfl, (List.cons.inj hrest).2⟩

theorem lazyForm_inj {a b : Bool} (h : lazyForm a = lazyForm b) : a = b := by
  cases a <;> cases b
  · rfl
  · exact absurd h (by decide)
  · exact absurd h (by decide)
  · rfl

theorem inspect_inj {q r : Quantifier} (h : q.inspect = r.inspect) : q = r := by
  rw [inspect_eq, inspect_eq] at h
  simp only [List.append_assoc] at h
  have hcomma (rest : Text) : Text.DigitFree (", max: ".toList ++ rest) := by
    rintro _ ⟨⟩
    decide
  obtain ⟨hmin, hrest⟩ :=
    Text.decimal_append_inj (hcomma _) (hcomma _) (List.append_cancel_left h)
  obtain ⟨hmax, hlast⟩ := maxForm_append_inj (List.append_cancel_left hrest)
  have hlazy := lazyForm_inj (List.append_cancel_right (List.append_cancel_left hlast))
  cases q
  cases r
  cases hmin
  cases hmax
  cases hlazy
  rfl

end Quantifier

theorem CharacterClass.inspect_inj {cls other : CharacterClass}
    (h : cls.inspect = other.inspect) : cls = other := by
  unfold inspect at h
  simp only [List.append_assoc, List.append_cancel_left_eq] at h
  obtain ⟨hbody, hrest⟩ := Text.quoted_append_inj h
  rw [List.append_cancel_left_eq] at hrest
  have hquantifier := Quantifier.inspect_inj (List.append_cancel_right hrest)
  cases cls
  cases other
  cases hbody
  cases hquantifier
  rfl

end PatternBuilder

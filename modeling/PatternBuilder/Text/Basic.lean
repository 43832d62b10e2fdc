import PatternBuilder.Text.CharacterSets

/-!
# Text

Text is a list of characters, so that writing is appending and reading is recursion on the list.
Numbers are written in lower case and without leading zeros. Trimming drops the blanks at the end of
a text and keeps those before any other character.

Escaping puts a backslash before each special character and changes nothing else. Which characters
are special differs between literal text, where the backslash is not among them, and the body of a
character class. The escaped form of a text is put together from the escaped forms of its parts.

The quoted form of a text stands between double quotes on one line. A double quote or a backslash
gets a backslash; NUL, tab, line feed and carriage return go by name; a character that is not
plain goes by its code point as `\u{…}`. Which characters are plain is a parameter of the form.
-/
namespace PatternBuilder

abbrev Text := List Char

namespace Text

def decimal (n : Nat) : Text := Nat.toDigits 10 n

def hexadecimal (n : Nat) : Text := Nat.toDigits 16 n

theorem ofDigitChars_decimal (n : Nat) : Nat.ofDigitChars 10 (decimal n) 0 = n :=
  Nat.ofDigitChars_ten_toDigits

theorem decimal_injective {m n : Nat} (h : decimal m = decimal n) : m = n := by
  rw [← ofDigitChars_decimal m, h, ofDigitChars_decimal]

theorem exists_digitChar_of_mem_hexadecimal {n : Nat} {c : Char} (h : c ∈ hexadecimal n) :
    ∃ k < 16, c = Nat.digitChar k := by
  induction n using Nat.strongRecOn with
  | ind n ih =>
    rw [hexadecimal] at h
    by_cases hn : n < 16
    · rw [Nat.toDigits_of_lt_base hn, List.mem_singleton] at h
      exact ⟨n, hn, h⟩
    · rw [Nat.toDigits_of_base_le (by decide) (by omega), List.mem_append,
        List.mem_singleton] at h
      rcases h with hfront | hlast
      · exact ih (n / 16) (by omega) hfront
      · exact ⟨n % 16, Nat.mod_lt n (by decide), hlast⟩

theorem notMem_hexadecimal {c : Char} (h : ∀ k < 16, c ≠ Nat.digitChar k) (n : Nat) :
    c ∉ hexadecimal n := by
  intro hmem
  obtain ⟨k, hk, hc⟩ := exists_digitChar_of_mem_hexadecimal hmem
  exact h k hk hc

def trimEnd (text : Text) : Text := (text.reverse.dropWhile isBlank).reverse

theorem trimEnd_append_blanks (text : Text) {blanks : Text} (h : ∀ c ∈ blanks, isBlank c = true) :
    trimEnd (text ++ blanks) = trimEnd text := by
  rw [trimEnd, List.reverse_append, List.dropWhile_append_of_pos (by simpa using h), trimEnd]

theorem trimEnd_of_last {text : Text} (h : ∀ c, text.getLast? = some c → isBlank c = false) :
    trimEnd text = text := by
  rcases List.eq_nil_or_concat text with rfl | ⟨front, c, rfl⟩
  · rfl
  · have hc : isBlank c = false := h c (by simp)
    simp [trimEnd, hc]

/-- What is dropped at the end is blank, and what is kept does not end in a blank. -/
def Trimmed (text kept : Text) : Prop :=
  (∃ blanks, text = kept ++ blanks ∧ ∀ c ∈ blanks, isBlank c = true) ∧
    ∀ c, kept.getLast? = some c → isBlank c = false

theorem trimEnd_spec (text : Text) : Trimmed text (trimEnd text) := by
  constructor
  · refine ⟨(text.reverse.takeWhile isBlank).reverse, ?_, ?_⟩
    · rw [trimEnd, ← List.reverse_append, List.takeWhile_append_dropWhile, List.reverse_reverse]
    · intro c hc
      have hall := List.all_takeWhile (p := isBlank) (l := text.reverse)
      exact List.all_eq_true.mp hall c (List.mem_reverse.mp hc)
  · intro c hc
    rw [trimEnd, List.getLast?_reverse] at hc
    have hhead := List.head?_dropWhile_not isBlank text.reverse
    rw [hc] at hhead
    exact hhead

theorem Trimmed.eq {text kept : Text} (h : Trimmed text kept) : kept = trimEnd text := by
  obtain ⟨⟨blanks, rfl, hblanks⟩, hlast⟩ := h
  rw [trimEnd_append_blanks kept hblanks, trimEnd_of_last hlast]

def literalSpecials : Text := ['(', ')', '[', ']', '+', '.']

def classSpecials : Text := ['\\', '^', '-', '[', ']']

def escapeChar (specials : Text) (c : Char) : Text :=
  if c ∈ specials then ['\\', c] else [c]

def escape (specials text : Text) : Text := text.flatMap (escapeChar specials)

@[simp] theorem escape_nil (specials : Text) : escape specials [] = [] := rfl

theorem escape_cons (specials : Text) (c : Char) (text : Text) :
    escape specials (c :: text) = escapeChar specials c ++ escape specials text := rfl

theorem escape_append (specials a b : Text) :
    escape specials (a ++ b) = escape specials a ++ escape specials b :=
  List.flatMap_append

theorem escape_concat (specials text : Text) (c : Char) :
    escape specials (text ++ [c]) = escape specials text ++ escapeChar specials c := by
  simp [escape]

theorem escapeChar_of_mem {specials : Text} {c : Char} (h : c ∈ specials) :
    escapeChar specials c = ['\\', c] := by simp [escapeChar, h]

theorem escapeChar_of_notMem {specials : Text} {c : Char} (h : c ∉ specials) :
    escapeChar specials c = [c] := by simp [escapeChar, h]

def codePointForm (c : Char) : Text :=
  ['\\', 'u', '\x7b'] ++ hexadecimal c.toNat ++ ['\x7d']

def quoteChar (plain : Char → Bool) (c : Char) : Text :=
  match c with
  | '"' => ['\\', '"']
  | '\\' => ['\\', '\\']
  | '\x00' => ['\\', '0']
  | '\t' => ['\\', 't']
  | '\n' => ['\\', 'n']
  | '\r' => ['\\', 'r']
  | _ => if plain c then [c] else codePointForm c

def quoteWith (plain : Char → Bool) (text : Text) : Text :=
  '"' :: text.flatMap (quoteChar plain) ++ ['"']

def quoted (text : Text) : Text := quoteWith isPlain text

end Text
end PatternBuilder

import PatternBuilder.Proofs.CommandOutput
import PatternBuilder.Text.Cutting

/-!
# E-mail addresses

An address is a mailbox, an at sign, a domain, a dot and a top-level domain. Dots may stand in the
domain too, but the top-level domain is made of letters alone, so the dot before it is the last one,
and a text is an address in one way only. The pattern for addresses is anchored at both ends, so it
occurs in the addresses and nowhere else. The main statement is `Command.code_email`.
-/
namespace PatternBuilder

namespace Address

def isMailboxChar (c : Char) : Bool := c.isAlphanum || ['.', '_', '%', '-', '+'].contains c

def isDomainChar (c : Char) : Bool := c.isAlphanum || ['.', '_'].contains c

end Address

open Address in
@[ext] structure Address where
  mailbox : Text
  domain : Text
  topLevel : Text
  mailbox_ne : mailbox ≠ []
  mailbox_chars : ∀ c ∈ mailbox, isMailboxChar c = true
  domain_ne : domain ≠ []
  domain_chars : ∀ c ∈ domain, isDomainChar c = true
  two_le_topLevel : 2 ≤ topLevel.length
  topLevel_chars : ∀ c ∈ topLevel, c.isAlpha = true

namespace Address

def host (a : Address) : Text := a.domain ++ '.' :: a.topLevel

def text (a : Address) : Text := a.mailbox ++ '@' :: a.host

def mailboxOf (text : Text) : Text := text.takeWhile (· ≠ '@')

def hostOf (text : Text) : Text := (text.dropWhile (· ≠ '@')).tail

def domainOf (host : Text) : Text := (host.rdropWhile (· ≠ '.')).dropLast

def topLevelOf (host : Text) : Text := host.rtakeWhile (· ≠ '.')

/-- There is one at sign. Before it stands a mailbox; behind it there is a dot, and the last one has
a domain before it and a top-level domain behind it. -/
def IsText (text : Text) : Prop :=
  text.count '@' = 1 ∧
  (mailboxOf text ≠ [] ∧ (mailboxOf text).all isMailboxChar = true) ∧
  '.' ∈ hostOf text ∧
  (domainOf (hostOf text) ≠ [] ∧ (domainOf (hostOf text)).all isDomainChar = true) ∧
  (2 ≤ (topLevelOf (hostOf text)).length ∧ (topLevelOf (hostOf text)).all Char.isAlpha = true)

instance : DecidablePred IsText := fun _ => inferInstanceAs (Decidable (_ ∧ _))

theorem notMem_of_all {p : Char → Bool} {text : Text} {c : Char}
    (h : ∀ d ∈ text, p d = true) (hc : p c = false) : c ∉ text := by
  intro hmem
  rw [h c hmem] at hc
  cases hc

variable (a : Address)

theorem at_notMem_mailbox : '@' ∉ a.mailbox := notMem_of_all a.mailbox_chars (by decide)

theorem at_notMem_domain : '@' ∉ a.domain := notMem_of_all a.domain_chars (by decide)

theorem at_notMem_topLevel : '@' ∉ a.topLevel := notMem_of_all a.topLevel_chars (by decide)

theorem dot_notMem_topLevel : '.' ∉ a.topLevel := notMem_of_all a.topLevel_chars (by decide)

theorem mailboxOf_text : mailboxOf a.text = a.mailbox :=
  Text.takeWhile_cut a.at_notMem_mailbox a.host

theorem hostOf_text : hostOf a.text = a.host := by
  rw [hostOf, text, Text.dropWhile_cut a.at_notMem_mailbox, List.tail_cons]

-- The letters behind the last dot hold no dot, however many the domain has.
theorem domainOf_host : domainOf a.host = a.domain := by
  rw [domainOf, host, Text.rdropWhile_cut a.domain a.dot_notMem_topLevel, List.dropLast_concat]

theorem topLevelOf_host : topLevelOf a.host = a.topLevel :=
  Text.rtakeWhile_cut a.domain a.dot_notMem_topLevel

variable {a}

theorem text_injective : Function.Injective text := by
  intro a b h
  have hmailbox : a.mailbox = b.mailbox := by
    rw [← mailboxOf_text, h, mailboxOf_text]
  have hhost : a.host = b.host := by
    rw [← hostOf_text, h, hostOf_text]
  have hdomain : a.domain = b.domain := by
    rw [← domainOf_host, hhost, domainOf_host]
  have htopLevel : a.topLevel = b.topLevel := by
    rw [← topLevelOf_host, hhost, topLevelOf_host]
  exact Address.ext hmailbox hdomain htopLevel

theorem count_at_text (a : Address) : a.text.count '@' = 1 := by
  have hmailbox : a.mailbox.count '@' = 0 := List.count_eq_zero.mpr a.at_notMem_mailbox
  have hdomain : a.domain.count '@' = 0 := List.count_eq_zero.mpr a.at_notMem_domain
  have htopLevel : a.topLevel.count '@' = 0 := List.count_eq_zero.mpr a.at_notMem_topLevel
  simp [text, host, hmailbox, hdomain, htopLevel]

theorem isText_text (a : Address) : IsText a.text := by
  unfold IsText
  rw [mailboxOf_text, hostOf_text, domainOf_host, topLevelOf_host]
  have hdot : '.' ∈ a.host := List.mem_append_right _ List.mem_cons_self
  exact ⟨a.count_at_text, ⟨a.mailbox_ne, List.all_eq_true.mpr a.mailbox_chars⟩, hdot,
    ⟨a.domain_ne, List.all_eq_true.mpr a.domain_chars⟩,
    a.two_le_topLevel, List.all_eq_true.mpr a.topLevel_chars⟩

theorem mailboxOf_append_hostOf {text : Text} (h : '@' ∈ text) :
    mailboxOf text ++ '@' :: hostOf text = text := by
  obtain ⟨l, r, rfl, hl⟩ := List.eq_append_cons_of_mem h
  rw [mailboxOf, hostOf, Text.takeWhile_cut hl, Text.dropWhile_cut hl, List.tail_cons]

theorem domainOf_append_topLevelOf {host : Text} (h : '.' ∈ host) :
    domainOf host ++ '.' :: topLevelOf host = host := by
  obtain ⟨d, t, rfl, ht⟩ := Text.exists_last_cut h
  rw [domainOf, topLevelOf, Text.rdropWhile_cut d ht, Text.rtakeWhile_cut d ht,
    List.dropLast_concat]

theorem exists_text_iff {text : Text} : (∃ a : Address, a.text = text) ↔ IsText text := by
  constructor
  · rintro ⟨a, rfl⟩
    exact a.isText_text
  · rintro ⟨hcount, ⟨hmailbox, hmailbox'⟩, hdot, ⟨hdomain, hdomain'⟩, htopLevel, htopLevel'⟩
    rw [List.all_eq_true] at hmailbox' hdomain' htopLevel'
    have hat : '@' ∈ text := List.count_pos_iff.mp (by omega)
    refine ⟨⟨mailboxOf text, domainOf (hostOf text), topLevelOf (hostOf text), hmailbox, hmailbox',
      hdomain, hdomain', htopLevel, htopLevel'⟩, ?_⟩
    rw [Address.text, Address.host, domainOf_append_topLevelOf hdot, mailboxOf_append_hostOf hat]

end Address

namespace Regex
namespace Member

theorem holds_lower (c : Char) : (range 'a' 'z').holds c = c.isLower := rfl

theorem holds_upper (c : Char) : (range 'A' 'Z').holds c = c.isUpper := (Bool.decide_and _ _).symm

theorem holds_digit (c : Char) : (range '0' '9').holds c = c.isDigit := rfl

end Member

namespace ClassBody

theorem any_holds_letters (c : Char) (others : List Member) :
    (.range 'a' 'z' :: .range 'A' 'Z' :: others).any (·.holds c) =
      (c.isAlpha || others.any (·.holds c)) := by
  have halpha : c.isAlpha = (c.isUpper || c.isLower) := rfl
  rw [List.any_cons, List.any_cons, Member.holds_lower, Member.holds_upper, halpha,
    ← Bool.or_assoc, Bool.or_comm c.isLower]

theorem set?_letters {body : Text} (hlist : isList body = true)
    (hmembers : members body = [.range 'a' 'z', .range 'A' 'Z']) :
    set? body = some Char.isAlpha := by
  rw [set?, if_pos hlist, hmembers]
  apply congrArg some
  funext c
  rw [any_holds_letters, List.any_nil, Bool.or_false]

theorem set?_lettersAndDigits {body : Text} {chars : List Char} (hlist : isList body = true)
    (hmembers : members body =
      .range 'a' 'z' :: .range 'A' 'Z' :: .range '0' '9' :: chars.map .single) :
    set? body = some fun c => c.isAlphanum || chars.contains c := by
  rw [set?, if_pos hlist, hmembers]
  apply congrArg some
  funext c
  have halphanum : c.isAlphanum = (c.isAlpha || c.isDigit) := rfl
  rw [any_holds_letters, List.any_cons, Member.holds_digit, List.any_map, halphanum,
    Bool.or_assoc, List.contains_eq_any_beq]
  rfl

end ClassBody

namespace Node
open Regex.Language ClassBody

theorem sequenceLanguage_email {before taken after : Text} :
    sequenceLanguage (Step.nodesAll Preset.email.steps) before taken after ↔
      before = [] ∧ after = [] ∧ ∃ a : Address, a.text = taken := by
  have hnodes : Step.nodesAll Preset.email.steps =
      [.lineStart, .repeated (.cls "a-zA-Z0-9._%\\-+".toList) (Quantifier.atLeast 1), .char '@',
        .repeated (.cls "a-zA-Z0-9._".toList) (Quantifier.atLeast 1), .char '.',
        .repeated (.cls "a-zA-Z".toList) (Quantifier.atLeast 2), .lineEnd] := rfl
  have hmailbox : set? "a-zA-Z0-9._%\\-+".toList = some Address.isMailboxChar :=
    set?_lettersAndDigits (by decide) rfl
  have hdomain : set? "a-zA-Z0-9._".toList = some Address.isDomainChar :=
    set?_lettersAndDigits (by decide) rfl
  have hletters : set? "a-zA-Z".toList = some Char.isAlpha := set?_letters (by decide) rfl
  -- Both anchors look outside the stretch, so it is the whole text.
  rw [hnodes]
  simp only [sequenceLanguage, language, hmailbox, hdomain, hletters, Option.map_some,
    Option.getD_some, start_sequence_iff]
  apply and_congr_right
  rintro rfl
  constructor
  · rintro ⟨l, _, rfl, hl, h⟩
    obtain ⟨_, rfl, d, _, rfl, hd, h⟩ := char_sequence_iff.mp h
    obtain ⟨_, rfl, t, _, rfl, ht, h⟩ := char_sequence_iff.mp h
    obtain ⟨rfl, hafter⟩ := finish_sequence_here_iff.mp h
    obtain ⟨hl, hmailbox⟩ := repeated_atLeast_iff.mp hl
    obtain ⟨hd, hdomain⟩ := repeated_atLeast_iff.mp hd
    obtain ⟨ht, htopLevel⟩ := repeated_atLeast_iff.mp ht
    refine ⟨hafter, ⟨l, d, t, List.length_pos_iff.mp hl, hmailbox, List.length_pos_iff.mp hd,
      hdomain, ht, htopLevel⟩, ?_⟩
    rw [List.append_nil, Address.text, Address.host]
  · rintro ⟨rfl, a, rfl⟩
    have hend : finish.sequence here
        ([] ++ a.mailbox ++ ['@'] ++ a.domain ++ ['.'] ++ a.topLevel) [] [] :=
      finish_sequence_here_iff.mpr ⟨rfl, rfl⟩
    refine ⟨a.mailbox, _, rfl, repeated_atLeast_iff.mpr ⟨?_, a.mailbox_chars⟩,
      char_sequence_iff.mpr ⟨_, rfl, a.domain, _, rfl,
        repeated_atLeast_iff.mpr ⟨?_, a.domain_chars⟩,
        char_sequence_iff.mpr ⟨_, rfl, a.topLevel, [], (List.append_nil _).symm,
          repeated_atLeast_iff.mpr ⟨a.two_le_topLevel, a.topLevel_chars⟩, hend⟩⟩⟩
    · exact List.length_pos_iff.mpr a.mailbox_ne
    · exact List.length_pos_iff.mpr a.domain_ne

end Node

theorem occurs_email_iff {text : Text} :
    Occurs Preset.email.pattern.source text ↔ ∃ a : Address, a.text = text := by
  unfold Occurs
  simp only [Preset.read?_pattern, Option.some.injEq, exists_eq_left', Node.sequenceLanguage_email]
  constructor
  · rintro ⟨_, taken, _, rfl, rfl, rfl, h⟩
    rwa [List.append_nil]
  · intro h
    exact ⟨[], text, [], (List.append_nil text).symm, rfl, rfl, h⟩

end Regex

/-- A run that looks for an address succeeds when its input, without the blanks at the end, is the
text of one; reading it at the only at sign and the last dot decides that. The address is the only
one with this text. -/
theorem Command.code_email {arguments : List Text} {stdin : ByteArray} {input : Text}
    (h : Given (Preset.email.name :: arguments) stdin input) :
    ((∃ blanks, input = Text.trimEnd input ++ blanks ∧ ∀ c ∈ blanks, Text.isBlank c = true) ∧
      ∀ c, (Text.trimEnd input).getLast? = some c → Text.isBlank c = false) ∧
    ((run (Preset.email.name :: arguments) stdin).code = 0 ↔
      ∃ a : Address, a.text = Text.trimEnd input) ∧
    ((∃ a : Address, a.text = Text.trimEnd input) ↔ Address.IsText (Text.trimEnd input)) ∧
    ∀ a b : Address, a.text = Text.trimEnd input → b.text = Text.trimEnd input → a = b := by
  refine ⟨Text.trimEnd_spec input, ?_, Address.exists_text_iff, ?_⟩
  · rw [code_eq_zero_iff_occurs h, Regex.occurs_email_iff]
  · intro a b ha hb
    exact Address.text_injective (ha.trans hb.symm)

theorem Command.code_email_dots :
    Given ["email".toList, "a+b@x.co..Uk \u3000".toList] .empty "a+b@x.co..Uk \u3000".toList ∧
    (run ["email".toList, "a+b@x.co..Uk \u3000".toList] .empty).code = 0 := by
  have hgiven : Given (Preset.email.name :: ["a+b@x.co..Uk \u3000".toList]) .empty
      "a+b@x.co..Uk \u3000".toList := .argument rfl
  obtain ⟨_, hcode, hdecided, _⟩ := code_email hgiven
  exact ⟨hgiven, hcode.mpr (hdecided.mpr (by decide +kernel))⟩

end PatternBuilder

import Mathlib.Data.List.DropRight
import PatternBuilder.Proofs.CommandOutput

/-!
# Years

The pattern for years has no anchors, so it occurs wherever four decimal digits stand in a row, of
whatever scripts they are. No digit is blank: the digits are there before the input is trimmed if
they are there after it. More text around them takes nothing away, and where each run of digits is
shorter than four there is no year. The main statement is `Command.code_year`.
-/
namespace PatternBuilder

namespace Text

theorem not_decimalDigit_of_blank {c : Char} (h : isBlank c = true) : isDecimalDigit c = false := by
  have hapart : blankRanges.apart decimalDigitRanges = true := by decide +kernel
  exact CodeRanges.not_holds_of_apart hapart h

def HoldsYear (text : Text) : Prop :=
  ∃ year, year <:+: text ∧ year.length = 4 ∧ ∀ c ∈ year, isDecimalDigit c = true

theorem HoldsYear.mono {a b : Text} (h : HoldsYear a) (hab : a <:+: b) : HoldsYear b := by
  obtain ⟨year, hyear, hfour, hdigits⟩ := h
  exact ⟨year, hyear.trans hab, hfour, hdigits⟩

theorem infix_of_infix_append_blanks {text stretch blanks : Text} (hne : stretch ≠ [])
    (hstretch : ∀ c ∈ stretch, isBlank c = false) (hblanks : ∀ c ∈ blanks, isBlank c = true)
    (h : stretch <:+: text ++ blanks) : stretch <:+: text := by
  induction blanks using List.reverseRecOn with
  | nil => rwa [List.append_nil] at h
  | append_singleton blanks b ih =>
    obtain ⟨hrest, hb⟩ := List.forall_mem_append.mp hblanks
    rw [← List.append_assoc, List.infix_concat_iff] at h
    rcases h with hsuffix | hinfix
    · -- The last character of the stretch would be the last blank.
      rcases List.suffix_concat_iff.mp hsuffix with rfl | ⟨front, rfl, _⟩
      · exact absurd rfl hne
      · have hblank := hstretch b (List.mem_append_right front List.mem_cons_self)
        rw [hb b List.mem_cons_self] at hblank
        exact nomatch hblank
    · exact ih hrest hinfix

theorem holdsYear_trimEnd_iff {text : Text} : HoldsYear (trimEnd text) ↔ HoldsYear text := by
  obtain ⟨⟨blanks, htext, hblanks⟩, _⟩ := trimEnd_spec text
  have hprefix : trimEnd text <+: text := ⟨blanks, htext.symm⟩
  constructor
  · intro h
    exact h.mono hprefix.isInfix
  · rintro ⟨year, hyear, hfour, hdigits⟩
    rw [htext] at hyear
    refine ⟨year, infix_of_infix_append_blanks ?_ ?_ hblanks hyear, hfour, hdigits⟩
    · rintro rfl
      exact nomatch hfour
    · intro c hc
      rw [← Bool.not_eq_true]
      intro hblank
      have hdigit := not_decimalDigit_of_blank hblank
      rw [hdigits c hc] at hdigit
      exact nomatch hdigit

/-- A run of digits, with no digit next to it. -/
def DigitRun (text run : Text) : Prop :=
  ∃ before after, text = before ++ run ++ after ∧ (∀ c ∈ run, isDecimalDigit c = true) ∧
    (∀ c, before.getLast? = some c → isDecimalDigit c = false) ∧
    ∀ c, after.head? = some c → isDecimalDigit c = false

theorem not_digit_of_head?_dropWhile {text : Text} {c : Char}
    (h : (text.dropWhile isDecimalDigit).head? = some c) : isDecimalDigit c = false := by
  have hhead := List.head?_dropWhile_not isDecimalDigit text
  rw [h] at hhead
  exact hhead

theorem exists_digitRun {text digits : Text} (h : digits <:+: text)
    (hdigits : ∀ c ∈ digits, isDecimalDigit c = true) :
    ∃ run, DigitRun text run ∧ digits <:+: run := by
  obtain ⟨before, after, rfl⟩ := h
  -- The run goes as far as the digits do on both sides.
  refine ⟨before.rtakeWhile isDecimalDigit ++ digits ++ after.takeWhile isDecimalDigit,
    ⟨before.rdropWhile isDecimalDigit, after.dropWhile isDecimalDigit, ?_, ?_, ?_, ?_⟩,
    ⟨_, _, rfl⟩⟩
  · simp only [← List.append_assoc, List.rdropWhile_append_rtakeWhile]
    rw [List.append_assoc _ (after.takeWhile _), List.takeWhile_append_dropWhile]
  · intro c hc
    rw [List.mem_append, List.mem_append] at hc
    rcases hc with (hbefore | hin) | hafter
    · exact List.mem_rtakeWhile_imp hbefore
    · exact hdigits c hin
    · exact List.mem_takeWhile_imp hafter
  · intro c hc
    rw [List.rdropWhile, List.getLast?_reverse] at hc
    exact not_digit_of_head?_dropWhile hc
  · intro c hc
    exact not_digit_of_head?_dropWhile hc

theorem holdsYear_iff_digitRun {text : Text} :
    HoldsYear text ↔ ∃ run, DigitRun text run ∧ 4 ≤ run.length := by
  constructor
  · rintro ⟨year, hyear, hfour, hdigits⟩
    obtain ⟨run, hrun, hin⟩ := exists_digitRun hyear hdigits
    exact ⟨run, hrun, hfour ▸ hin.length_le⟩
  · rintro ⟨run, ⟨before, after, rfl, hdigits, _⟩, hlong⟩
    have hrun : run <:+: before ++ run ++ after := ⟨before, after, rfl⟩
    exact ⟨run.take 4, (List.take_prefix 4 run).isInfix.trans hrun, List.length_take_of_le hlong,
      fun c hc => hdigits c (List.mem_of_mem_take hc)⟩

end Text

namespace Regex

theorem Node.sequenceLanguage_year {before taken after : Text} :
    sequenceLanguage (Step.nodesAll Preset.year.steps) before taken after ↔
      taken.length = 4 ∧ ∀ c ∈ taken, Text.isDecimalDigit c = true := by
  have hnodes : Step.nodesAll Preset.year.steps = [.repeated .digit (Quantifier.between 4 4)] := rfl
  have hcount (n : Nat) : n ∈ (Quantifier.between 4 4).counts ↔ n = 4 := by
    rw [Quantifier.mem_counts_between]
    omega
  rw [hnodes]
  constructor
  · rintro ⟨digits, _, rfl, hdigits, rfl⟩
    rw [List.append_nil]
    obtain ⟨hlength, hall⟩ := Language.repeated_one_iff.mp hdigits
    exact ⟨(hcount _).mp hlength, hall⟩
  · rintro ⟨hlength, hall⟩
    exact ⟨taken, [], (List.append_nil taken).symm,
      Language.repeated_one_iff.mpr ⟨(hcount _).mpr hlength, hall⟩, rfl⟩

theorem occurs_year_iff {text : Text} :
    Occurs Preset.year.pattern.source text ↔ Text.HoldsYear text := by
  unfold Occurs
  simp only [Preset.read?_pattern, Option.some.injEq, exists_eq_left', Node.sequenceLanguage_year]
  constructor
  · rintro ⟨before, year, after, rfl, hfour, hdigits⟩
    exact ⟨year, List.infix_append' before year after, hfour, hdigits⟩
  · rintro ⟨year, ⟨before, after, rfl⟩, hfour, hdigits⟩
    exact ⟨before, year, after, List.append_assoc before year after, hfour, hdigits⟩

end Regex

namespace Command

theorem code_eq_zero_iff_holdsYear {arguments : List Text} {stdin : ByteArray} {input : Text}
    (h : Given (Preset.year.name :: arguments) stdin input) :
    (run (Preset.year.name :: arguments) stdin).code = 0 ↔ Text.HoldsYear input := by
  rw [code_eq_zero_iff_occurs h, Regex.occurs_year_iff, Text.holdsYear_trimEnd_iff]

/-- A run that looks for a year succeeds when four decimal digits stand in a row in its input, and a
search finds the same before and after the input is trimmed. More text around the input leaves it a
success. It fails when every run of digits is shorter than four, and only then. -/
theorem code_year {arguments : List Text} {stdin : ByteArray} {input : Text}
    (h : Given (Preset.year.name :: arguments) stdin input) :
    ((run (Preset.year.name :: arguments) stdin).code = 0 ↔
      ∃ year, year <:+: input ∧ year.length = 4 ∧ ∀ c ∈ year, Text.isDecimalDigit c = true) ∧
    (∃ m, Regex.compile? Preset.year.pattern.source = some m ∧
      m.search (Text.trimEnd input) = m.search input) ∧
    (∀ (u v : Text) (others : List Text) (other : ByteArray),
      Given (Preset.year.name :: others) other (u ++ input ++ v) →
      (run (Preset.year.name :: arguments) stdin).code = 0 →
      (run (Preset.year.name :: others) other).code = 0) ∧
    ((run (Preset.year.name :: arguments) stdin).code = 1 ↔
      ∀ digits, Text.DigitRun input digits → digits.length < 4) := by
  have hyear := code_eq_zero_iff_holdsYear h
  refine ⟨hyear, ?_, ?_, ?_⟩
  · obtain ⟨m, hm⟩ := Preset.year.exists_matcher
    refine ⟨m, hm, ?_⟩
    rw [Bool.eq_iff_iff, Preset.search_iff _ hm, Preset.search_iff _ hm, Regex.occurs_year_iff,
      Regex.occurs_year_iff, Text.holdsYear_trimEnd_iff]
  · intro u v others other hgiven hcode
    rw [code_eq_zero_iff_holdsYear hgiven]
    exact (hyear.mp hcode).mono ⟨u, v, rfl⟩
  · rw [Report.code_eq_one_iff, hyear, Text.holdsYear_iff_digitRun]
    simp only [not_exists, not_and, Nat.not_le]

theorem code_year_threeScripts :
    (Given ["year".toList, "12\u0663\u096a".toList] .empty "12\u0663\u096a".toList ∧
      Given ["year".toList] ("in ".toList ++ "12\u0663\u096a".toList ++ "5\n".toList).utf8Encode
        ("in ".toList ++ "12\u0663\u096a".toList ++ "5\n".toList)) ∧
    (run ["year".toList, "12\u0663\u096a".toList] .empty).code = 0 ∧
    (run ["year".toList]
      ("in ".toList ++ "12\u0663\u096a".toList ++ "5\n".toList).utf8Encode).code = 0 := by
  have hgiven : Given (Preset.year.name :: ["12\u0663\u096a".toList]) .empty
      "12\u0663\u096a".toList := .argument rfl
  have haround : Given (Preset.year.name :: [])
      ("in ".toList ++ "12\u0663\u096a".toList ++ "5\n".toList).utf8Encode
      ("in ".toList ++ "12\u0663\u096a".toList ++ "5\n".toList) := .standard rfl rfl
  obtain ⟨hyear, _, hmore, _⟩ := code_year hgiven
  have hcode := hyear.mpr ⟨"12\u0663\u096a".toList, List.infix_refl _, rfl,
    List.all_eq_true.mp (by decide +kernel)⟩
  exact ⟨⟨hgiven, haround⟩, hcode, hmore _ _ _ _ haround hcode⟩

end Command
end PatternBuilder

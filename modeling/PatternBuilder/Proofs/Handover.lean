import PatternBuilder.Proofs.CommandOutput

/-!
# How the input is handed over

The input of a run is its second argument or else the text that standard input encodes, and the
blanks at its end do not count. A report tells neither the way in which the input came nor how many
blanks stood behind it. Bytes that encode no text are no input. The main statement is
`Command.run_handover`.
-/
namespace PatternBuilder.Command

theorem run_eq_of_given {name a b : Text} {arguments others : List Text} {stdin other : ByteArray}
    (ha : Given (name :: arguments) stdin a) (hb : Given (name :: others) other b)
    (htrim : Text.trimEnd a = Text.trimEnd b) :
    run (name :: arguments) stdin = run (name :: others) other := by
  cases hname : Preset.ofName? name with
  | none => simp only [run, start, hname]
  | some preset =>
    have hleft :
        Job.input? { pattern := preset.pattern, given := arguments.head? } stdin = some a :=
      input?_eq_some_iff.mpr ha
    have hright : Job.input? { pattern := preset.pattern, given := others.head? } other = some b :=
      input?_eq_some_iff.mpr hb
    simp only [run, start, hname, Job.finish, hleft, hright, Job.judge, htrim]

theorem given_encoded (name input : Text) : Given [name] input.utf8Encode input := .standard rfl rfl

theorem given_argument (name input : Text) (stdin : ByteArray) : Given [name, input] stdin input :=
  .argument rfl

theorem run_of_not_text {preset : Preset} {stdin : ByteArray}
    (h : ∀ text : Text, stdin ≠ text.utf8Encode) :
    run [preset.name] stdin =
      { notices := [.named preset.name, .built preset.pattern.source]
        printed := [preset.pattern.source], failure := some .inputNotText } := by
  have hnone : (Job.input? { pattern := preset.pattern, given := none } stdin) = none := by
    rw [Option.eq_none_iff_forall_not_mem]
    intro text htext
    exact h text (Text.fromUTF8?_eq_some_iff.mp htext)
  simp only [run, start, Preset.ofName?_name, List.head?_nil, Job.finish, hnone]
  rfl

/-- A run ends in the same report, and so puts out the same with logging on and off, whether the
input is an argument or stands encoded on standard input, and whatever blanks stand behind it. A run
for a preset fails on bytes that encode no text, and prints no more than the pattern. -/
theorem run_handover :
    (∀ (name input blanks : Text) (stdin other : ByteArray),
      (∀ c ∈ blanks, Text.isBlank c = true) →
      run [name, input ++ blanks] stdin = run [name, input] other ∧
      run [name] (input ++ blanks).utf8Encode = run [name, input] other) ∧
    ∀ (preset : Preset) (stdin : ByteArray), (∀ text : Text, stdin ≠ text.utf8Encode) →
      (run [preset.name] stdin).code = 1 ∧
      (run [preset.name] stdin).stdout = preset.pattern.source ++ ['\n'] := by
  constructor
  · intro name input blanks stdin other hblanks
    have htrim := Text.trimEnd_append_blanks input hblanks
    have hinput := given_argument name input other
    exact ⟨run_eq_of_given (given_argument name _ stdin) hinput htrim,
      run_eq_of_given (given_encoded name _) hinput htrim⟩
  · intro preset stdin hstdin
    rw [run_of_not_text hstdin]
    exact ⟨rfl, List.append_nil _⟩

/-- An address whose own end is blank, and an encoded surrogate on standard input. -/
theorem run_handover_surrogate :
    ((∀ c ∈ "\u2028\n".toList, Text.isBlank c = true) ∧
      run ["email".toList] ("a@b.cd ".toList ++ "\u2028\n".toList).utf8Encode =
        run ["email".toList, "a@b.cd ".toList] .empty) ∧
    (∀ text : Text, (⟨#[0xed, 0xa0, 0x80]⟩ : ByteArray) ≠ text.utf8Encode) ∧
      (run ["email".toList] ⟨#[0xed, 0xa0, 0x80]⟩).code = 1 := by
  have hblanks : ∀ c ∈ "\u2028\n".toList, Text.isBlank c = true :=
    List.all_eq_true.mp (by decide)
  have hsurrogate : ∀ text : Text, (⟨#[0xed, 0xa0, 0x80]⟩ : ByteArray) ≠ text.utf8Encode := by
    intro text htext
    have hnone : String.fromUTF8? ⟨#[0xed, 0xa0, 0x80]⟩ = none := by decide
    have hsome := Text.fromUTF8?_eq_some_iff.mpr htext
    rw [hnone] at hsome
    exact nomatch hsome
  obtain ⟨hinput, hbytes⟩ := run_handover
  exact ⟨⟨hblanks, (hinput "email".toList "a@b.cd ".toList _ .empty .empty hblanks).2⟩, hsurrogate,
    (hbytes .email _ hsurrogate).1⟩

end PatternBuilder.Command

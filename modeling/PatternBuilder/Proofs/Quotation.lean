import PatternBuilder.Command
import PatternBuilder.Proofs.EscapeReading
import PatternBuilder.Proofs.Inspection

/-!
# What quoted texts tell

In the quoted form of a text no double quote but the first and the last is read as one, and no
control shows that has a name of its own. So the form ends where it seems to, and whatever is put
together from quoted texts on one line tells them: messages of splices, patterns field by field, and
the failure that names an unknown preset. Which characters are plain does not matter to any of this.
The main statement is `Text.quoteWith_tells`.
-/
namespace PatternBuilder

namespace Text

def namedControls : Text := ['\x00', '\t', '\n', '\r']

theorem eq_of_mem_namedControls {c : Char} (h : c ∈ namedControls) :
    c = '\x00' ∨ c = '\t' ∨ c = '\n' ∨ c = '\r' := by
  simpa only [namedControls, List.mem_cons, List.not_mem_nil, or_false] using h

def shortNames : Text := ['"', '\\', '0', 't', 'n', 'r']

theorem quoteChar_cases (plain : Char → Bool) (c : Char) :
    (∃ e ∈ shortNames, quoteChar plain c = ['\\', e]) ∨
      (quoteChar plain c = [c] ∧ c ∉ '"' :: '\\' :: namedControls) ∨
      quoteChar plain c = codePointForm c := by
  unfold quoteChar
  split
  case h_7 _ hquote hslash hnul htab hnewline hreturn =>
    split
    · refine .inr (.inl ⟨rfl, ?_⟩)
      simp only [namedControls, List.mem_cons, List.not_mem_nil, or_false, not_or]
      exact ⟨hquote, hslash, hnul, htab, hnewline, hreturn⟩
    · exact .inr (.inr rfl)
  all_goals exact .inl ⟨_, by decide, rfl⟩

theorem notMem_codePointForm {c : Char} (hmarks : c ∉ ['\\', 'u', '\x7b'] ∧ c ∉ ['\x7d'])
    (hdigit : ∀ k < 16, c ≠ Nat.digitChar k) (d : Char) : c ∉ codePointForm d :=
  List.not_mem_append (List.not_mem_append hmarks.1 (notMem_hexadecimal hdigit d.toNat)) hmarks.2

theorem namedControl_notMem_quoteChar {control : Char} (h : control ∈ namedControls)
    (plain : Char → Bool) (c : Char) : control ∉ quoteChar plain c := by
  rcases quoteChar_cases plain c with ⟨e, he, hform⟩ | ⟨hform, hc⟩ | hform
  · have hnames : control ∉ '\\' :: shortNames := by
      rcases eq_of_mem_namedControls h with rfl | rfl | rfl | rfl <;> decide
    have hsubset : ['\\', e] ⊆ '\\' :: shortNames :=
      List.cons_subset_cons _ (List.cons_subset.mpr ⟨he, List.nil_subset _⟩)
    rw [hform]
    exact fun hmem => hnames (hsubset hmem)
  · rw [hform]
    intro hmem
    obtain rfl := List.mem_singleton.mp hmem
    exact hc (List.mem_cons_of_mem _ (List.mem_cons_of_mem _ h))
  · rw [hform]
    rcases eq_of_mem_namedControls h with rfl | rfl | rfl | rfl <;>
      exact notMem_codePointForm (by decide) (by decide) c

theorem namedControl_notMem_quoteWith {control : Char} (h : control ∈ namedControls)
    (plain : Char → Bool) (text : Text) : control ∉ quoteWith plain text := by
  have hquote : control ∉ ['"'] := by
    rcases eq_of_mem_namedControls h with rfl | rfl | rfl | rfl <;> decide
  have hbody : control ∉ text.flatMap (quoteChar plain) := by
    intro hmem
    obtain ⟨c, _, hc⟩ := List.mem_flatMap.mp hmem
    exact namedControl_notMem_quoteChar h plain c hc
  exact List.not_mem_append (List.not_mem_append hquote hbody) hquote

theorem midEscape_append {a : Text} (h : midEscape a = false) (b : Text) :
    midEscape (a ++ b) = midEscape b := by
  rw [midEscape, List.foldl_append]
  exact congrArg (fun escaped => b.foldl _ escaped) h

theorem midEscape_quoteChar (plain : Char → Bool) (c : Char) :
    midEscape (quoteChar plain c) = false := by
  rcases quoteChar_cases plain c with ⟨e, _, hform⟩ | ⟨hform, hc⟩ | hform
  · rw [hform]
    rfl
  · rw [hform]
    have hslash : c ≠ '\\' := by
      rintro rfl
      exact hc (by decide)
    exact midEscape_concat_of_ne hslash []
  · rw [hform]
    exact midEscape_concat_of_ne (by decide) _

theorem midEscape_of_quoteChar {plain : Char → Bool} {c : Char} {front back : Text}
    (h : quoteChar plain c = front ++ '"' :: back) : midEscape front = true := by
  have hquote : '"' ∈ quoteChar plain c := by
    rw [h]
    exact List.mem_append_right front List.mem_cons_self
  rcases quoteChar_cases plain c with ⟨e, _, hform⟩ | ⟨hform, hc⟩ | hform
  · rw [hform] at h
    match front with
    | [] => exact absurd (List.cons.inj h).1 (by decide)
    | [d] =>
      obtain ⟨rfl, -⟩ := List.cons.inj h
      rfl
    | _ :: _ :: front => simp at h
  · rw [hform] at hquote
    obtain rfl := List.mem_singleton.mp hquote
    exact absurd List.mem_cons_self hc
  · rw [hform] at hquote
    exact absurd hquote (notMem_codePointForm (by decide) (by decide) c)

theorem midEscape_flatMap_quoteChar (plain : Char → Bool) (text : Text) :
    midEscape (text.flatMap (quoteChar plain)) = false := by
  induction text with
  | nil => rfl
  | cons c text ih => rw [List.flatMap_cons, midEscape_append (midEscape_quoteChar plain c), ih]

theorem midEscape_of_flatMap_quoteChar {plain : Char → Bool} {text front back : Text}
    (h : text.flatMap (quoteChar plain) = front ++ '"' :: back) : midEscape front = true := by
  induction text generalizing front with
  | nil => simp at h
  | cons c text ih =>
    rw [List.flatMap_cons, List.append_eq_append_iff] at h
    rcases h with ⟨middle, rfl, hrest⟩ | ⟨middle, hchar, hrest⟩
    · rw [midEscape_append (midEscape_quoteChar plain c)]
      exact ih hrest
    · -- The quote is of this form where anything is left of the form before it.
      cases middle with
      | nil =>
        rw [List.append_nil] at hchar
        have hescaped : midEscape [] = true := ih hrest.symm
        exact nomatch hescaped
      | cons d middle =>
        obtain ⟨rfl, -⟩ := List.cons.inj hrest
        exact midEscape_of_quoteChar hchar

theorem midEscape_quoteWith {plain : Char → Bool} {text front back : Text}
    (h : quoteWith plain text = front ++ '"' :: back) :
    midEscape front = false ↔ front = [] ∨ back = [] := by
  cases front with
  | nil => simp [midEscape]
  | cons d front =>
    obtain ⟨rfl, hrest⟩ := List.cons.inj h
    have hopen : midEscape ('"' :: front) = midEscape front := rfl
    rw [hopen]
    rcases List.eq_nil_or_concat back with rfl | ⟨back, e, rfl⟩
    · obtain ⟨rfl, -⟩ := List.append_inj' hrest rfl
      exact iff_of_true (midEscape_flatMap_quoteChar plain text) (.inr rfl)
    · have hlast : text.flatMap (quoteChar plain) ++ ['"'] = (front ++ '"' :: back) ++ [e] := by
        simpa using hrest
      obtain ⟨hbody, -⟩ := List.append_inj' hlast rfl
      rw [midEscape_of_flatMap_quoteChar hbody]
      simp

theorem quoteWith_append_inj_iff {plain : Char → Bool} {a b s t : Text} :
    quoteWith plain a ++ s = quoteWith plain b ++ t ↔ a = b ∧ s = t := by
  constructor
  · exact quoteWith_append_inj
  · rintro ⟨rfl, rfl⟩
    rfl

theorem quoteWith_inj {plain : Char → Bool} {a b : Text} :
    quoteWith plain a = quoteWith plain b ↔ a = b := by
  have hiff : quoteWith plain a ++ [] = quoteWith plain b ++ [] ↔ a = b ∧ [] = [] :=
    quoteWith_append_inj_iff
  rwa [List.append_nil, List.append_nil, and_iff_left rfl] at hiff

end Text

open Text

namespace Message

def nameForm (plain : Char → Bool) : Option Text → Text
  | none => []
  | some name => " as ".toList ++ quoteWith plain name

def spliceForm (plain : Char → Bool) (nested : Text) (name : Option Text) : Text :=
  "splicing group ".toList ++ (quoteWith plain nested ++ nameForm plain name)

theorem body_groupSpliced (nested : Text) :
    (groupSpliced nested).body = spliceForm isPlain nested none :=
  congrArg ("splicing group ".toList ++ ·) (List.append_nil (quoted nested)).symm

theorem body_namedGroupSpliced (nested name : Text) :
    (namedGroupSpliced nested name).body = spliceForm isPlain nested (some name) := by
  unfold body spliceForm nameForm quoted
  simp only [List.append_assoc]

theorem nameForm_inj {plain : Char → Bool} {name other : Option Text} :
    nameForm plain name = nameForm plain other ↔ name = other := by
  cases name with
  | none =>
    cases other with
    | none => exact iff_of_true rfl rfl
    | some other => exact iff_of_false nofun nofun
  | some name =>
    cases other with
    | none => exact iff_of_false nofun nofun
    | some other =>
      unfold nameForm
      rw [List.append_cancel_left_eq, quoteWith_inj, Option.some.injEq]

theorem spliceForm_inj {plain : Char → Bool} {a b : Text} {name other : Option Text} :
    spliceForm plain a name = spliceForm plain b other ↔ a = b ∧ name = other := by
  unfold spliceForm
  rw [List.append_cancel_left_eq, quoteWith_append_inj_iff, nameForm_inj]

theorem namedControl_notMem_spliceForm {control : Char} (h : control ∈ namedControls)
    (plain : Char → Bool) (nested : Text) (name : Option Text) :
    control ∉ spliceForm plain nested name := by
  obtain ⟨hsplicing, has⟩ : control ∉ "splicing group ".toList ∧ control ∉ " as ".toList := by
    rcases eq_of_mem_namedControls h with rfl | rfl | rfl | rfl <;> decide
  refine List.not_mem_append hsplicing
    (List.not_mem_append (namedControl_notMem_quoteWith h plain nested) ?_)
  cases name with
  | none => exact List.not_mem_nil
  | some name => exact List.not_mem_append has (namedControl_notMem_quoteWith h plain name)

end Message

namespace Pattern

def inspectWith (plain : Char → Bool) (p : Pattern) : Text :=
  "Pattern \x7b source: ".toList ++ (quoteWith plain p.source ++ " \x7d".toList)

theorem inspect_eq (p : Pattern) : p.inspect = p.inspectWith isPlain := List.append_assoc ..

theorem inspectWith_inj {plain : Char → Bool} {p q : Pattern} :
    p.inspectWith plain = q.inspectWith plain ↔ p = q := by
  unfold inspectWith
  rw [List.append_cancel_left_eq, quoteWith_append_inj_iff, and_iff_left rfl]
  cases p
  cases q
  exact (mk.injEq _ _).symm.to_iff

end Pattern

namespace Command

def unknownForm (plain : Char → Bool) (name : Text) : Text :=
  "Unknown preset ".toList ++ (quoteWith plain name ++ knownNames)

theorem message_unknownPreset (name : Text) :
    (Failure.unknownPreset name).message = unknownForm isPlain name := List.append_assoc ..

theorem unknownForm_inj {plain : Char → Bool} {name other : Text} :
    unknownForm plain name = unknownForm plain other ↔ name = other := by
  unfold unknownForm
  rw [List.append_cancel_left_eq, quoteWith_append_inj_iff, and_iff_left rfl]

end Command

open Message Command

/-- Whichever characters are plain, one reader gives back every text from its quoted form, in which
no named control shows and no double quote is read as one but the first and the last. So the
messages of splices tell what they quote, and on one line, and a message with a name is none
without; and patterns field by field and the failures to know a name tell what they show. The last
part says that these are the texts that are written. -/
theorem Text.quoteWith_tells (plain : Char → Bool) :
    (∀ text, unquote? (quoteWith plain text) = some (text, []) ∧
      (∀ control ∈ namedControls, control ∉ quoteWith plain text) ∧
      ∀ front back, quoteWith plain text = front ++ '"' :: back →
        (midEscape front = false ↔ front = [] ∨ back = [])) ∧
    (∀ a b name other,
      spliceForm plain a name = spliceForm plain b other ↔ a = b ∧ name = other) ∧
    (∀ a name, ∀ control ∈ namedControls, control ∉ spliceForm plain a name) ∧
    (∀ p q : Pattern, p.inspectWith plain = q.inspectWith plain ↔ p = q) ∧
    (∀ a b, unknownForm plain a = unknownForm plain b ↔ a = b) ∧
    (∀ nested name, (groupSpliced nested).body = spliceForm isPlain nested none ∧
      (namedGroupSpliced nested name).body = spliceForm isPlain nested (some name)) ∧
    (∀ p : Pattern, p.inspect = p.inspectWith isPlain) ∧
    ∀ name, (Failure.unknownPreset name).message = unknownForm isPlain name := by
  refine ⟨fun text => ⟨?_, ?_, ?_⟩, ?_, ?_, ?_, ?_, ?_, ?_, ?_⟩
  · exact unquote?_quoteWith_self plain text
  · exact fun control h => namedControl_notMem_quoteWith h plain text
  · exact fun front back h => midEscape_quoteWith h
  · exact fun a b name other => spliceForm_inj
  · exact fun a name control h => namedControl_notMem_spliceForm h plain a name
  · exact fun p q => Pattern.inspectWith_inj
  · exact fun a b => unknownForm_inj
  · exact fun nested name => ⟨body_groupSpliced nested, body_namedGroupSpliced nested name⟩
  · exact Pattern.inspect_eq
  · exact message_unknownPreset

/-- The source of one group looks like the source and the name of another. -/
theorem Text.quoteWith_tells_lookalike :
    ('\n' ∈ namedControls ∧ '\n' ∉ spliceForm isPlain "x\" as \"\n".toList none) ∧
    (quoteWith isPlain "x\" as \"".toList = "\"x\\".toList ++ '"' :: " as \\\"\"".toList ∧
      midEscape "\"x\\".toList = true) ∧
    (groupSpliced "x\" as \"y".toList).body ≠ (namedGroupSpliced "x".toList "y".toList).body := by
  obtain ⟨hquoted, hsplice, hline, _, _, hbody, _⟩ := quoteWith_tells isPlain
  have hnewline : '\n' ∈ namedControls := by decide
  have hform : quoteWith isPlain "x\" as \"".toList =
      "\"x\\".toList ++ '"' :: " as \\\"\"".toList := by decide +kernel
  obtain ⟨_, _, hquotes⟩ := hquoted "x\" as \"".toList
  refine ⟨⟨hnewline, hline _ none '\n' hnewline⟩, ⟨hform, ?_⟩, ?_⟩
  · rw [← Bool.not_eq_false, hquotes _ _ hform]
    decide
  · rw [(hbody _ []).1, (hbody _ _).2, Ne, hsplice]
    exact fun h => nomatch h.2

end PatternBuilder

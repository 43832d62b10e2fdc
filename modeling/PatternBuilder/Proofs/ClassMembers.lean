import PatternBuilder.Proofs.Fragment
import PatternBuilder.Proofs.Inspection
import PatternBuilder.Proofs.QuantifierLanguage
import PatternBuilder.Regex.ClassBody
import PatternBuilder.Text.Cutting

/-!
# The members of a class

The steps on a class put ranges and single characters into its body, and the body is the text of
these members in the order of the calls. Where no end of a range has a meaning of its own, the
members are read back from left to right: a listed character never joins a range beside it. So the
class, its text and its form field by field each tell the members and the quantifier. The main
statement is `ClassStep.class_eq_iff`.
-/
namespace PatternBuilder

namespace Regex
open Text

def Symbol.listed (c : Char) : Symbol := if c ∈ classSpecials then .escaped c else .bare c

@[simp] theorem Symbol.char_listed (c : Char) : (listed c).char = c := by
  unfold listed
  split <;> rfl

theorem Symbol.listed_eq_bare_iff {c d : Char} :
    listed c = .bare d ↔ c = d ∧ c ∉ classSpecials := by
  unfold listed
  split <;> simp [*]

namespace Member

def written : Member → Text
  | .single c => escapeChar classSpecials c
  | .range a b => [a, '-', b]

/-- The ends of a range have no meaning of their own. -/
def PlainEnds : Member → Prop
  | .single _ => True
  | .range a b => a ∉ classSpecials ∧ b ∉ classSpecials

def symbols : Member → List Symbol
  | .single c => [.listed c]
  | .range a b => [.bare a, .bare '-', .bare b]

theorem ne_of_notMem_classSpecials {c : Char} (h : c ∉ classSpecials) : c ≠ '\\' ∧ c ≠ '-' := by
  simp only [classSpecials, List.mem_cons, not_or] at h
  exact ⟨h.1, h.2.2.1⟩

theorem head?_written_append {m : Member} (h : m.PlainEnds) (rest : Text) :
    (m.written ++ rest).head? ≠ some '-' := by
  cases m with
  | single c =>
    by_cases hc : c ∈ classSpecials
    · simp [written, escapeChar_of_mem hc]
    · simpa [written, escapeChar_of_notMem hc] using (ne_of_notMem_classSpecials hc).2
  | range a b => simpa [written] using (ne_of_notMem_classSpecials h.1).2

theorem head?_flatMap_written {members : List Member} (h : ∀ m ∈ members, m.PlainEnds) :
    (members.flatMap written).head? ≠ some '-' := by
  cases members with
  | nil => exact nofun
  | cons m members => exact head?_written_append (h m List.mem_cons_self) _

end Member

namespace ClassBody

/-- The members from left to right. A backslash makes the next character single, and another
character begins a range when a hyphen and one more character follow. -/
def read : Text → List Member
  | '\\' :: c :: rest => .single c :: read rest
  | a :: '-' :: b :: rest => .range a b :: read rest
  | a :: rest => .single a :: read rest
  | [] => []

theorem read_escaped (c : Char) (rest : Text) :
    read ('\\' :: c :: rest) = .single c :: read rest := by
  rw [read]

theorem read_range {a : Char} (h : a ≠ '\\') (b : Char) (rest : Text) :
    read (a :: '-' :: b :: rest) = .range a b :: read rest := by
  rw [read]
  exact fun heq => absurd heq h

theorem read_single {a : Char} (h : a ≠ '\\') {rest : Text} (hrest : rest.head? ≠ some '-') :
    read (a :: rest) = .single a :: read rest := by
  rw [read]
  · intro c tail heq
    exact absurd heq h
  · rintro b tail rfl
    exact absurd rfl hrest

theorem read_written {members : List Member} (h : ∀ m ∈ members, m.PlainEnds) :
    read (members.flatMap Member.written) = members := by
  induction members with
  | nil => rfl
  | cons m members ih =>
    have hrest : ∀ m ∈ members, m.PlainEnds := fun d hd => h d (List.mem_cons_of_mem m hd)
    rw [List.flatMap_cons]
    cases m with
    | single c =>
      by_cases hc : c ∈ classSpecials
      · rw [Member.written, escapeChar_of_mem hc, List.cons_append, List.singleton_append,
          read_escaped, ih hrest]
      · -- The text of the next member does not begin with a hyphen, so no range begins here.
        have hslash := (Member.ne_of_notMem_classSpecials hc).1
        rw [Member.written, escapeChar_of_notMem hc, List.singleton_append,
          read_single hslash (Member.head?_flatMap_written hrest), ih hrest]
    | range a b =>
      obtain ⟨ha, _⟩ := h _ List.mem_cons_self
      have hslash := (Member.ne_of_notMem_classSpecials ha).1
      rw [Member.written, List.cons_append, List.cons_append, List.singleton_append,
        read_range hslash, ih hrest]

theorem symbols_bare {a : Char} (h : a ≠ '\\') (rest : Text) :
    symbols (a :: rest) = .bare a :: symbols rest := by
  rw [symbols]
  intro c tail heq
  exact absurd heq h

theorem symbols_written {members : List Member} (h : ∀ m ∈ members, m.PlainEnds) :
    symbols (members.flatMap Member.written) = members.flatMap Member.symbols := by
  induction members with
  | nil => rfl
  | cons m members ih =>
    rw [List.flatMap_cons, List.flatMap_cons,
      ← ih fun d hd => h d (List.mem_cons_of_mem m hd)]
    cases m with
    | single c =>
      by_cases hc : c ∈ classSpecials
      · rw [Member.written, escapeChar_of_mem hc, Member.symbols, Symbol.listed, if_pos hc]
        rfl
      · have hslash := (Member.ne_of_notMem_classSpecials hc).1
        rw [Member.written, escapeChar_of_notMem hc, Member.symbols, Symbol.listed, if_neg hc,
          List.singleton_append, symbols_bare hslash, List.singleton_append]
    | range a b =>
      obtain ⟨ha, hb⟩ := h _ List.mem_cons_self
      have hends := (Member.ne_of_notMem_classSpecials ha).1
      have hends' := (Member.ne_of_notMem_classSpecials hb).1
      rw [Member.written, List.cons_append, List.cons_append, List.singleton_append,
        symbols_bare hends, symbols_bare (by decide), symbols_bare hends']
      rfl

theorem membersOf_single (a : Symbol) {rest : List Symbol} (h : rest.head? ≠ some (.bare '-')) :
    membersOf (a :: rest) = .single a.char :: membersOf rest := by
  rw [membersOf]
  rintro b tail rfl
  exact absurd rfl h

theorem head?_flatMap_symbols {members : List Member} (h : ∀ m ∈ members, m.PlainEnds) :
    (members.flatMap Member.symbols).head? ≠ some (.bare '-') := by
  cases members with
  | nil => exact nofun
  | cons m members =>
    cases m with
    | single c =>
      intro h
      obtain ⟨rfl, hc⟩ := Symbol.listed_eq_bare_iff.mp (Option.some.inj h)
      exact hc (by decide)
    | range a b =>
      simpa [Member.symbols] using
        (Member.ne_of_notMem_classSpecials (h _ List.mem_cons_self).1).2

theorem members_written {members : List Member} (h : ∀ m ∈ members, m.PlainEnds) :
    ClassBody.members (members.flatMap Member.written) = members := by
  rw [ClassBody.members, symbols_written h]
  induction members with
  | nil => rfl
  | cons m members ih =>
    have hrest : ∀ m ∈ members, m.PlainEnds := fun d hd => h d (List.mem_cons_of_mem m hd)
    rw [List.flatMap_cons]
    cases m with
    | single c =>
      rw [Member.symbols, List.singleton_append, membersOf_single _ (head?_flatMap_symbols hrest),
        ih hrest, Symbol.char_listed]
    | range a b =>
      rw [Member.symbols, List.cons_append, List.cons_append, List.singleton_append, membersOf,
        ih hrest]
      rfl

end ClassBody
end Regex

open Regex

namespace ClassStep

def members : ClassStep → List Member
  | .range first last => [.range first last]
  | .oneOf first second others => (first :: second :: others).map .single
  | .peek | .inspect | .save _ | .compare _ => []

def membersAll (steps : List ClassStep) : List Member := steps.flatMap members

theorem written_eq (step : ClassStep) : step.written = step.members.flatMap Member.written := by
  cases step with
  | oneOf first second others => rw [members, List.flatMap_map]; rfl
  | range _ _ | peek | inspect | save _ | compare _ => rfl

theorem writtenAll_eq (steps : List ClassStep) :
    writtenAll steps = (membersAll steps).flatMap Member.written := by
  rw [membersAll, List.flatMap_assoc]
  exact List.flatMap_congr fun step _ => written_eq step

def PlainEnds (steps : List ClassStep) : Prop :=
  ∀ a b, .range a b ∈ steps → a ∉ Text.classSpecials ∧ b ∉ Text.classSpecials

theorem PlainEnds.of_mem {steps : List ClassStep} (h : PlainEnds steps) :
    ∀ m ∈ membersAll steps, m.PlainEnds := by
  intro m hm
  obtain ⟨step, hstep, hmem⟩ := List.mem_flatMap.mp hm
  cases step with
  | range a b =>
    obtain rfl := List.mem_singleton.mp hmem
    exact h a b hstep
  | oneOf first second others =>
    obtain ⟨c, _, rfl⟩ := List.mem_map.mp hmem
    exact trivial
  | peek | inspect | save _ | compare _ => exact absurd hmem List.not_mem_nil

theorem value_runAll (steps : List ClassStep) (q : Quantifier) (saved : SavedClasses) :
    (runAll { quantifier := q } steps saved).value =
      { body := (membersAll steps).flatMap Member.written, quantifier := q } := by
  rw [(settles_runAll steps _ saved).1, ← writtenAll_eq]
  rfl

end ClassStep

namespace CharacterClass

theorem render_inj {cls other : CharacterClass} (h : cls.quantifier.Granted)
    (hother : other.quantifier.Granted) (hrender : cls.render = other.render) : cls = other := by
  have hbracket (q : Quantifier) : ']' ∉ q.render := by
    intro hmem
    have hnot : ¬(']' ∈ Quantifier.marks ∨ ']' ∈ ['\x7b', ',', '\x7d'] ∨
      ']'.isDigit = true) := by decide
    exact hnot (Quantifier.isSign_of_mem_render hmem)
  have htail : cls.body ++ ']' :: cls.quantifier.render =
      other.body ++ ']' :: other.quantifier.render := (List.cons.inj hrender).2
  obtain ⟨hbody, hsuffix⟩ := Text.cut_inj_last (hbracket _) (hbracket _) htail
  have hquantifier := h.eq_of_render_eq hother hsuffix
  cases cls
  cases other
  cases hbody
  cases hquantifier
  rfl

end CharacterClass

namespace ClassStep

theorem read_value {steps : List ClassStep} (h : PlainEnds steps) (q : Quantifier)
    (saved : SavedClasses) :
    ClassBody.read (runAll { quantifier := q } steps saved).value.body = membersAll steps := by
  rw [value_runAll]
  exact ClassBody.read_written h.of_mem

theorem members_value {steps : List ClassStep} (h : PlainEnds steps) (q : Quantifier)
    (saved : SavedClasses) :
    ClassBody.members (runAll { quantifier := q } steps saved).value.body = membersAll steps := by
  rw [value_runAll]
  exact ClassBody.members_written h.of_mem

theorem quantifier_value (steps : List ClassStep) (q : Quantifier) (saved : SavedClasses) :
    (runAll { quantifier := q } steps saved).value.quantifier = q := by
  rw [value_runAll]

theorem value_eq_iff {steps steps' : List ClassStep} (h : PlainEnds steps) (h' : PlainEnds steps')
    (q q' : Quantifier) (saved saved' : SavedClasses) :
    (runAll { quantifier := q } steps saved).value =
        (runAll { quantifier := q' } steps' saved').value ↔
      membersAll steps = membersAll steps' ∧ q = q' := by
  constructor
  · intro heq
    constructor
    · rw [← read_value h q saved, heq, read_value h']
    · rw [← quantifier_value steps q saved, heq, quantifier_value]
  · rintro ⟨hsame, rfl⟩
    rw [value_runAll, value_runAll, hsame]

theorem value_merge (front back : List ClassStep) (a b c d : Char) (cs ds : List Char)
    (q : Quantifier) (saved : SavedClasses) :
    (runAll { quantifier := q } (front ++ .oneOf a b cs :: .oneOf c d ds :: back) saved).value =
      (runAll { quantifier := q } (front ++ .oneOf a b (cs ++ c :: d :: ds) :: back)
        saved).value := by
  rw [value_runAll, value_runAll]
  simp only [membersAll, members, List.flatMap_append, List.flatMap_cons, List.map_append,
    List.map_cons, List.cons_append, List.append_assoc]

/-- The body of a class is read back as the members that its steps put in, in order. Classes are
equal, look the same and have the same form field by field exactly when their members and their
quantifiers are the same, so it makes no difference how listed characters are spread over calls. -/
theorem class_eq_iff {steps steps' : List ClassStep} (h : PlainEnds steps) (h' : PlainEnds steps')
    {q q' : Quantifier} (hq : q.Granted) (hq' : q'.Granted) (saved saved' : SavedClasses) :
    let cls := (runAll { quantifier := q } steps saved).value
    let cls' := (runAll { quantifier := q' } steps' saved').value
    ClassBody.read cls.body = membersAll steps ∧
    ClassBody.members cls.body = membersAll steps ∧
    (cls = cls' ↔ membersAll steps = membersAll steps' ∧ q = q') ∧
    (cls.render = cls'.render ↔ membersAll steps = membersAll steps' ∧ q = q') ∧
    (cls.inspect = cls'.inspect ↔ membersAll steps = membersAll steps' ∧ q = q') ∧
    ∀ front back a b cs c d ds,
      (runAll { quantifier := q } (front ++ .oneOf a b cs :: .oneOf c d ds :: back) saved).value =
        (runAll { quantifier := q } (front ++ .oneOf a b (cs ++ c :: d :: ds) :: back)
          saved).value := by
  intro cls cls'
  have hgranted : cls.quantifier.Granted := by rwa [quantifier_value]
  have hgranted' : cls'.quantifier.Granted := by rwa [quantifier_value]
  have heq := value_eq_iff h h' q q' saved saved'
  have hrender : cls.render = cls'.render ↔ cls = cls' :=
    ⟨CharacterClass.render_inj hgranted hgranted', congrArg CharacterClass.render⟩
  have hinspect : cls.inspect = cls'.inspect ↔ cls = cls' :=
    ⟨CharacterClass.inspect_inj, congrArg CharacterClass.inspect⟩
  refine ⟨read_value h q saved, members_value h q saved, heq, hrender.trans heq,
    hinspect.trans heq, ?_⟩
  intro front back a b cs c d ds
  exact value_merge front back a b c d cs ds q saved

theorem class_eq_iff_seamSample :
    (PlainEnds [.range 'a' 'f', .oneOf '-' '^' ['z', '-'], .range '0' '9'] ∧
      PlainEnds [.range 'a' 'f', .oneOf '-' '^' [], .peek, .oneOf 'z' '-' [], .range '0' '9'] ∧
      Quantifier.optional.Granted) ∧
    ClassBody.read "a-f\\-\\^z\\-0-9".toList =
      [.range 'a' 'f', .single '-', .single '^', .single 'z', .single '-', .range '0' '9'] ∧
    (runAll { quantifier := Quantifier.optional }
        [.range 'a' 'f', .oneOf '-' '^' ['z', '-'], .range '0' '9'] Shelf.empty).value =
      (runAll { quantifier := Quantifier.optional }
        [.range 'a' 'f', .oneOf '-' '^' [], .peek, .oneOf 'z' '-' [], .range '0' '9']
        Shelf.empty).value := by
  have hends : PlainEnds [.range 'a' 'f', .oneOf '-' '^' ['z', '-'], .range '0' '9'] := by
    intro a b hmem
    simp only [List.mem_cons, range.injEq, reduceCtorEq, false_or, List.not_mem_nil,
      or_false] at hmem
    rcases hmem with ⟨rfl, rfl⟩ | ⟨rfl, rfl⟩ <;> decide
  have hends' :
      PlainEnds [.range 'a' 'f', .oneOf '-' '^' [], .peek, .oneOf 'z' '-' [], .range '0' '9'] := by
    intro a b hmem
    simp only [List.mem_cons, range.injEq, reduceCtorEq, false_or, List.not_mem_nil,
      or_false] at hmem
    rcases hmem with ⟨rfl, rfl⟩ | ⟨rfl, rfl⟩ <;> decide
  have hgranted : Quantifier.optional.Granted := ⟨.optional, rfl⟩
  obtain ⟨hread, _, hiff, _⟩ :=
    class_eq_iff hends hends' hgranted hgranted Shelf.empty Shelf.empty
  exact ⟨⟨hends, hends', hgranted⟩, hread, hiff.mpr ⟨rfl, rfl⟩⟩

end ClassStep
end PatternBuilder

import PatternBuilder.Proofs.Conditions
import PatternBuilder.Proofs.QuantifierText

/-!
# Brackets

A scan over source text keeps the depth of the open parentheses, counts the ones opened, and knows
whether it is within a class or after a backslash. A text is enclosed when every scan that enters it
outside a class leaves it at the depth at which it came in. What a program appends is enclosed, and
opens one parenthesis for each element that is put between parentheses. The main statement is
`Step.enclosed_fragmentAll`.
-/
namespace PatternBuilder

structure Scan where
  depth : Nat := 0
  opened : Nat := 0
  inClass : Bool := false
  escaped : Bool := false
  deriving DecidableEq

namespace Scan

def next (s : Scan) (c : Char) : Option Scan :=
  if s.escaped then some { s with escaped := false }
  else if c = '\\' then some { s with escaped := true }
  else if s.inClass then some { s with inClass := c ≠ ']' }
  else if c = '[' then some { s with inClass := true }
  else if c = '(' then some { s with depth := s.depth + 1, opened := s.opened + 1 }
  else if c = ')' then if s.depth = 0 then none else some { s with depth := s.depth - 1 }
  else some s

def across (s : Scan) (text : Text) : Option Scan := text.foldlM next s

theorem across_append (s : Scan) (a b : Text) :
    s.across (a ++ b) = (s.across a).bind (·.across b) :=
  List.foldlM_append

theorem across_cons (s : Scan) (c : Char) (text : Text) :
    s.across (c :: text) = (s.next c).bind (·.across text) := rfl

def outside (depth opened : Nat) : Scan := { depth, opened }

theorem across_closed {text : Text} (h : text.Closed) (depth opened : Nat) :
    across { depth, opened, inClass := true } text = some { depth, opened, inClass := true } := by
  induction h with
  | nil => rfl
  | char hslash hbracket _ ih =>
    rw [across_cons]
    simp only [next, Bool.false_eq_true, if_false, if_true, hslash, hbracket, ne_eq,
      not_false_eq_true, decide_true]
    exact ih
  | escaped c _ ih =>
    rw [across_cons]
    exact ih

end Scan

namespace Text
open Scan

/-- The text closes every parenthesis that it opens, and it opens this many. -/
def Enclosed (text : Text) (groups : Nat) : Prop :=
  ∀ depth opened, (outside depth opened).across text = some (outside depth (opened + groups))

theorem enclosed_nil : Enclosed [] 0 := fun _ _ => rfl

theorem Enclosed.append {a b : Text} {m n : Nat} (ha : Enclosed a m) (hb : Enclosed b n) :
    Enclosed (a ++ b) (m + n) := by
  intro depth opened
  rw [across_append, ha depth opened, Option.bind_some, hb depth (opened + m), Nat.add_assoc]

def structural : Text := ['\\', '(', ')', '[']

theorem next_of_notMem {c : Char} (h : c ∉ structural) (depth opened : Nat) :
    (outside depth opened).next c = some (outside depth opened) := by
  simp only [structural, List.mem_cons, List.not_mem_nil, or_false, not_or] at h
  simp [next, outside, h]

theorem enclosed_of_plain {text : Text} (h : ∀ c ∈ text, c ∉ structural) : Enclosed text 0 := by
  intro depth opened
  induction text with
  | nil => rfl
  | cons c text ih =>
    rw [across_cons, next_of_notMem (h c List.mem_cons_self), Option.bind_some]
    exact ih fun d hd => h d (List.mem_cons_of_mem c hd)

theorem enclosed_pair (c : Char) : Enclosed ['\\', c] 0 := fun _ _ => rfl

theorem Enclosed.parenthesized {text : Text} {n : Nat} (h : Enclosed text n) :
    Enclosed (Pattern.parenthesized text) (n + 1) := by
  intro depth opened
  have hopen : (outside depth opened).next '(' = some (outside (depth + 1) (opened + 1)) := rfl
  have hclose : (outside (depth + 1) (opened + 1 + n)).across [')'] =
      some (outside depth (opened + 1 + n)) := rfl
  rw [Pattern.parenthesized, List.cons_append, across_cons, hopen, Option.bind_some, across_append,
    h, Option.bind_some, hclose, Nat.add_right_comm, Nat.add_assoc]

theorem Closed.enclosed_bracketed {body : Text} (h : body.Closed) :
    Enclosed (Pattern.bracketed body) 0 := by
  intro depth opened
  have hopen : (outside depth opened).next '[' = some { depth, opened, inClass := true } := rfl
  rw [Pattern.bracketed, List.cons_append, across_cons, hopen, Option.bind_some, across_append,
    across_closed h, Option.bind_some]
  rfl

theorem Enclosed.intercalate_cons {branch : Text} {branches : List Text} {m n : Nat}
    (hbranch : Enclosed branch m) (hbranches : Enclosed (['|'].intercalate branches) n) :
    Enclosed (['|'].intercalate (branch :: branches)) (m + n) := by
  cases branches with
  | nil =>
    -- With nothing to separate, the rest is the empty text, which opens no group.
    have hn : some 0 = some (0 + n) := congrArg (Option.map Scan.opened) (hbranches 0 0)
    obtain rfl : n = 0 := by simpa using hn.symm
    rw [List.intercalate_singleton]
    exact hbranch
  | cons second rest =>
    have hbar : Enclosed ['|'] 0 := fun _ _ => rfl
    have hseparated := hbranch.append (hbar.append hbranches)
    rw [Nat.zero_add] at hseparated
    rw [List.intercalate_cons_cons, List.append_assoc]
    exact hseparated

/-- Each run of backslashes that a special character follows, or the end of the text, has even
length. The number is how many backslashes stand directly before. -/
def evenRuns : Nat → Text → Bool
  | k, [] => k % 2 == 0
  | k, c :: rest =>
    if c = '\\' then evenRuns (k + 1) rest
    else (c ∉ literalSpecials || k % 2 == 0) && evenRuns 0 rest

theorem next_backslash (depth opened k : Nat) :
    next { depth, opened, escaped := k % 2 == 1 } '\\' =
      some { depth, opened, escaped := (k + 1) % 2 == 1 } := by
  rcases Nat.mod_two_eq_zero_or_one k with hk | hk
  · simp [next, hk, Nat.add_mod]
  · simp [next, hk, Nat.add_mod]

theorem next_plain {c : Char} (hslash : c ≠ '\\') (h : c ∉ literalSpecials)
    (depth opened k : Nat) :
    next { depth, opened, escaped := k % 2 == 1 } c = some (outside depth opened) := by
  rcases Nat.mod_two_eq_zero_or_one k with hk | hk
  · have hplain : c ∉ structural := by
      simp only [literalSpecials, structural, List.mem_cons, List.not_mem_nil, or_false,
        not_or] at h ⊢
      exact ⟨hslash, h.1, h.2.1, h.2.2.1⟩
    rw [hk]
    exact next_of_notMem hplain depth opened
  · simp [next, outside, hk]

theorem across_escape {text : Text} {k : Nat} (h : evenRuns k text = true) (depth opened : Nat) :
    across { depth, opened, escaped := k % 2 == 1 } (escape literalSpecials text) =
      some (outside depth opened) := by
  induction text generalizing k with
  | nil =>
    have hk : k % 2 = 0 := by simpa [evenRuns] using h
    rw [hk]
    rfl
  | cons c text ih =>
    rw [escape_cons]
    by_cases hslash : c = '\\'
    · subst hslash
      have hplain : '\\' ∉ literalSpecials := by decide
      have hrest : evenRuns (k + 1) text = true := by simpa [evenRuns] using h
      rw [escapeChar_of_notMem hplain, List.singleton_append, across_cons, next_backslash,
        Option.bind_some]
      exact ih hrest
    · rw [evenRuns, if_neg hslash, Bool.and_eq_true] at h
      by_cases hspecial : c ∈ literalSpecials
      · have hk : k % 2 = 0 := by simpa [hspecial] using h.1
        rw [escapeChar_of_mem hspecial, across_append, hk]
        exact ih h.2
      · rw [escapeChar_of_notMem hspecial, List.singleton_append, across_cons,
          next_plain hslash hspecial, Option.bind_some]
        exact ih h.2

theorem enclosed_escape {text : Text} (h : evenRuns 0 text = true) :
    Enclosed (escape literalSpecials text) 0 :=
  fun depth opened => across_escape h depth opened

end Text

namespace Quantifier

theorem notMem_structural_of_mem_render {q : Quantifier} {c : Char} (hc : c ∈ q.render) :
    c ∉ Text.structural := by
  intro hstructural
  have hnot : ∀ d ∈ Text.structural,
      d ∉ marks ∧ d ∉ ['\x7b', ',', '\x7d'] ∧ d.isDigit = false := by
    simp [Text.structural, marks]
  obtain ⟨hmarks, hbraces, hdigit⟩ := hnot c hstructural
  rcases isSign_of_mem_render hc with hc | hc | hc
  · exact hmarks hc
  · exact hbraces hc
  · rw [hdigit] at hc
    exact Bool.false_ne_true hc

theorem enclosed_render (q : Quantifier) : Text.Enclosed q.render 0 :=
  Text.enclosed_of_plain fun _ => notMem_structural_of_mem_render

end Quantifier

namespace Repetition

def counted (times : Option Repetition) (groups : Quantifier → Nat) : Nat :=
  match verdict times with
  | .ok q => groups q
  | .error _ => 0

theorem enclosed_written {times : Option Repetition} {element : Quantifier → Text}
    {groups : Quantifier → Nat} (h : ∀ q, Text.Enclosed (element q) (groups q)) :
    Text.Enclosed (written times element) (counted times groups) := by
  unfold counted
  split
  · next q hv =>
    rw [written_of_ok hv]
    exact (h q).append q.enclosed_render
  · next r hv =>
    rw [written_of_error hv]
    exact Text.enclosed_nil

theorem enclosed_written_zero {times : Option Repetition} {element : Quantifier → Text}
    (h : ∀ q, Text.Enclosed (element q) 0) : Text.Enclosed (written times element) 0 := by
  have hwritten : Text.Enclosed (written times element) (counted times fun _ => 0) :=
    enclosed_written h
  have hzero : counted times (fun _ => 0) = 0 := by
    unfold counted
    split <;> rfl
  rw [hzero] at hwritten
  exact hwritten

end Repetition

def Pattern.literalGroups (text : Text) (q : Quantifier) : Nat :=
  if q ≠ Quantifier.once ∧ 2 ≤ text.length then 1 else 0

theorem Pattern.enclosed_namedElement {name nested : Text} {n : Nat}
    (hname : name.all (fun c => c ∉ Text.structural) = true) (hnested : Text.Enclosed nested n) :
    Text.Enclosed (namedElement name nested) (n + 1) := by
  have hname' : ∀ c ∈ name, c ∉ Text.structural := by simpa using hname
  have hmark : Text.Enclosed "?<".toList 0 := fun _ _ => rfl
  have hend : Text.Enclosed ['>'] 0 := fun _ _ => rfl
  have hopening := (hmark.append (Text.enclosed_of_plain hname')).append hend
  have hinner := hopening.append hnested
  simp only [Nat.zero_add, List.append_assoc, List.singleton_append] at hinner
  exact hinner.parenthesized

theorem Pattern.enclosed_literalElement {text : Text} (h : Text.evenRuns 0 text = true)
    (q : Quantifier) : Text.Enclosed (literalElement text q) (literalGroups text q) := by
  unfold literalElement literalGroups
  split
  · exact (Text.enclosed_escape h).parenthesized
  · exact Text.enclosed_escape h

namespace Step
open Repetition

mutual

/-- The parentheses that a step opens: one for each group, alternation and repeated literal. -/
def groups : Step → Nat
  | .literal text times => counted times (Pattern.literalGroups text)
  | .char c times => counted times (Pattern.literalGroups [c])
  | .group body times | .namedGroup _ body times => counted times fun _ => groupsAll body + 1
  | .oneOfLiterals _ _ _ times => counted times fun _ => 1
  | .oneOf first second others times =>
    counted times fun _ => groupsAll first + (groupsAll second + groupsBranches others) + 1
  | .digit _ | .word _ | .startOfLine | .endOfLine | .characterClass _ _ | .oneOfChars _ _ _ _
  | .peek | .inspect => 0

def groupsAll : List Step → Nat
  | [] => 0
  | step :: steps => step.groups + groupsAll steps

def groupsBranches : List (List Step) → Nat
  | [] => 0
  | branch :: branches => groupsAll branch + groupsBranches branches

end

end Step

def Conditions.scannable : Conditions where
  literal _ text := Text.evenRuns 0 text
  endpoint c := c ∉ ['\\', '[', ']']
  name text := text.all fun c => c ∉ Text.structural

namespace Step
open Repetition

theorem enclosed_literals {texts : List Text} (h : texts.all (Text.evenRuns 0) = true) :
    Text.Enclosed (['|'].intercalate (texts.map (Text.escape Text.literalSpecials))) 0 := by
  induction texts with
  | nil => exact Text.enclosed_nil
  | cons text texts ih =>
    rw [List.all_cons, Bool.and_eq_true] at h
    exact (Text.enclosed_escape h.1).intercalate_cons (ih h.2)

mutual

theorem enclosed_fragment (step : Step) (h : step.meets .scannable = true) :
    Text.Enclosed step.fragment step.groups := by
  cases step with
  | literal text times => exact enclosed_written (Pattern.enclosed_literalElement h)
  | char c times => exact enclosed_written (Pattern.enclosed_literalElement h)
  | digit times => exact enclosed_written_zero fun _ => Text.enclosed_pair 'd'
  | word times => exact enclosed_written_zero fun _ => Text.enclosed_pair 'w'
  | startOfLine | endOfLine => exact fun _ _ => rfl
  | characterClass steps times =>
    have hends : ∀ c, Conditions.scannable.endpoint c = true → c ≠ '\\' ∧ c ≠ ']' := by
      intro c hc
      simp only [Conditions.scannable, List.mem_cons, List.not_mem_nil, or_false, not_or,
        decide_eq_true_eq] at hc
      exact ⟨hc.1, hc.2.2⟩
    have hclosed := ClassStep.closed_writtenAll hends h
    exact enclosed_written_zero fun _ => hclosed.enclosed_bracketed
  | group body times =>
    exact enclosed_written fun _ => (enclosed_fragmentAll body h).parenthesized
  | namedGroup name body times =>
    rw [meets, Bool.and_eq_true] at h
    have hbody := enclosed_fragmentAll body h.2
    exact enclosed_written fun _ => Pattern.enclosed_namedElement h.1 hbody
  | oneOfChars first second others times =>
    have hclosed := Text.closed_escape (first :: second :: others)
    exact enclosed_written_zero fun _ => hclosed.enclosed_bracketed
  | oneOfLiterals first second others times =>
    exact enclosed_written fun _ => (enclosed_literals h).parenthesized
  | oneOf first second others times =>
    rw [meets, Bool.and_eq_true, Bool.and_eq_true] at h
    have hbranches := (enclosed_fragmentAll second h.2.1).intercalate_cons
      (enclosed_fragmentBranches others h.2.2)
    exact enclosed_written fun _ =>
      ((enclosed_fragmentAll first h.1).intercalate_cons hbranches).parenthesized
  | peek | inspect => exact Text.enclosed_nil

theorem enclosed_fragmentAll (steps : List Step) (h : meetsAll .scannable steps = true) :
    Text.Enclosed (fragmentAll steps) (groupsAll steps) := by
  cases steps with
  | nil => exact Text.enclosed_nil
  | cons step steps =>
    rw [meetsAll, Bool.and_eq_true] at h
    exact (enclosed_fragment step h.1).append (enclosed_fragmentAll steps h.2)

theorem enclosed_fragmentBranches (branches : List (List Step))
    (h : meetsBranches .scannable branches = true) :
    Text.Enclosed (['|'].intercalate (fragmentBranches branches)) (groupsBranches branches) := by
  cases branches with
  | nil => exact Text.enclosed_nil
  | cons branch branches =>
    rw [meetsBranches, Bool.and_eq_true] at h
    exact (enclosed_fragmentAll branch h.1).intercalate_cons
      (enclosed_fragmentBranches branches h.2)

end

/-- The source of a program has matching brackets: a scan of it ends at depth zero, outside classes
and not after a backslash, and has met one opening parenthesis for each group of the program. -/
theorem scan_source (steps : List Step) (h : meetsAll .scannable steps = true)
    (saved : SavedClasses) :
    Scan.across {} (Pattern.empty.run steps saved).value.source =
      some { depth := 0, opened := groupsAll steps, inClass := false, escaped := false } := by
  have hscan := enclosed_fragmentAll steps h 0 0
  rw [Nat.zero_add] at hscan
  rw [source_runAll, Pattern.source_empty, List.nil_append]
  exact hscan

def bracketSample : List Step :=
  [.literal "\\\\(".toList (some .optional),
    .group [.namedGroup "n".toList [.characterClass [.range '(' 'z', .oneOf '[' ']' []] none,
      .oneOfLiterals ")".toList [] [] (some (.range 1 3))] none] (some (.atLeast 2)),
    .oneOf [.peek] [.group [.word none] (some (.exactly 0))] [[.group [] none]] none,
    .literal "\\|)".toList none]

theorem scan_source_bracketSample :
    meetsAll .scannable bracketSample = true ∧
      Scan.across {} (Pattern.empty.run bracketSample Shelf.empty).value.source =
        some { depth := 0, opened := 6, inClass := false, escaped := false } := by
  have h : meetsAll .scannable bracketSample = true := by decide
  exact ⟨h, scan_source bracketSample h Shelf.empty⟩

end Step
end PatternBuilder

import PatternBuilder.Proofs.Fragment

/-!
# Conditions on the texts of a program

Literal texts are escaped in part, and the ends of a range and the name of a group go in as they
are. What a program appends is therefore well formed under conditions on these texts alone, at every
depth. The body of a class is closed when a reader that takes a backslash together with the next
character meets no closing bracket in it.
-/
namespace PatternBuilder

/-- Conditions on the parts of a program that go in as they are, or nearly so. -/
structure Conditions where
  literal : Option Repetition → Text → Bool
  endpoint : Char → Bool
  name : Text → Bool

def ClassStep.meets (k : Conditions) : ClassStep → Bool
  | .range first last => k.endpoint first && k.endpoint last
  | .oneOf _ _ _ | .peek | .inspect | .save _ | .compare _ => true

namespace Step

mutual

def meets (k : Conditions) : Step → Bool
  | .literal text times => k.literal times text
  | .char c times => k.literal times [c]
  | .characterClass steps _ => steps.all (·.meets k)
  | .group body _ => meetsAll k body
  | .namedGroup name body _ => k.name name && meetsAll k body
  | .oneOfLiterals first second others _ => (first :: second :: others).all (k.literal none)
  | .oneOf first second others _ =>
    meetsAll k first && (meetsAll k second && meetsBranches k others)
  | .digit _ | .word _ | .startOfLine | .endOfLine | .oneOfChars _ _ _ _ | .peek | .inspect => true

def meetsAll (k : Conditions) : List Step → Bool
  | [] => true
  | step :: steps => step.meets k && meetsAll k steps

def meetsBranches (k : Conditions) : List (List Step) → Bool
  | [] => true
  | branch :: branches => meetsAll k branch && meetsBranches k branches

end

end Step

namespace Text

/-- Text between brackets in which every closing bracket follows a backslash. -/
inductive Closed : Text → Prop
  | nil : Closed []
  | char {c : Char} {rest : Text} : c ≠ '\\' → c ≠ ']' → Closed rest → Closed (c :: rest)
  | escaped (c : Char) {rest : Text} : Closed rest → Closed ('\\' :: c :: rest)

theorem Closed.append {a b : Text} (ha : Closed a) (hb : Closed b) : Closed (a ++ b) := by
  induction ha with
  | nil => exact hb
  | char hslash hbracket _ ih => exact .char hslash hbracket ih
  | escaped c _ ih => exact .escaped c ih

theorem closed_escape (text : Text) : Closed (escape classSpecials text) := by
  induction text with
  | nil => exact .nil
  | cons c text ih =>
    rw [escape_cons]
    by_cases h : c ∈ classSpecials
    · rw [escapeChar_of_mem h]
      exact .escaped c ih
    · rw [escapeChar_of_notMem h]
      have hslash : c ≠ '\\' := fun heq => h (by simp [heq, classSpecials])
      have hbracket : c ≠ ']' := fun heq => h (by simp [heq, classSpecials])
      exact .char hslash hbracket ih

end Text

namespace ClassStep

theorem closed_writtenAll {k : Conditions}
    (hk : ∀ c, k.endpoint c = true → c ≠ '\\' ∧ c ≠ ']') {steps : List ClassStep}
    (h : steps.all (·.meets k) = true) : Text.Closed (writtenAll steps) := by
  induction steps with
  | nil => exact .nil
  | cons step steps ih =>
    rw [List.all_cons, Bool.and_eq_true] at h
    rw [writtenAll_cons]
    refine Text.Closed.append ?_ (ih h.2)
    cases step with
    | range first last =>
      obtain ⟨hfirst, hlast⟩ := Bool.and_eq_true_iff.mp h.1
      obtain ⟨hf, hf'⟩ := hk first hfirst
      obtain ⟨hl, hl'⟩ := hk last hlast
      exact .char hf hf' (.char (by decide) (by decide) (.char hl hl' .nil))
    | oneOf first second others => exact Text.closed_escape _
    | peek | inspect | save _ | compare _ => exact .nil

end ClassStep
end PatternBuilder

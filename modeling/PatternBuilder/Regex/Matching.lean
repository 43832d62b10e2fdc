import PatternBuilder.Regex.ClassBody
import PatternBuilder.Regex.Reader
import PatternBuilder.Text.Basic

/-!
# Matching

A goal is a test of positions in the input. A matcher turns a goal into the test whether a match can
begin at a position and end where the goal holds; sequences, branches and repetitions combine
matchers. The anchors hold at the two ends of the whole input, and `\d` takes the decimal digits of
every script. A text matches when a match begins at any of its positions. Only whether there is a
match is asked, so laziness makes no difference.
-/
namespace PatternBuilder.Regex

structure Position where
  atStart : Bool
  rest : Text

abbrev Goal : Type := Position → Bool

def Matcher : Type := Goal → Goal

namespace Matcher

def here : Matcher := fun goal => goal

def nowhere : Matcher := fun _ _ => false

def start : Matcher := fun goal p => p.atStart && goal p

def finish : Matcher := fun goal p => p.rest.isEmpty && goal p

def one (accepts : Char → Bool) : Matcher := fun goal p =>
  match p.rest with
  | [] => false
  | c :: rest => accepts c && goal { atStart := false, rest }

def sequence (first second : Matcher) : Matcher := fun goal => first (second goal)

def either (first second : Matcher) : Matcher := fun goal p => first goal p || second goal p

def exactly (m : Matcher) : Nat → Matcher
  | 0 => here
  | n + 1 => m.sequence (exactly m n)

def rounds (m : Matcher) : Text → Option Nat → Matcher
  | [], _ => here
  | _, some 0 => here
  | _ :: rest, some (n + 1) => here.either (m.sequence (rounds m rest (some n)))
  | _ :: rest, none => here.either (m.sequence (rounds m rest none))

/-- A round that takes no character leads nowhere new, so as many rounds as there are characters
left are enough. -/
def atMost (m : Matcher) (limit : Option Nat) : Matcher := fun goal p =>
  m.rounds p.rest limit goal p

def repeated (m : Matcher) (q : Quantifier) : Matcher :=
  (m.exactly q.min).sequence (m.atMost (q.max.map (· - q.min)))

def matchesAt (m : Matcher) (p : Position) : Bool := m (fun _ => true) p

def matchesFrom (m : Matcher) (atStart : Bool) : Text → Bool
  | [] => m.matchesAt { atStart, rest := [] }
  | c :: rest => m.matchesAt { atStart, rest := c :: rest } || m.matchesFrom false rest

def search (m : Matcher) (text : Text) : Bool := m.matchesFrom true text

theorem start_apply (goal : Goal) (p : Position) : start goal p = (p.atStart && goal p) := rfl

theorem finish_apply (goal : Goal) (p : Position) :
    finish goal p = (p.rest.isEmpty && goal p) := rfl

theorem one_nil (accepts : Char → Bool) (goal : Goal) (atStart : Bool) :
    one accepts goal { atStart, rest := [] } = false := rfl

theorem one_cons (accepts : Char → Bool) (goal : Goal) (atStart : Bool) (c : Char) (rest : Text) :
    one accepts goal { atStart, rest := c :: rest } =
      (accepts c && goal { atStart := false, rest }) := rfl

theorem sequence_apply (first second : Matcher) (goal : Goal) :
    first.sequence second goal = first (second goal) := rfl

theorem either_apply (first second : Matcher) (goal : Goal) (p : Position) :
    first.either second goal p = (first goal p || second goal p) := rfl

end Matcher

mutual

/-- The matcher of a node. A class that is no list of members has none, nor has `\w`. -/
def Node.matcher? : Node → Option Matcher
  | .char c => some (.one (· == c))
  | .digit => some (.one Text.isDecimalDigit)
  | .word => none
  | .lineStart => some .start
  | .lineEnd => some .finish
  | .cls body => (ClassBody.set? body).map .one
  | .group _ branches => branchesMatcher? branches
  | .repeated node q => node.matcher?.map (·.repeated q)

def Node.sequenceMatcher? : List Node → Option Matcher
  | [] => some .here
  | node :: nodes => do
    let first ← node.matcher?
    let second ← sequenceMatcher? nodes
    return first.sequence second

def Node.branchesMatcher? : List (List Node) → Option Matcher
  | [] => some .nowhere
  | branch :: branches => do
    let first ← sequenceMatcher? branch
    let second ← branchesMatcher? branches
    return first.either second

end

def compile? (source : Text) : Option Matcher := (read? source).bind Node.sequenceMatcher?

end PatternBuilder.Regex

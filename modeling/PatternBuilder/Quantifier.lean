import PatternBuilder.Checked

/-!
# Quantifiers

A quantifier bounds how often the element before it repeats; without a maximum it may repeat any
number of times. It is written as shortly as its bounds allow, and not at all when the element
occurs once. The reader takes the written form of a quantifier and nothing longer. It knows one form
for each quantifier, so a bound that has a shorter sign, a leading zero or a count beyond the
largest is refused.

A repetition is what a caller asks for, in counts of 32 bits; its quantifier is the normal form.
Repetitions that allow the same counts have the same quantifier. The counts are checked in the order
in which they are written, and the first broken constraint is the one reported.
-/
namespace PatternBuilder

structure Quantifier where
  min : Nat
  max : Option Nat
  lazy : Bool := false
  deriving DecidableEq

namespace Quantifier

def once : Quantifier := { min := 1, max := some 1 }

def zeroOrMore : Quantifier := { min := 0, max := none }

def oneOrMore : Quantifier := { min := 1, max := none }

def optional : Quantifier := { min := 0, max := some 1 }

def exactly (n : Nat) : Quantifier := { min := n, max := some n }

def atLeast (n : Nat) : Quantifier := { min := n, max := none }

def atMost (n : Nat) : Quantifier := { min := 0, max := some n }

def between (m n : Nat) : Quantifier := { min := m, max := some n }

def asLazy (q : Quantifier) : Quantifier := { q with lazy := true }

instance : Inhabited Quantifier := ⟨once⟩

def isOnce (q : Quantifier) : Bool := q == once

/-- The sign for the bounds. A fixed count comes before a bound at one end, and that before both. -/
def sign : Nat → Option Nat → Text
  | 0, none => ['*']
  | 1, none => ['+']
  | 0, some 1 => ['?']
  | m, none => '\x7b' :: Text.decimal m ++ [',', '\x7d']
  | m, some n =>
    if m = n then '\x7b' :: Text.decimal m ++ ['\x7d']
    else if m = 0 then '\x7b' :: ',' :: Text.decimal n ++ ['\x7d']
    else '\x7b' :: Text.decimal m ++ ',' :: Text.decimal n ++ ['\x7d']

def render (q : Quantifier) : Text :=
  if q.min = 1 ∧ q.max = some 1 then []
  else sign q.min q.max ++ if q.lazy then ['?'] else []

@[simp] theorem render_once : once.render = [] := rfl

def inspect (q : Quantifier) : Text :=
  "Quantifier \x7b min: ".toList ++ Text.decimal q.min ++ ", max: ".toList ++
    (match q.max with
      | none => "None".toList
      | some n => "Some(".toList ++ Text.decimal n ++ [')']) ++
    ", lazy: ".toList ++ (if q.lazy then "true".toList else "false".toList) ++ " \x7d".toList

def largestCount : Nat := 2147483647

def readCount? (digits : Text) : Option Nat :=
  if digits ≠ [] ∧ digits.head? ≠ some '0' ∧ digits.all Char.isDigit = true then
    let n := Nat.ofDigitChars 10 digits 0
    if n ≤ largestCount then some n else none
  else none

def readBounds? (bounds : Text) : Option Quantifier :=
  let lower := bounds.takeWhile (· ≠ ',')
  match bounds.dropWhile (· ≠ ',') with
  | [] => do
    let n ← readCount? lower
    if 2 ≤ n then some (exactly n) else none
  | [_] => do
    let m ← readCount? lower
    if 2 ≤ m then some (atLeast m) else none
  | _ :: upper => do
    let n ← readCount? upper
    if lower = [] then
      if 2 ≤ n then some (atMost n) else none
    else do
      let m ← readCount? lower
      if m < n then some (between m n) else none

def read? : Text → Option Quantifier
  | [] => some once
  | ['*'] => some zeroOrMore
  | ['*', '?'] => some zeroOrMore.asLazy
  | ['+'] => some oneOrMore
  | ['+', '?'] => some oneOrMore.asLazy
  | ['?'] => some optional
  | '\x7b' :: rest => if rest.getLast? = some '\x7d' then readBounds? rest.dropLast else none
  | _ => none

end Quantifier

inductive Repetition
  | once
  | byDefault
  | zeroOrMore
  | zeroOrMoreLazy
  | oneOrMore
  | oneOrMoreLazy
  | optional
  | exactly (count : Int32)
  | atLeast (count : Int32)
  | atMost (count : Int32)
  | range (min max : Int32)
  deriving DecidableEq

namespace Repetition

def nonNegative (parameter : Text) (count : Int32) : Checked Nat :=
  match count.toInt with
  | .ofNat n => pure n
  | .negSucc _ => Checked.reject parameter .nonNegative

def positive (parameter : Text) (count : Int32) : Checked Nat :=
  match count.toInt with
  | .ofNat (n + 1) => pure (n + 1)
  | _ => Checked.reject parameter .greaterThanZero

def countName : Text := "count".toList

def exactCount (count : Int32) : Checked Quantifier := do
  return Quantifier.exactly (← positive countName count)

/-- Equal bounds are an exact count, which must then be positive. -/
def boundedCount (min max : Int32) : Checked Quantifier := do
  let lower ← nonNegative "min".toList min
  let upper ← nonNegative "max".toList max
  if upper < lower then
    Checked.reject "max".toList .notLessThanMin
  else if lower = upper then
    exactCount min
  else
    return Quantifier.between lower upper

def quantifier : Repetition → Checked Quantifier
  | .once => return Quantifier.once
  | .byDefault => return default
  | .zeroOrMore => return Quantifier.zeroOrMore
  | .zeroOrMoreLazy => return Quantifier.zeroOrMore.asLazy
  | .oneOrMore => return Quantifier.oneOrMore
  | .oneOrMoreLazy => return Quantifier.oneOrMore.asLazy
  | .optional => return Quantifier.optional
  | .exactly count => exactCount count
  | .atLeast count => do return Quantifier.atLeast (← nonNegative countName count)
  | .atMost count => do return Quantifier.atMost (← positive countName count)
  | .range min max => boundedCount min max

end Repetition

end PatternBuilder

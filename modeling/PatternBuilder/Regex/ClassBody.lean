import PatternBuilder.Text.Basic

/-!
# Class bodies

The body of a class is read in two stages: into symbols, where a backslash takes the next character
with it, and then into members, where a bare hyphen between two symbols makes a range. A bare caret
in front turns the set around, and two bare ampersands, hyphens or tildes in a row are an operator
between two operands. Operators bind from left to right, and all alike. The set that a body denotes
is that of a body with no class inside it.

A matcher takes a class only when its body is no more than a list of members: it must not be empty,
begin with a bare `^`, hold a bare `[`, hold one of the operators, escape a letter or digit, or hold
a range whose ends are reversed.
-/
namespace PatternBuilder.Regex

inductive Symbol
  | bare (c : Char)
  | escaped (c : Char)
  deriving DecidableEq

def Symbol.char : Symbol → Char
  | .bare c | .escaped c => c

inductive Member
  | single (c : Char)
  | range (first last : Char)
  deriving DecidableEq

namespace Member

def holds : Member → Char → Bool
  | .single a, c => c == a
  | .range a b, c => a ≤ c && c ≤ b

def wellOrdered : Member → Bool
  | .single _ => true
  | .range a b => a ≤ b

end Member

namespace ClassBody

def symbols : Text → List Symbol
  | '\\' :: c :: rest => .escaped c :: symbols rest
  | c :: rest => .bare c :: symbols rest
  | [] => []

def membersOf : List Symbol → List Member
  | a :: .bare '-' :: b :: rest => .range a.char b.char :: membersOf rest
  | a :: rest => .single a.char :: membersOf rest
  | [] => []

def members (body : Text) : List Member := membersOf (symbols body)

def operators : List (List Symbol) :=
  [[.bare '&', .bare '&'], [.bare '-', .bare '-'], [.bare '~', .bare '~']]

def hasOperator : List Symbol → Bool
  | a :: b :: rest => operators.contains [a, b] || hasOperator (b :: rest)
  | _ => false

def opensClass : Symbol → Bool
  | .bare c => c == '['
  | .escaped _ => false

def escapesWord : Symbol → Bool
  | .bare _ => false
  | .escaped c => c.isAlphanum

def isList (body : Text) : Bool :=
  let found := symbols body
  !found.isEmpty && found.head? != some (.bare '^') && !found.any opensClass &&
    !found.any escapesWord && !hasOperator found && (members body).all Member.wellOrdered

def set? (body : Text) : Option (Char → Bool) :=
  if isList body then some fun c => (members body).any (·.holds c) else none

inductive Operator
  | intersection
  | difference
  | symmetricDifference

def Operator.combine : Operator → (Char → Bool) → (Char → Bool) → Char → Bool
  | .intersection, first, second, c => first c && second c
  | .difference, first, second, c => first c && !second c
  | .symmetricDifference, first, second, c => first c ^^ second c

def operator? (a b : Symbol) : Option Operator :=
  if [a, b] = [.bare '&', .bare '&'] then some .intersection
  else if [a, b] = [.bare '-', .bare '-'] then some .difference
  else if [a, b] = [.bare '~', .bare '~'] then some .symmetricDifference
  else none

def operands : List Symbol → List Symbol × List (Operator × List Symbol)
  | a :: b :: rest =>
    match operator? a b with
    | some operator => ([], (operator, (operands rest).1) :: (operands rest).2)
    | none => (a :: (operands (b :: rest)).1, (operands (b :: rest)).2)
  | found => (found, [])

def listedSet (found : List Symbol) (c : Char) : Bool := (membersOf found).any (·.holds c)

/-- The operators bind from left to right, and all alike. -/
def combined (found : List Symbol) : Char → Bool :=
  (operands found).2.foldl (fun set next => next.1.combine set (listedSet next.2))
    (listedSet (operands found).1)

/-- The set of a body with no class inside it. -/
def denotes (body : Text) (c : Char) : Bool :=
  match symbols body with
  | .bare '^' :: rest => !combined rest c
  | found => combined found c

end ClassBody
end PatternBuilder.Regex

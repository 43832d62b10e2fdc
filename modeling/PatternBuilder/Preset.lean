import PatternBuilder.Program

/-!
# Ready-made patterns

Two programs have names of their own: four digits of a year, and an e-mail address that takes up
the whole input. A name is found only when it is spelled exactly.
-/
namespace PatternBuilder

inductive Preset
  | year
  | email
  deriving DecidableEq

namespace Preset

def all : List Preset := [.year, .email]

def name : Preset → Text
  | .year => "year".toList
  | .email => "email".toList

def ofName? (name : Text) : Option Preset := all.find? (·.name = name)

def letters : List ClassStep := [.range 'a' 'z', .range 'A' 'Z']

def lettersAndDigits : List ClassStep := letters ++ [.range '0' '9']

def steps : Preset → List Step
  | .year => [.digit (some (.exactly 4))]
  | .email =>
    [.startOfLine,
      .characterClass (lettersAndDigits ++ [.oneOf '.' '_' ['%', '-', '+']]) (some .oneOrMore),
      .literal ['@'] none,
      .characterClass (lettersAndDigits ++ [.oneOf '.' '_' []]) (some .oneOrMore),
      .literal ['.'] none,
      .characterClass letters (some (.atLeast 2)),
      .endOfLine]

def outcome (preset : Preset) : Outcome Pattern := Pattern.empty.run preset.steps Shelf.empty

def pattern (preset : Preset) : Pattern := preset.outcome.value

@[simp] theorem ofName?_name (preset : Preset) : ofName? preset.name = some preset := by
  cases preset <;> rfl

theorem name_of_ofName? {text : Text} {preset : Preset} (h : ofName? text = some preset) :
    preset.name = text := by
  simpa using List.find?_some h

theorem source_year : year.pattern.source = "\\d\x7b4\x7d".toList := rfl

theorem source_email : email.pattern.source =
    "^[a-zA-Z0-9._%\\-+]+@[a-zA-Z0-9._]+\\.[a-zA-Z]\x7b2,\x7d$".toList := rfl

theorem log_outcome (preset : Preset) : preset.outcome.log = [] := by cases preset <;> rfl

end Preset
end PatternBuilder

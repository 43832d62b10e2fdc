import PatternBuilder.Text.Basic

/-!
# Checks

A repetition count may break one of three constraints, and a rejection names the parameter and the
constraint. A checked value is either a value or a rejection, together with what was logged on the
way. A later check starts only when the earlier ones hold, and every rejection logs itself.

Building a pattern logs each rejection, and each group or alternation at the moment it is spliced
into the pattern around it. A message keeps what it is about; its line gives the level, the topic
and the wording.
-/
namespace PatternBuilder

inductive Constraint
  | greaterThanZero
  | nonNegative
  | notLessThanMin
  deriving DecidableEq

def Constraint.message : Constraint → Text
  | .greaterThanZero => "must be greater than zero".toList
  | .nonNegative => "must be non-negative".toList
  | .notLessThanMin => "cannot be less than min".toList

def Constraint.name : Constraint → Text
  | .greaterThanZero => "GreaterThanZero".toList
  | .nonNegative => "NonNegative".toList
  | .notLessThanMin => "NotLessThanMin".toList

structure Rejection where
  parameter : Text
  constraint : Constraint
  deriving DecidableEq

namespace Rejection

def message (r : Rejection) : Text := r.parameter ++ ' ' :: r.constraint.message

def inspect (r : Rejection) : Text :=
  "InvalidArgument \x7b parameter: ".toList ++ Text.quoted r.parameter ++
    ", constraint: ".toList ++ r.constraint.name ++ " \x7d".toList

end Rejection

inductive Message
  | rejected (rejection : Rejection)
  | groupSpliced (nested : Text)
  | namedGroupSpliced (nested name : Text)
  | alternationSpliced (branches : Nat)
  deriving DecidableEq

namespace Message

def heading : Message → Text
  | .rejected _ => "DEBUG fluent_regex::error: ".toList
  | _ => "TRACE fluent_regex::pattern: ".toList

def body : Message → Text
  | .rejected r =>
    "rejected quantifier argument `".toList ++ r.parameter ++ "`: ".toList ++ r.constraint.message
  | .groupSpliced nested => "splicing group ".toList ++ Text.quoted nested
  | .namedGroupSpliced nested name =>
    "splicing group ".toList ++ Text.quoted nested ++ " as ".toList ++ Text.quoted name
  | .alternationSpliced branches =>
    "splicing alternation of ".toList ++ Text.decimal branches ++ " branches".toList

def line (m : Message) : Text := m.heading ++ m.body

end Message

structure Checked (α : Type) where
  result : Except Rejection α
  log : List Message := []

namespace Checked

def reject {α : Type} (parameter : Text) (constraint : Constraint) : Checked α :=
  let rejection : Rejection := { parameter, constraint }
  { result := .error rejection, log := [.rejected rejection] }

def bind {α β : Type} (x : Checked α) (f : α → Checked β) : Checked β :=
  match x.result with
  | .error rejection => { result := .error rejection, log := x.log }
  | .ok value => { f value with log := x.log ++ (f value).log }

instance : Monad Checked where
  pure value := { result := .ok value }
  bind := bind

@[simp] theorem result_pure {α : Type} (a : α) : (pure a : Checked α).result = .ok a := rfl

@[simp] theorem pure_bind {α β : Type} (a : α) (f : α → Checked β) : pure a >>= f = f a := rfl

@[simp] theorem reject_bind {α β : Type} (p : Text) (c : Constraint) (f : α → Checked β) :
    reject p c >>= f = reject p c := rfl

def agree {α : Type} [DecidableEq α] (x y : Checked α) : Bool :=
  match x.result, y.result with
  | .ok a, .ok b => a == b
  | .error r, .error s => r == s
  | _, _ => false

theorem agree_iff {α : Type} [DecidableEq α] (x y : Checked α) :
    x.agree y = true ↔ x.result = y.result := by
  cases hx : x.result <;> cases hy : y.result <;> simp [agree, hx, hy]

end Checked

end PatternBuilder

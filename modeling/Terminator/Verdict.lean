import Terminator.Text

set_option autoImplicit false

namespace Terminator

inductive Decision where
  | insert
  | reject
  deriving DecidableEq, Repr

inductive Reason where
  | notAccepted
  | endOfInput
  | closingBrace
  | rangeBoundary
  | sameLine
  | continuation
  | decimalLiteral
  | memberAccess
  | increment
  | decrement
  | unaryPlus
  | unaryMinus
  | notEqual
  | logicalNot
  | inKeyword
  | instanceofKeyword
  | identifier
  | newStatement
  deriving DecidableEq, Repr

namespace Decision

def name : Decision → String
  | .insert => "insert"
  | .reject => "reject"

def variant : Decision → String
  | .insert => "Insert"
  | .reject => "Reject"

def all : List Decision := [.insert, .reject]

def ofName? (name : String) : Option Decision :=
  all.find? (·.name = name)

end Decision

namespace Reason

def all : List Reason :=
  [.notAccepted, .endOfInput, .closingBrace, .rangeBoundary, .sameLine, .continuation,
    .decimalLiteral, .memberAccess, .increment, .decrement, .unaryPlus, .unaryMinus, .notEqual,
    .logicalNot, .inKeyword, .instanceofKeyword, .identifier, .newStatement]

def decision : Reason → Decision
  | .notAccepted | .sameLine | .continuation | .decimalLiteral | .increment | .decrement
  | .logicalNot | .inKeyword | .instanceofKeyword => .reject
  | .endOfInput | .closingBrace | .rangeBoundary | .memberAccess | .unaryPlus | .unaryMinus
  | .notEqual | .identifier | .newStatement => .insert

def name : Reason → String
  | .notAccepted => "not-accepted"
  | .endOfInput => "end-of-input"
  | .closingBrace => "closing-brace"
  | .rangeBoundary => "range-boundary"
  | .sameLine => "same-line"
  | .continuation => "continuation"
  | .decimalLiteral => "decimal-literal"
  | .memberAccess => "member-access"
  | .increment => "increment"
  | .decrement => "decrement"
  | .unaryPlus => "unary-plus"
  | .unaryMinus => "unary-minus"
  | .notEqual => "not-equal"
  | .logicalNot => "logical-not"
  | .inKeyword => "in-keyword"
  | .instanceofKeyword => "instanceof-keyword"
  | .identifier => "identifier"
  | .newStatement => "new-statement"

def describe : Reason → String
  | .notAccepted => "not accepted"
  | .endOfInput => "end of input"
  | .closingBrace => "closing brace"
  | .rangeBoundary => "included range boundary"
  | .sameLine => "same line"
  | .continuation => "continuation"
  | .decimalLiteral => "decimal literal"
  | .memberAccess => "member access"
  | .increment => "increment"
  | .decrement => "decrement"
  | .unaryPlus => "unary plus"
  | .unaryMinus => "unary minus"
  | .notEqual => "not equal"
  | .logicalNot => "logical not"
  | .inKeyword => "in keyword"
  | .instanceofKeyword => "instanceof keyword"
  | .identifier => "identifier"
  | .newStatement => "new statement"

def variant : Reason → String
  | .notAccepted => "NotAccepted"
  | .endOfInput => "EndOfInput"
  | .closingBrace => "ClosingBrace"
  | .rangeBoundary => "RangeBoundary"
  | .sameLine => "SameLine"
  | .continuation => "Continuation"
  | .decimalLiteral => "DecimalLiteral"
  | .memberAccess => "MemberAccess"
  | .increment => "Increment"
  | .decrement => "Decrement"
  | .unaryPlus => "UnaryPlus"
  | .unaryMinus => "UnaryMinus"
  | .notEqual => "NotEqual"
  | .logicalNot => "LogicalNot"
  | .inKeyword => "InKeyword"
  | .instanceofKeyword => "InstanceofKeyword"
  | .identifier => "Identifier"
  | .newStatement => "NewStatement"

def ofName? (name : String) : Option Reason :=
  all.find? (·.name = name)

theorem ofName?_name (reason : Reason) : ofName? reason.name = some reason := by
  cases reason <;> decide

end Reason

-- A verdict read from outside may pair a reason with the other decision.
structure Verdict where
  decision : Decision
  reason : Reason
  deriving DecidableEq, Repr

namespace Verdict

def ofReason (reason : Reason) : Verdict :=
  { decision := reason.decision, reason }

def isInsert (verdict : Verdict) : Bool :=
  verdict.decision = .insert

def describe (verdict : Verdict) : Text :=
  Text.of verdict.decision.name ++ [' ', '('] ++ Text.of verdict.reason.describe ++ [')']

end Verdict

end Terminator

import Formulary.Document.Basic
import Formulary.Expression.Operator
import Formulary.Function.Definition

/-!
# Functions and operators as documents

The form in which functions and operators are shown to those who write expressions.
-/

namespace Formulary

/-- A signature as a document. -/
def Signature.toDocument (s : Signature) : Document :=
  .ofMembers
    [("name", .string s.name), ("min_args", .ofNat s.least), ("max_args", .ofOption .ofNat s.most),
      ("arg_kinds", .ofStrings (s.kinds.map ArgumentKind.tag)), ("returns", .string s.returns.tag),
      ("category", .string s.category.name), ("description", .string s.description),
      ("volatile", .bool s.volatile), ("options_only", .bool s.optionsOnly)]

/-- An operator as a document. -/
def Operator.toDocument (o : Operator) : Document :=
  .ofMembers
    [("symbol", .string o.symbol), ("function", .ofOption .string o.function),
      ("description", .string o.description)]

end Formulary

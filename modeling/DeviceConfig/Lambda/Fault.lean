/-!
What is wrong with the text of a lambda, and where in the text.
-/

namespace DeviceConfig.Lambda

/-- A stretch of a text, counted in the bytes of its UTF-8 form. -/
structure Span where
  offset : Nat
  length : Nat
  deriving Repr, DecidableEq

inductive Cause where
  | openHeader
  | noBody
  | noResultType
  | unknownResultType (text : String)
  | openBody
  | textAfterBody
  | emptyParameter
  | noParameterName
  | noParameterType (name : String)
  | badParameterName (name : String)
  | unknownParameterType (text : String)
  | repeatedParameter (name : String)
  | unbalanced (bracket : Char)
  deriving Repr, DecidableEq

def Cause.message : Cause → String
  | openHeader => "unbalanced '(' in lambda header"
  | noBody => "expected '\x7b' after return type"
  | noResultType => "missing return type after '->'"
  | unknownResultType text => s!"unknown return type '{text}'"
  | openBody => "lambda body is never closed"
  | textAfterBody => "unexpected text after lambda body"
  | emptyParameter => "empty parameter"
  | noParameterName => "expected a parameter name after the type"
  | noParameterType name => s!"parameter '{name}' has no type"
  | badParameterName name => s!"'{name}' is not a valid parameter name"
  | unknownParameterType text => s!"unknown parameter type '{text}'"
  | repeatedParameter name => s!"duplicate parameter name '{name}'"
  | unbalanced bracket => s!"unbalanced '{bracket}'"

structure Fault where
  cause : Cause
  span : Span
  deriving Repr, DecidableEq

end DeviceConfig.Lambda

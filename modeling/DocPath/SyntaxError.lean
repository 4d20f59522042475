import DocPath.Regex.Basic
import DocPath.Text.Inspect

/-!
# Errors in paths and formulas

`SyntaxError` says why a text is no path or no formula. A path that is well-formed can still hold a
pattern that is refused; `PathError` is one or the other.
-/

namespace DocPath

/-- Why a text is no path or no formula. -/
inductive SyntaxError
  | identifierExpected
  | integerExpected
  /-- An integer of a selector or of a subject is outside the signed range of 64 bits. -/
  | integerOutOfRange
  /-- An integer literal is outside the signed range of 64 bits. -/
  | literalOutOfRange
  | unterminatedString
  /-- A certain character has to stand at an offset in bytes. -/
  | expected (c : Char) (offset : Nat)
  | operandExpected
  | trailingInput
  | unbalanced (c : Char) (path : String)
  | patternLeftOpen (path : String)
  | stringLeftOpen (path : String)
  | missing (c : Char) (path : String)
  | inputAfterKey (bracket : String)
  | badRange (bracket : String)
  | unterminatedPattern (body : String)
  | unknownPatternFlag (c : Char)
deriving DecidableEq

namespace SyntaxError

/-- What is wrong, without saying that it is a syntax error. -/
def cause : SyntaxError → String
  | identifierExpected => "identifier expected"
  | integerExpected => "expected integer"
  | integerOutOfRange => "bad integer"
  | literalOutOfRange => "bad int"
  | unterminatedString => "unterminated string"
  | expected c offset => s!"expected '" ++ c.toString ++ s!"' at {offset}"
  | operandExpected => "invalid operand"
  | trailingInput => "trailing input in formula"
  | unbalanced c path => "unbalanced `" ++ c.toString ++ "` in path " ++ Text.inspect path
  | patternLeftOpen path => "unterminated pattern in path " ++ Text.inspect path
  | stringLeftOpen path => "unterminated string in path " ++ Text.inspect path
  | missing c path => "missing `" ++ c.toString ++ "` in path " ++ Text.inspect path
  | inputAfterKey bracket => "unexpected input after key in [" ++ bracket ++ "]"
  | badRange bracket => "bad range [" ++ bracket ++ "]"
  | unterminatedPattern body => "unterminated pattern " ++ body
  | unknownPatternFlag c => "unknown pattern flag `" ++ c.toString ++ "`"

def message (e : SyntaxError) : String :=
  "parse error: " ++ e.cause

end SyntaxError

/-- Why a text is no path. -/
inductive PathError
  | malformed (e : SyntaxError)
  | pattern (source : String) (e : RegexError)
deriving DecidableEq

def PathError.message : PathError → String
  | malformed e => e.message
  | pattern source e => "invalid pattern `" ++ source ++ "`: " ++ e.message

end DocPath

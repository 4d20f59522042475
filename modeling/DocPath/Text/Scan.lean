import DocPath.SyntaxError
import DocPath.Text.Blank
import DocPath.Text.Integer

/-!
# Tokens at the front of a text

Quoted strings, integers and identifiers, as brackets of paths and formulas share them. Each
function gives the token and the rest of the text.
-/

namespace DocPath.Text

/-- The characters that an escape inside quotes stands for; an unknown escape stands for itself. -/
def unescapeQuoted (c : Char) : List Char :=
  match c with
  | 'n' => ['\n']
  | 't' => ['\t']
  | 'r' => ['\r']
  | '\\' => ['\\']
  | '"' => ['"']
  | '\'' => ['\'']
  | c => ['\\', c]

/-- The characters up to a closing quote, after the opening one. -/
def scanQuoted (quote : Char) : List Char → Except SyntaxError (List Char × List Char)
  | [] => .error .unterminatedString
  | '\\' :: c :: rest => do
    let (text, rest) ← scanQuoted quote rest
    return (unescapeQuoted c ++ text, rest)
  | c :: rest =>
    if c = quote then .ok ([], rest)
    else if c = '\\' then .error .unterminatedString
    else do
      let (text, rest) ← scanQuoted quote rest
      return (c :: text, rest)

/-- An integer with an optional minus sign. -/
def scanInt (text : List Char) : Except SyntaxError (Int × List Char) :=
  let (sign, body) := match text with
    | '-' :: rest => (['-'], rest)
    | rest => ([], rest)
  let digits := body.takeWhile Char.isDigit
  if digits.isEmpty then .error .integerExpected
  else match int64? (sign ++ digits) with
    | some n => .ok (n, body.dropWhile Char.isDigit)
    | none => .error .integerOutOfRange

/-- A character of an identifier: an underscore, or an ASCII letter or digit. -/
def isIdentifierChar (c : Char) : Bool :=
  c == '_' || c.isAlphanum

/-- An identifier. -/
def scanIdentifier (text : List Char) : Except SyntaxError (String × List Char) :=
  let name := text.takeWhile isIdentifierChar
  if name.isEmpty then .error .identifierExpected
  else .ok (String.ofList name, text.dropWhile isIdentifierChar)

end DocPath.Text

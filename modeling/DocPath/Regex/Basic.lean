import DocPath.Regex.Reader
import DocPath.Regex.Search

/-!
# Regular expressions

`Regex.compile` turns a pattern into a program, under flags that hold from its start. A pattern that
is not well-formed, or whose program would be too large, is refused.
-/

namespace DocPath

/-- A compiled regular expression. -/
structure Regex where
  source : String
  program : Regex.Program

/-- Why a pattern is refused. -/
inductive RegexError
  | malformed
  | tooLarge
deriving DecidableEq

/-- What is said about a refused pattern. Nothing is said about the place of the fault. -/
def RegexError.message : RegexError → String
  | malformed => ""
  | tooLarge => s!"Compiled regex exceeds size limit of {Regex.maxWeight} bytes."

namespace Regex

/-- The program of a pattern. -/
def compile (source : String) (options : Options) : Except RegexError Regex :=
  match readPattern? source.toList options.ignoreBlanks with
  | none => .error .malformed
  | some e =>
    match e.resolve options with
    | none => .error .malformed
    | some (n, _) => if n.weight ≤ maxWeight then .ok ⟨source, n.program⟩ else .error .tooLarge

/-- Whether the pattern matches somewhere in the text. -/
def isMatch (r : Regex) (text : String) : Bool :=
  r.program.isMatch text.toList

/-- The length of the preferred match at the start of the text. -/
def matchLength? (r : Regex) (text : List Char) : Option Nat :=
  r.program.matchLength? text

end Regex

end DocPath

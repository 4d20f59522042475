import DocPath.SyntaxError

/-!
# Tokens of paths

A path is cut at its dots. Brackets, parentheses and braces with all inside them belong to one
token, quotes inside them hide brackets, and a token that begins with a slash is a pattern up to the
next slash. A backslash makes the next character an ordinary one everywhere.

`Path.tokenize` cuts a path; nothing but the dots is lost. `Path.trailingGroup?` finds the
parentheses that a token ends with, which hold its formula.
-/

namespace DocPath.Path

/-- Where the reader of a path is. -/
inductive Mode
  /-- Outside quotes and patterns, with the brackets that are still to be closed, the innermost
  first. -/
  | plain (closers : List Char)
  /-- Inside a pattern. -/
  | pattern
  /-- Inside a quoted string. -/
  | quoted (quote : Char) (closers : List Char)
deriving DecidableEq

/-- The bracket that closes an opening one. -/
def closer? : Char → Option Char
  | '[' => some ']'
  | '(' => some ')'
  | '\x7b' => some '\x7d'
  | _ => none

def isCloser (c : Char) : Bool :=
  c == ']' || c == ')' || c == '\x7d'

def isQuote (c : Char) : Bool :=
  c == '\'' || c == '"'

/-- The mode after a character that is not escaped and ends no token; none where the character
closes a bracket that is not open. -/
def Mode.step (atStart : Bool) (c : Char) : Mode → Option Mode
  | pattern => some (if c = '/' then plain [] else pattern)
  | quoted q closers => some (if c = q then plain closers else quoted q closers)
  | plain closers =>
    if c = '/' ∧ closers = [] ∧ atStart then some pattern
    else match closer? c with
      | some d => some (plain (d :: closers))
      | none =>
        if isCloser c then
          match closers with
          | d :: outer => if d = c then some (plain outer) else none
          | [] => none
        else if isQuote c ∧ closers ≠ [] then some (quoted c closers)
        else some (plain closers)

/-- What is left open at the end of a path. -/
def Mode.leftOpen? (path : String) : Mode → Option SyntaxError
  | pattern => some (.patternLeftOpen path)
  | quoted _ _ => some (.stringLeftOpen path)
  | plain (d :: _) => some (.missing d path)
  | plain [] => none

/-- Adds characters to the first token. -/
def extend (chars : List Char) : List (List Char) → List (List Char)
  | [] => [chars]
  | token :: rest => (chars ++ token) :: rest

/-- The tokens of what is left of a path. `atStart` says that nothing of the current token has been
read yet. -/
def tokensFrom (path : String) (mode : Mode) (atStart : Bool) :
    List Char → Except SyntaxError (List (List Char))
  | [] =>
    match mode.leftOpen? path with
    | some e => .error e
    | none => .ok [[]]
  | '\\' :: c :: rest => do return extend ['\\', c] (← tokensFrom path mode false rest)
  | c :: rest =>
    if c = '\\' then do return extend [c] (← tokensFrom path mode false rest)
    else if c = '.' ∧ mode = .plain [] then do return [] :: (← tokensFrom path mode true rest)
    else match mode.step atStart c with
      | some mode => do return extend [c] (← tokensFrom path mode false rest)
      | none => .error (.unbalanced c path)

/-- The tokens of a path. -/
def tokenize (path : String) : Except SyntaxError (List (List Char)) :=
  tokensFrom path (.plain []) true path.toList

/-! ### The group at the end of a token -/

/-- The state of the search for a group at the end: how many brackets are open, where the outermost
parenthesis among them stands, and whether a string or a pattern is open. -/
structure GroupScan where
  depth : Nat
  openAt : Option Nat
  quote : Option Char
  inPattern : Bool

namespace GroupScan

def start : GroupScan :=
  ⟨0, none, none, false⟩

/-- The state after a character, at a position, that is not escaped. -/
def step (position : Nat) (c : Char) (s : GroupScan) : GroupScan :=
  if s.inPattern then { s with inPattern := c != '/' }
  else match s.quote with
    | some q => if c = q then { s with quote := none } else s
    | none =>
      if c = '/' ∧ position = 0 then { s with inPattern := true }
      else if isQuote c ∧ 0 < s.depth then { s with quote := some c }
      else if (closer? c).isSome then
        { s with
          depth := s.depth + 1
          openAt := if s.depth = 0 ∧ c = '(' then some position else s.openAt }
      else if isCloser c then
        { s with
          depth := s.depth - 1
          openAt := if s.depth ≤ 1 then none else s.openAt }
      else s

/-- Whether a closing parenthesis in this state, at the end of a token, closes a group that stands
in no other. -/
def closes (s : GroupScan) : Bool :=
  !s.inPattern && s.quote.isNone && s.depth ≤ 1

end GroupScan

/-- The position of the parenthesis that the one at the end of a token closes. -/
def groupStart? (position : Nat) (s : GroupScan) : List Char → Option Nat
  | [] => none
  | [c] => if c = ')' ∧ s.closes then s.openAt else none
  | '\\' :: _ :: rest => groupStart? (position + 2) s rest
  | c :: rest => groupStart? (position + 1) (s.step position c) rest

/-- The body of a token, and the text in the parentheses at its end. -/
def trailingGroup? (token : List Char) : Option (List Char × List Char) :=
  (groupStart? 0 .start token).map fun i ↦ (token.take i, (token.drop (i + 1)).dropLast)

end DocPath.Path

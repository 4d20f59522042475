import DocPath.Json.Reader
import DocPath.Key
import DocPath.Path.Token
import DocPath.Text.Scan
import DocPath.Text.Split

/-!
# Selectors

A selector is the part of a segment that says which children it means, or which operation it
invokes. The first character of its text tells the kind: a bracket a position, a range or a key, a
brace an operation, a slash a pattern; anything else is a key with escapes.
-/

namespace DocPath.Path

/-- What a segment selects. -/
inductive Selector
  | any
  | key (name : String)
  | index (position : Int)
  | range (start stop : Int) (exclusive : Bool)
  | pattern (r : Regex)
  | special (operation : String) (args : List Json)

/-- The text without the backslashes that escape a character. -/
def unescape : List Char → List Char
  | [] => []
  | '\\' :: c :: rest => c :: unescape rest
  | c :: rest => c :: unescape rest

/-- Reading a name takes back what writing it as a segment escaped. -/
@[simp] theorem unescape_flatMap_escapeChar (text : List Char) :
    unescape (text.flatMap Key.escapeChar) = text := by
  induction text with
  | nil => rfl
  | cons c rest ih =>
    by_cases h : Key.isStructural c
    · simp [Key.escapeChar, h, unescape, ih]
    · have : c ≠ '\\' := by rintro rfl; exact h (by decide)
      simp [Key.escapeChar, h, unescape, this, ih]

/-- The text as a key. -/
def keyOf (text : List Char) : Selector :=
  .key (String.ofList (unescape text))

namespace Selector

/-- The end of a range, after its dots. -/
def readRangeEnd (bracket : List Char) (start : Int) (exclusive : Bool) (text : List Char) :
    Except PathError Selector :=
  match Text.scanInt text with
  | .error e => .error (.malformed e)
  | .ok (stop, []) => .ok (.range start stop exclusive)
  | .ok (_, _ :: _) => .error (.malformed (.badRange (String.ofList bracket)))

/-- A quoted key in a bracket, after its opening quote. -/
def readQuotedKey (bracket : List Char) (quote : Char) (text : List Char) :
    Except PathError Selector :=
  match Text.scanQuoted quote text with
  | .error e => .error (.malformed e)
  | .ok (name, rest) =>
    if (Text.skipBlanks rest).isEmpty then .ok (.key (String.ofList name))
    else .error (.malformed (.inputAfterKey (String.ofList bracket)))

/-- The inside of a bracket: a quoted key, a position, a range of positions with two dots or three,
or else a key. -/
def readBracket (bracket : List Char) : Except PathError Selector :=
  let text := Text.trim bracket
  match text with
  | '"' :: rest => readQuotedKey bracket '"' rest
  | '\'' :: rest => readQuotedKey bracket '\'' rest
  | text =>
    match Text.scanInt text with
    | .error _ => .ok (keyOf text)
    | .ok (n, []) => .ok (.index n)
    | .ok (n, '.' :: '.' :: '.' :: rest) => readRangeEnd bracket n true rest
    | .ok (n, '.' :: '.' :: rest) => readRangeEnd bracket n false rest
    | .ok _ => .ok (keyOf text)

/-- An argument of an operation: JSON where it reads as JSON, else a string, without single quotes
around it. -/
def readArgument (text : List Char) : Json :=
  match Json.read? (String.ofList text) with
  | some v => v
  | none =>
    match text with
    | '\'' :: rest =>
      if rest.getLast? = some '\'' then .string (String.ofList rest.dropLast)
      else .string (String.ofList text)
    | text => .string (String.ofList text)

/-- The inside of braces: a name and, after a colon, arguments between commas. -/
def readSpecial (inner : List Char) : Selector :=
  let name := inner.takeWhile (· != ':')
  let args := (inner.dropWhile (· != ':')).drop 1
  .special (String.ofList (Text.trim name))
    ((Text.split [.literal ","] args).map readArgument)

/-- The options that the flags of a pattern ask for. -/
def readPatternFlags (options : Regex.Options) : List Char → Except PathError Regex.Options
  | [] => .ok options
  | 'i' :: rest => readPatternFlags { options with caseInsensitive := true } rest
  | 'm' :: rest => readPatternFlags { options with multiLine := true } rest
  | 's' :: rest => readPatternFlags { options with dotMatchesNewline := true } rest
  | 'x' :: rest => readPatternFlags { options with ignoreBlanks := true } rest
  | c :: _ => .error (.malformed (.unknownPatternFlag c))

/-- A pattern, after the slash it begins with: it ends at the last slash, and flags follow. -/
def readPattern (text : List Char) : Except PathError Selector := do
  let flags := (text.reverse.takeWhile (· != '/')).reverse
  if flags.length = text.length then
    throw (.malformed (.unterminatedPattern (String.ofList ('/' :: text))))
  else
    let source := String.ofList (text.take (text.length - flags.length - 1))
    let options ← readPatternFlags {} flags
    match Regex.compile source options with
    | .ok r => return .pattern r
    | .error e => throw (.pattern source e)

/-- The selector that a text spells. -/
def read (text : List Char) : Except PathError Selector :=
  match text with
  | [] => .ok .any
  | ['*'] => .ok .any
  | '[' :: rest =>
    if rest.getLast? = some ']' then readBracket rest.dropLast else .ok (keyOf text)
  | '\x7b' :: rest =>
    if rest.getLast? = some '\x7d' then .ok (readSpecial rest.dropLast) else .ok (keyOf text)
  | '/' :: rest => readPattern rest
  | text => .ok (keyOf text)

/-! ### Matching keys -/

/-- Whether an integer lies in a range of integers. -/
def inRange (k start stop : Int) (exclusive : Bool) : Bool :=
  start ≤ k && (if exclusive then k < stop else k ≤ stop)

/-- A bound of a range in a container of the given size; a negative one counts from the end. -/
def resolveBound (size : Nat) (bound : Int) : Int :=
  if bound < 0 then size + bound else bound

/-- Whether the selector takes a key of a container with the given number of children. Names match
up to equivalence; a range matches by its bounds as they stand or counted from the end. -/
def matchesKey (s : Selector) (size : Nat) (key : Key) : Bool :=
  match s with
  | any => true
  | Selector.key name => key.text == name || key.normal == normalName name
  | index i => key.int? == some i
  | range start stop exclusive =>
    match key.int? with
    | none => false
    | some k =>
      inRange k start stop exclusive ||
        inRange k (resolveBound size start) (resolveBound size stop) exclusive
  | pattern r => r.isMatch key.text
  | special _ _ => false

end Selector

end DocPath.Path

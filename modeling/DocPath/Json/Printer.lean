import DocPath.Json.Basic

/-!
# Writing JSON

Two layouts: `Json.compact` has no blanks at all; `Json.pretty` puts every item on a line of its
own, two spaces deeper than its container, and leaves empty containers closed up.
-/

namespace DocPath.Json

/-! ### Strings -/

/-- The lower-case hexadecimal digits of a number. -/
def hex (n : Nat) : List Char :=
  Nat.toDigits 16 n

/-- A character inside a quoted string. Quotes, backslashes and the characters below the space are
escaped. -/
def escape (c : Char) : List Char :=
  match c with
  | '"' => ['\\', '"']
  | '\\' => ['\\', '\\']
  | '\n' => ['\\', 'n']
  | '\r' => ['\\', 'r']
  | '\t' => ['\\', 't']
  | '\x08' => ['\\', 'b']
  | '\x0c' => ['\\', 'f']
  | c =>
    if c.toNat < 0x20 then
      let digits := hex c.toNat
      '\\' :: 'u' :: (List.replicate (4 - digits.length) '0' ++ digits)
    else [c]

/-- A string between quotes. -/
def quote (s : String) : List Char :=
  '"' :: (s.toList.flatMap escape ++ ['"'])

/-! ### Values -/

def scalarText : Scalar → List Char
  | .null => "null".toList
  | .bool true => "true".toList
  | .bool false => "false".toList
  | .number n => n.text
  | .string s => quote s

mutual

/-- The characters of a value without blanks. -/
def chars : Json → List Char
  | scalar s => scalarText s
  | array [] => ['[', ']']
  | array (v :: rest) => '[' :: (v.chars ++ charsOfItems rest)
  | object [] => ['\x7b', '\x7d']
  | object ((k, v) :: rest) => '\x7b' :: (quote k ++ ':' :: (v.chars ++ charsOfEntries rest))

/-- The items after the first, up to the closing bracket. -/
def charsOfItems : List Json → List Char
  | [] => [']']
  | v :: rest => ',' :: (v.chars ++ charsOfItems rest)

/-- The entries after the first, up to the closing brace. -/
def charsOfEntries : List (String × Json) → List Char
  | [] => ['\x7d']
  | (k, v) :: rest => ',' :: (quote k ++ ':' :: (v.chars ++ charsOfEntries rest))

end

/-- The value without blanks. -/
def compact (v : Json) : String :=
  String.ofList v.chars

/-- A new line, indented by two spaces for every level. -/
def newline (depth : Nat) : List Char :=
  '\n' :: List.replicate (2 * depth) ' '

mutual

/-- The characters of a value that stands at the given depth, an item on each line. -/
def prettyChars (depth : Nat) : Json → List Char
  | scalar s => scalarText s
  | array [] => ['[', ']']
  | array (v :: rest) =>
    '[' :: (newline (depth + 1) ++ prettyChars (depth + 1) v ++ prettyItems depth rest)
  | object [] => ['\x7b', '\x7d']
  | object ((k, v) :: rest) =>
    '\x7b' :: (newline (depth + 1) ++ quote k ++ ':' :: ' ' :: prettyChars (depth + 1) v
      ++ prettyEntries depth rest)

def prettyItems (depth : Nat) : List Json → List Char
  | [] => newline depth ++ [']']
  | v :: rest =>
    ',' :: (newline (depth + 1) ++ prettyChars (depth + 1) v ++ prettyItems depth rest)

def prettyEntries (depth : Nat) : List (String × Json) → List Char
  | [] => newline depth ++ ['\x7d']
  | (k, v) :: rest =>
    ',' :: (newline (depth + 1) ++ quote k ++ ':' :: ' ' :: prettyChars (depth + 1) v
      ++ prettyEntries depth rest)

end

/-- The value with an item on each line. -/
def pretty (v : Json) : String :=
  String.ofList (prettyChars 0 v)

end DocPath.Json

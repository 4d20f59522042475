import DocPath.Json.Basic
import DocPath.Json.Numeral

/-!
# Reading JSON

`Json.read?` reads a whole text. Containers nest at most 127 deep; a repeated key replaces the value
of the first entry of that key, which keeps its place; half of a surrogate pair is refused, and so
is anything but blanks after the value.

Every function consumes the front of the text and returns the rest. Each step consumes a character,
so the length of the text bounds the steps.
-/

namespace DocPath.Json

/-- The deepest nesting of containers that is read. -/
def maxDepth : Nat := 127

/-- The characters that may stand between tokens. -/
def isBlank (c : Char) : Bool :=
  c == ' ' || c == '\n' || c == '\t' || c == '\r'

def skipBlanks (text : List Char) : List Char :=
  text.dropWhile isBlank

/-! ### Strings -/

def hexValue? (c : Char) : Option Nat :=
  if '0' ≤ c ∧ c ≤ '9' then some (c.toNat - '0'.toNat)
  else if 'a' ≤ c ∧ c ≤ 'f' then some (c.toNat - 'a'.toNat + 10)
  else if 'A' ≤ c ∧ c ≤ 'F' then some (c.toNat - 'A'.toNat + 10)
  else none

/-- The number of four hexadecimal digits. -/
def codeUnit? (a b c d : Char) : Option Nat := do
  return (((← hexValue? a) * 16 + (← hexValue? b)) * 16 + (← hexValue? c)) * 16 + (← hexValue? d)

/-- The character of a single-letter escape. -/
def unescape? : Char → Option Char
  | '"' => some '"'
  | '\\' => some '\\'
  | '/' => some '/'
  | 'b' => some '\x08'
  | 'f' => some '\x0c'
  | 'n' => some '\n'
  | 'r' => some '\r'
  | 't' => some '\t'
  | _ => none

/-- The characters of a string after its opening quote, and the text after its closing quote. -/
def scanString : List Char → Option (List Char × List Char)
  | [] => none
  | '"' :: rest => some ([], rest)
  | '\\' :: 'u' :: a :: b :: c :: d :: rest => do
    let unit ← codeUnit? a b c d
    if unit < 0xD800 ∨ 0xDFFF < unit then
      let (s, rest) ← scanString rest
      return (Char.ofNat unit :: s, rest)
    else if unit < 0xDC00 then
      match rest with
      | '\\' :: 'u' :: a :: b :: c :: d :: rest =>
        let low ← codeUnit? a b c d
        if low < 0xDC00 ∨ 0xDFFF < low then none
        else
          let (s, rest) ← scanString rest
          return (Char.ofNat (0x10000 + (unit - 0xD800) * 0x400 + (low - 0xDC00)) :: s, rest)
      | _ => none
    else none
  | '\\' :: c :: rest => do
    let e ← unescape? c
    let (s, rest) ← scanString rest
    return (e :: s, rest)
  | c :: rest =>
    if c == '\\' || c.toNat < 0x20 then none
    else do
      let (s, rest) ← scanString rest
      return (c :: s, rest)

/-! ### Values -/

/-- The text after a word that it has to start with. -/
def dropWord? : (word text : List Char) → Option (List Char)
  | [], text => some text
  | w :: word, c :: text => if w = c then dropWord? word text else none
  | _ :: _, [] => none

mutual

/-- A value at the front of the text. -/
def scanValue (steps depth : Nat) (text : List Char) : Option (Json × List Char) :=
  match steps with
  | 0 => none
  | steps + 1 =>
    match skipBlanks text with
    | [] => none
    | 'n' :: rest => do return (null, ← dropWord? ['u', 'l', 'l'] rest)
    | 't' :: rest => do return (bool true, ← dropWord? ['r', 'u', 'e'] rest)
    | 'f' :: rest => do return (bool false, ← dropWord? ['a', 'l', 's', 'e'] rest)
    | '"' :: rest => do
      let (s, rest) ← scanString rest
      return (string (String.ofList s), rest)
    | '[' :: rest =>
      match depth with
      | 0 => none
      | depth + 1 =>
        match skipBlanks rest with
        | ']' :: rest => some (array [], rest)
        | rest => do
          let (v, rest) ← scanValue steps depth rest
          let (items, rest) ← scanItems steps depth rest
          return (array (v :: items), rest)
    | '\x7b' :: rest =>
      match depth with
      | 0 => none
      | depth + 1 =>
        match skipBlanks rest with
        | '\x7d' :: rest => some (object [], rest)
        | rest => do
          let (entry, rest) ← scanEntry steps depth rest
          let (entries, rest) ← scanEntries steps depth rest
          return (object (Entries.ofList (entry :: entries)), rest)
    | rest => do
      let (numeral, rest) ← Numeral.scan rest
      return (number (← numeral.value), rest)

/-- The items after the first, up to the closing bracket. -/
def scanItems (steps depth : Nat) (text : List Char) : Option (List Json × List Char) :=
  match steps with
  | 0 => none
  | steps + 1 =>
    match skipBlanks text with
    | ']' :: rest => some ([], rest)
    | ',' :: rest => do
      let (v, rest) ← scanValue steps depth rest
      let (items, rest) ← scanItems steps depth rest
      return (v :: items, rest)
    | _ => none

/-- A key, a colon and a value. -/
def scanEntry (steps depth : Nat) (text : List Char) : Option ((String × Json) × List Char) :=
  match steps with
  | 0 => none
  | steps + 1 =>
    match skipBlanks text with
    | '"' :: rest => do
      let (key, rest) ← scanString rest
      match skipBlanks rest with
      | ':' :: rest =>
        let (v, rest) ← scanValue steps depth rest
        return ((String.ofList key, v), rest)
      | _ => none
    | _ => none

/-- The entries after the first, up to the closing brace. -/
def scanEntries (steps depth : Nat) (text : List Char) :
    Option (List (String × Json) × List Char) :=
  match steps with
  | 0 => none
  | steps + 1 =>
    match skipBlanks text with
    | '\x7d' :: rest => some ([], rest)
    | ',' :: rest => do
      let (entry, rest) ← scanEntry steps depth rest
      let (entries, rest) ← scanEntries steps depth rest
      return (entry :: entries, rest)
    | _ => none

end

/-- The value that a whole text spells. -/
def read? (text : String) : Option Json := do
  let chars := text.toList
  let (v, rest) ← scanValue (chars.length + 1) maxDepth chars
  if (skipBlanks rest).isEmpty then some v else none

/-- The value that a text spells, or the text itself where it spells none. -/
def readOrText (text : String) : Json :=
  (read? text).getD (string text)

end DocPath.Json

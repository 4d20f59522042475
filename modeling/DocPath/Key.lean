import DocPath.Text.Integer

/-!
# Keys

The key of a child in its container: a name in an object, a position in an array. A name and the
same name with a colon in front are **equivalent**; they have one normal form.

`Key.segment` writes a key as the segment of a path that names it.
-/

namespace DocPath

/-- A key of a child. -/
inductive Key
  | name (text : String)
  | index (position : Nat)
deriving DecidableEq

/-- A name without a colon in front. -/
def normalName (name : String) : String :=
  match name.toList with
  | ':' :: rest => String.ofList rest
  | _ => name

@[simp] theorem normalName_colon (text : List Char) :
    normalName (String.ofList (':' :: text)) = String.ofList text := by
  simp [normalName]

namespace Key

/-- The decimal digits of a position. -/
def indexText (position : Nat) : String :=
  String.ofList (Nat.toDigits 10 position)

/-- The key as the name of an entry. -/
def text : Key → String
  | name s => s
  | index i => indexText i

/-- The key as an integer; a name is one where it spells one. -/
def int? : Key → Option Int
  | name s => Text.int64? s.toList
  | index i => if i < 0x8000000000000000 then some i else none

/-- The normal form, which equivalent keys share. -/
def normal : Key → String
  | name s => normalName s
  | index i => indexText i

/-! ### Segments -/

/-- The characters that are escaped in a path. -/
def isStructural (c : Char) : Bool :=
  c == '.' || c == '\\' || c == '[' || c == ']' || c == '(' || c == ')' || c == '\x7b' ||
    c == '\x7d' || c == '/'

/-- A character of a name in a path. -/
def escapeChar (c : Char) : List Char :=
  if isStructural c then ['\\', c] else [c]

/-- A name as a segment. The empty name is written in quotes, since an empty segment means any
depth, and a lone star is escaped. -/
def escape (name : String) : String :=
  if name = "" then "['']"
  else if name = "*" then "\\*"
  else String.ofList (name.toList.flatMap escapeChar)

/-- The key as a segment: a position in brackets, a name escaped. -/
def segment : Key → String
  | name s => escape s
  | index i => "[" ++ indexText i ++ "]"

end Key

end DocPath

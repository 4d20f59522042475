import DocPath.Unicode.Named

/-!
# Text shown for inspection

`Text.inspect` puts a text between double quotes in a form in which every character can be told:
quotes, backslashes and the usual controls are escaped by a letter, and whatever is not printable or
joins the character before it by its code.
-/

namespace DocPath.Text

/-- The code of a character in lower-case hexadecimal digits. -/
def codeEscape (c : Char) : List Char :=
  '\\' :: 'u' :: '\x7b' :: (Nat.toDigits 16 c.toNat ++ ['\x7d'])

/-- A character of an inspected text. -/
def inspectChar (c : Char) : List Char :=
  match c with
  | '\x00' => ['\\', '0']
  | '\t' => ['\\', 't']
  | '\r' => ['\\', 'r']
  | '\n' => ['\\', 'n']
  | '\\' => ['\\', '\\']
  | '"' => ['\\', '"']
  | c =>
    if 0x20 ≤ c.toNat ∧ c.toNat ≤ 0x7E then [c]
    else if Unicode.graphemeExtend.contains c || !Unicode.printable.contains c then codeEscape c
    else [c]

/-- The text between quotes, with every character told. -/
def inspect (s : String) : String :=
  String.ofList ('"' :: (s.toList.flatMap inspectChar ++ ['"']))

end DocPath.Text

import DocPath.Regex.Basic
import DocPath.Text.Blank

/-!
# Splitting at delimiters

`Text.split` cuts a text at every delimiter outside quotes. Inside quotes a backslash protects the
next character, a closing quote too. Pieces lose the blanks at their ends and keep their quotes; a
blank text has no pieces.
-/

namespace DocPath.Text

/-- What separates pieces. -/
inductive Delimiter
  | literal (text : String)
  | pattern (r : Regex)

/-- The length of the delimiter at the start of a text, if it is there. An empty match is none. -/
def Delimiter.length? (text : List Char) : Delimiter → Option Nat
  | literal l => if !l.isEmpty && l.toList.isPrefixOf text then some l.length else none
  | pattern r =>
    match r.matchLength? text with
    | some 0 => none
    | found => found

/-- The length of the first of the delimiters that stands at the start of a text. -/
def delimiterLength? (delimiters : List Delimiter) (text : List Char) : Option Nat :=
  delimiters.findSome? (Delimiter.length? text)

/-- Adds a character to the first piece. -/
def consPiece (c : Char) : List (List Char) → List (List Char)
  | [] => [[c]]
  | piece :: rest => (c :: piece) :: rest

/-- The pieces of a text. Inside quotes `quote` is the quote that closes; `skip` characters of a
delimiter are still to be passed over. -/
def pieces (delimiters : List Delimiter) (quote : Option Char) (skip : Nat) :
    List Char → List (List Char)
  | [] => [[]]
  | c :: rest =>
    match skip, quote with
    | skip + 1, _ => pieces delimiters quote skip rest
    | 0, some q =>
      if c = '\\' then
        match rest with
        | next :: rest => consPiece c (consPiece next (pieces delimiters quote 0 rest))
        | [] => [[c]]
      else consPiece c (pieces delimiters (if c = q then none else some q) 0 rest)
    | 0, none =>
      if c = '"' ∨ c = '\'' then consPiece c (pieces delimiters (some c) 0 rest)
      else match delimiterLength? delimiters (c :: rest) with
        | some length => [] :: pieces delimiters none (length - 1) rest
        | none => consPiece c (pieces delimiters none 0 rest)

@[simp] theorem consPiece_ne_nil (c : Char) (ps : List (List Char)) : consPiece c ps ≠ [] := by
  cases ps <;> simp [consPiece]

/-- Every text has a piece, if only an empty one. -/
theorem pieces_ne_nil (delimiters : List Delimiter) (quote : Option Char) (skip : Nat)
    (text : List Char) : pieces delimiters quote skip text ≠ [] := by
  fun_induction pieces delimiters quote skip text <;> simp_all

/-- The trimmed pieces between delimiters outside quotes. -/
def split (delimiters : List Delimiter) (text : List Char) : List (List Char) :=
  if text.all isBlank then [] else (pieces delimiters none 0 text).map trim

end DocPath.Text

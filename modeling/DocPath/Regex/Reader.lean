import DocPath.Regex.Syntax
import DocPath.Text.Blank
import DocPath.Unicode.Named

/-!
# Reading patterns

`Regex.read?` reads a pattern, or refuses it. The reader is a recursive descent over the characters
that are left; each call consumes at least one of them, so their number bounds the calls.

Where blanks are ignored (flag `x`) they may stand between any two tokens, together with comments
from `#` to the end of the line. A cursor therefore carries that flag, which groups save and
restore, beside the names of the groups read so far, which may not repeat.
-/

namespace DocPath.Regex

/-- The state of the reader. -/
structure Cursor where
  rest : List Char
  ignoreBlanks : Bool
  names : List String

namespace Cursor

/-- Skips blanks and comments. -/
def skipIgnored (inComment : Bool) : List Char → List Char
  | [] => []
  | c :: rest =>
    if inComment then skipIgnored (c != '\n') rest
    else if Text.isBlank c then skipIgnored false rest
    else if c == '#' then skipIgnored true rest
    else c :: rest

/-- Skips what is ignored, where anything is. -/
def skip (cur : Cursor) : Cursor :=
  if cur.ignoreBlanks then { cur with rest := skipIgnored false cur.rest } else cur

/-- Moves to a given rest, past what is ignored. -/
def moveTo (cur : Cursor) (rest : List Char) : Cursor :=
  skip { cur with rest := rest }

/-- The character after the current one, past what is ignored. -/
def peek (cur : Cursor) : Option Char :=
  let after := cur.rest.tail
  if cur.ignoreBlanks then
    match after.dropWhile Text.isBlank with
    | '#' :: rest => (rest.dropWhile Text.isBlank).head?.orElse fun _ ↦ after.head?
    | c :: _ => some c
    | [] => after.head?
  else after.head?

end Cursor

/-! ### Numbers -/

/-- The largest count of a repetition. -/
def maxCount : Nat := 0xffffffff

/-- Decimal digits, and the cursor after them. -/
def takeDigits (cur : Cursor) : (steps : Nat) → List Char × Cursor
  | 0 => ([], cur)
  | steps + 1 =>
    match cur.rest with
    | c :: rest =>
      if c.isDigit then
        let (digits, next) := takeDigits (cur.moveTo rest) steps
        (c :: digits, next)
      else ([], cur)
    | [] => ([], cur)

/-- The outcome of reading a count: none is written, it is too large, or it is a number. -/
inductive Count
  | missing
  | tooLarge
  | value (n : Nat)

/-- A decimal count, with blanks on either side. -/
def readCount (cur : Cursor) : Count × Cursor :=
  let cur := { cur with rest := cur.rest.dropWhile Text.isBlank }
  let (digits, next) := takeDigits cur cur.rest.length
  let next := next.moveTo (next.rest.dropWhile Text.isBlank)
  if digits.isEmpty then (.missing, next)
  else
    let n := digits.foldl (fun n c ↦ 10 * n + (c.toNat - '0'.toNat)) 0
    (if n ≤ maxCount then .value n else .tooLarge, next)

/-! ### Escapes -/

def hexDigit? (c : Char) : Option Nat :=
  if '0' ≤ c ∧ c ≤ '9' then some (c.toNat - '0'.toNat)
  else if 'a' ≤ c ∧ c ≤ 'f' then some (c.toNat - 'a'.toNat + 10)
  else if 'A' ≤ c ∧ c ≤ 'F' then some (c.toNat - 'A'.toNat + 10)
  else none

/-- The character of a code, where it is the code of one. -/
def charOfCode? (n : Nat) : Option Char :=
  if n < 0xD800 ∨ (0xDFFF < n ∧ n ≤ 0x10FFFF) then some (Char.ofNat n) else none

/-- A fixed number of hexadecimal digits. -/
def readHexDigits (cur : Cursor) (value : Nat) : (digits : Nat) → Option (Nat × Cursor)
  | 0 => some (value, cur)
  | digits + 1 =>
    match cur.rest with
    | [] => none
    | c :: rest => do readHexDigits (cur.moveTo rest) (16 * value + (← hexDigit? c)) digits

/-- Hexadecimal digits up to a closing brace. -/
def readHexBrace (cur : Cursor) (value count : Nat) : (steps : Nat) → Option (Nat × Nat × Cursor)
  | 0 => none
  | steps + 1 =>
    match cur.rest with
    | [] => none
    | '\x7d' :: rest => some (value, count, cur.moveTo rest)
    | c :: rest => do
      readHexBrace (cur.moveTo rest) (16 * value + (← hexDigit? c)) (count + 1) steps

/-- The character after `\x`, `\u` or `\U`: the given number of digits, or any number in braces. -/
def readHex (cur : Cursor) (digits : Nat) : Option (Literal × Cursor) :=
  match cur.rest with
  | [] => none
  | '\x7b' :: rest => do
    let (value, count, next) ← readHexBrace (cur.moveTo rest) 0 0 (rest.length + 1)
    if count = 0 then none else return (⟨← charOfCode? value, false⟩, next)
  | _ => do
    let (value, next) ← readHexDigits cur 0 digits
    return (⟨← charOfCode? value, digits == 2⟩, next)

/-- The text up to a closing brace, without what is ignored. -/
def takeToBrace (cur : Cursor) : (steps : Nat) → Option (List Char × Cursor)
  | 0 => none
  | steps + 1 =>
    match cur.rest with
    | [] => none
    | '\x7d' :: rest => some ([], { cur with rest := rest })
    | c :: rest => do
      let (text, next) ← takeToBrace (cur.moveTo rest) steps
      return (c :: text, next)

/-- The text before and after the first place where `mark` stands. -/
def splitAt? (mark : List Char) : List Char → Option (List Char × List Char)
  | [] => none
  | c :: rest =>
    if mark.isPrefixOf (c :: rest) then some ([], (c :: rest).drop mark.length)
    else (splitAt? mark rest).map fun parts ↦ (c :: parts.1, parts.2)

/-- The name of a class, and whether it is negated by its operator. -/
def classNameOf (text : List Char) : ClassName × Bool :=
  match splitAt? ['!', '='] text with
  | some (property, value) => (.valued (String.ofList property) (String.ofList value), true)
  | none =>
    match (splitAt? [':'] text).orElse fun _ ↦ splitAt? ['='] text with
    | some (property, value) => (.valued (String.ofList property) (String.ofList value), false)
    | none => (.named (String.ofList text), false)

/-- The class after `\p` or `\P`: a letter, or a name in braces. -/
def readClassName (cur : Cursor) : Option ((ClassName × Bool) × Cursor) :=
  match cur.rest with
  | [] => none
  | '\\' :: _ => none
  | '\x7b' :: rest => do
    let (text, next) ← takeToBrace (cur.moveTo rest) (rest.length + 1)
    return (classNameOf text, next)
  | c :: rest => some ((.named c.toString, false), cur.moveTo rest)

/-- What an escape or a plain character stands for. -/
inductive Item
  | literal (c : Literal)
  | anchor (a : Anchor)
  | shorthand (name : Shorthand) (negated : Bool)
  | unicode (name : ClassName) (negated : Bool)

/-- The letters and the hyphen of a name in braces. -/
def takeBoundaryName (cur : Cursor) : (steps : Nat) → List Char × Cursor
  | 0 => ([], cur)
  | steps + 1 =>
    match cur.rest with
    | c :: rest =>
      if c.isAlpha || c == '-' then
        let (name, next) := takeBoundaryName (cur.moveTo rest) steps
        (c :: name, next)
      else ([], cur)
    | [] => ([], cur)

/-- The anchor after `\b`, which a name in braces may make more special. Braces around anything else
are left for a repetition. -/
def readBoundary (cur : Cursor) : Option (Anchor × Cursor) :=
  match cur.rest with
  | '\x7b' :: rest =>
    let inner := cur.moveTo rest
    match inner.rest with
    | [] => none
    | c :: _ =>
      if !(c.isAlpha || c == '-') then some (.wordBoundary, cur)
      else
        let (name, next) := takeBoundaryName inner inner.rest.length
        match next.rest with
        | '\x7d' :: rest =>
          let after := { next with rest := rest }
          match String.ofList name with
          | "start" => some (.wordStart, after)
          | "end" => some (.wordEnd, after)
          | "start-half" => some (.wordStartHalf, after)
          | "end-half" => some (.wordEndHalf, after)
          | _ => none
        | _ => none
  | _ => some (.wordBoundary, cur)

/-- The characters that stand for themselves after a backslash: all of ASCII but letters, digits and
angle brackets. -/
def isEscapable (c : Char) : Bool :=
  c.toNat ≤ 0x7F && !c.isAlphanum && c != '<' && c != '>'

/-- An escape, after its backslash. -/
def readEscape (cur : Cursor) : Option (Item × Cursor) :=
  match cur.rest with
  | [] => none
  | c :: rest =>
    let here := { cur with rest := rest }
    let next := cur.moveTo rest
    let char (c : Char) : Option (Item × Cursor) := some (.literal ⟨c, false⟩, here)
    let anchor (a : Anchor) : Option (Item × Cursor) := some (.anchor a, here)
    let shorthand (name : Shorthand) (negated : Bool) : Option (Item × Cursor) :=
      some (.shorthand name negated, here)
    let hex (digits : Nat) : Option (Item × Cursor) := do
      let (c, next) ← readHex next digits
      return (.literal c, next)
    let unicode (negated : Bool) : Option (Item × Cursor) := do
      let ((name, flipped), next) ← readClassName next
      return (.unicode name (negated != flipped), next)
    match c with
    | 'x' => hex 2
    | 'u' => hex 4
    | 'U' => hex 8
    | 'p' => unicode false
    | 'P' => unicode true
    | 'd' => shorthand .digit false
    | 'D' => shorthand .digit true
    | 's' => shorthand .space false
    | 'S' => shorthand .space true
    | 'w' => shorthand .word false
    | 'W' => shorthand .word true
    | 'a' => char '\x07'
    | 'f' => char '\x0c'
    | 't' => char '\t'
    | 'n' => char '\n'
    | 'r' => char '\r'
    | 'v' => char '\x0b'
    | 'A' => anchor .textStart
    | 'z' => anchor .textEnd
    | 'B' => anchor .notWordBoundary
    | '<' => anchor .wordStart
    | '>' => anchor .wordEnd
    | 'b' => do
      let (a, next) ← readBoundary here
      return (.anchor a, next)
    | c => if isEscapable c then char c else none

/-! ### Bracketed classes -/

def asciiClass? : String → Option AsciiClass
  | "alnum" => some .alnum
  | "alpha" => some .alpha
  | "ascii" => some .ascii
  | "blank" => some .blank
  | "cntrl" => some .cntrl
  | "digit" => some .digit
  | "graph" => some .graph
  | "lower" => some .lower
  | "print" => some .print
  | "punct" => some .punct
  | "space" => some .space
  | "upper" => some .upper
  | "word" => some .word
  | "xdigit" => some .xdigit
  | _ => none

/-- A class with a name between colons, after its opening bracket. -/
def readAsciiClass (text : List Char) : Option (ClassSet × List Char) :=
  match text with
  | ':' :: rest =>
    let (negated, rest) := match rest with
      | '^' :: rest => (true, rest)
      | rest => (false, rest)
    match rest.dropWhile (· != ':') with
    | ':' :: ']' :: after => do
      let name ← asciiClass? (String.ofList (rest.takeWhile (· != ':')))
      return (.ascii name negated, after)
    | _ => none
  | _ => none

/-- A character or an escape inside brackets. -/
def readClassItem (cur : Cursor) : Option (Item × Cursor) :=
  match cur.rest with
  | [] => none
  | '\\' :: rest => readEscape { cur with rest := rest }
  | c :: rest => some (.literal ⟨c, false⟩, { cur with rest := rest })

/-- An item as a set; anchors are none. -/
def Item.toClassSet? : Item → Option ClassSet
  | .literal c => some (.literal c)
  | .anchor _ => none
  | .shorthand name negated => some (.shorthand name negated)
  | .unicode name negated => some (.unicode name negated)

/-- An item, or two with a hyphen between them. The hyphen stands for itself before a closing
bracket, and before another hyphen it begins an operator. -/
def readClassRange (cur : Cursor) : Option (ClassSet × Cursor) := do
  let (first, next) ← readClassItem cur
  let next := next.skip
  match next.rest with
  | [] => none
  | c :: rest =>
    if c != '-' || next.peek == some ']' || next.peek == some '-' then
      return (← first.toClassSet?, next)
    else
      let after := next.moveTo rest
      if after.rest.isEmpty then none
      else
        let (last, after) ← readClassItem after
        match first, last with
        | .literal a, .literal b =>
          if b.char.toNat < a.char.toNat then none else return (.range a b, after)
        | _, _ => none

/-- The hyphens, or else the closing bracket, that stand for themselves at the start of a class. -/
def readClassStart (cur : Cursor) : (steps : Nat) → Option (List ClassSet × Cursor)
  | 0 => none
  | steps + 1 =>
    match cur.rest with
    | [] => none
    | '-' :: rest => do
      let (items, next) ← readClassStart (cur.moveTo rest) steps
      return (.literal ⟨'-', false⟩ :: items, next)
    | _ => some ([], cur)

/-- A class after its opening bracket: whether it is negated, and its first items. -/
def readClassOpen (cur : Cursor) : Option ((Bool × List ClassSet) × Cursor) := do
  let cur := cur.skip
  let (negated, cur) := match cur.rest with
    | '^' :: rest => (true, cur.moveTo rest)
    | _ => (false, cur)
  let (items, cur) ← readClassStart cur (cur.rest.length + 1)
  match items, cur.rest with
  | [], ']' :: rest =>
    let next := cur.moveTo rest
    if next.rest.isEmpty then none
    else return ((negated, [.literal ⟨']', false⟩]), next)
  | _, _ => return ((negated, items), cur)

/-- The set to the right of an operator, joined with what is to the left of it. -/
def joinOperation (left : Option (ClassSet × SetOperation)) (items : List ClassSet) : ClassSet :=
  match left with
  | none => ClassSet.ofItems items.reverse
  | some (set, op) => .operation op set (ClassSet.ofItems items.reverse)

/-- The inside of a class up to its closing bracket, with the items read so far, the last one
first. -/
def readClassBody (cur : Cursor) (left : Option (ClassSet × SetOperation))
    (items : List ClassSet) : (steps : Nat) → Option (ClassSet × Cursor)
  | 0 => none
  | steps + 1 =>
    let cur := cur.skip
    let operator (op : SetOperation) (rest : List Char) : Option (ClassSet × Cursor) :=
      readClassBody { cur with rest := rest } (some (joinOperation left items, op)) [] steps
    match cur.rest with
    | [] => none
    | ']' :: rest => some (joinOperation left items, { cur with rest := rest })
    | '[' :: rest =>
      match readAsciiClass rest with
      | some (item, rest) => readClassBody { cur with rest := rest } left (item :: items) steps
      | none => do
        let ((negated, first), next) ← readClassOpen { cur with rest := rest }
        let (inner, next) ← readClassBody next none first.reverse steps
        readClassBody next left (.bracket negated inner :: items) steps
    | '&' :: '&' :: rest => operator .intersection rest
    | '-' :: '-' :: rest => operator .difference rest
    | '~' :: '~' :: rest => operator .symmetricDifference rest
    | _ => do
      let (item, next) ← readClassRange cur
      readClassBody next left (item :: items) steps

/-! ### Groups -/

def flag? : Char → Option Flag
  | 'i' => some .caseInsensitive
  | 'm' => some .multiLine
  | 's' => some .dotMatchesNewline
  | 'U' => some .swapGreed
  | 'u' => some .unicode
  | 'R' => some .crlf
  | 'x' => some .ignoreBlanks
  | _ => none

/-- Flags up to a closing parenthesis or a colon, which is left. A flag may not come twice, nor may
the minus sign, and that sign needs a flag after it. -/
def readFlags (negated dangling : Bool) (changes : FlagChanges) :
    List Char → Option (FlagChanges × Bool × List Char)
  | [] => none
  | c :: rest =>
    if c == ':' || c == ')' then
      if dangling then none else some (changes.reverse, negated, c :: rest)
    else if c == '-' then
      if negated then none else readFlags true true changes rest
    else do
      let f ← flag? c
      if changes.any fun change ↦ change.1 == f then none
      else readFlags negated false ((f, !negated) :: changes) rest

/-- What the changes say about a flag. -/
def FlagChanges.state? (changes : FlagChanges) (f : Flag) : Option Bool :=
  changes.lookup f

/-- The name of a group up to its closing angle bracket. -/
def readGroupName (text : List Char) : Option (List Char × List Char) :=
  let name := text.takeWhile (· != '>')
  match text.dropWhile (· != '>'), name with
  | '>' :: rest, first :: others =>
    let isFirst := first == '_' || Unicode.alphabetic.contains first
    let isOther (c : Char) : Bool :=
      c == '_' || c == '.' || c == '[' || c == ']' || Unicode.alphabetic.contains c ||
        Unicode.numeric.contains c
    if isFirst && others.all isOther then some (name, rest) else none
  | _, _ => none

/-- What an opening parenthesis begins. -/
inductive Opening
  | flags (changes : FlagChanges)
  | group (changes : FlagChanges)

/-- An opening parenthesis, after it: flags on their own, or a group with flags, a name or
neither. -/
def readOpening (cur : Cursor) : Option (Opening × Cursor) :=
  let cur := cur.skip
  let named (rest : List Char) : Option (Opening × Cursor) := do
    let (name, rest) ← readGroupName rest
    let name := String.ofList name
    if cur.names.contains name then none
    else return (.group [], { cur with rest := rest, names := name :: cur.names })
  match cur.rest with
  | '?' :: '=' :: _ => none
  | '?' :: '!' :: _ => none
  | '?' :: '<' :: '=' :: _ => none
  | '?' :: '<' :: '!' :: _ => none
  | '?' :: 'P' :: '<' :: rest => named rest
  | '?' :: '<' :: rest => named rest
  | '?' :: rest => do
    let (changes, negated, rest) ← readFlags false false [] rest
    match rest with
    | ')' :: rest =>
      if changes.isEmpty && !negated then none
      else return (.flags changes, { cur with rest := rest })
    | rest => return (.group changes, { cur with rest := rest.tail })
  | _ => some (.group [], cur)

/-! ### Repetitions -/

/-- Whether a mark for fewest comes next. -/
def readGreed (cur : Cursor) : Bool × Cursor :=
  match cur.rest with
  | '?' :: rest => (false, { cur with rest := rest })
  | _ => (true, cur)

/-- The bounds of a counted repetition, after its opening brace. -/
def readBounds (cur : Cursor) : Option ((Nat × Option Nat) × Cursor) :=
  let cur := cur.skip
  if cur.rest.isEmpty then none
  else
    let (low, cur) := readCount cur
    let close (bounds : Nat × Option Nat) (cur : Cursor) :
        Option ((Nat × Option Nat) × Cursor) :=
      match cur.rest with
      | '\x7d' :: rest => some (bounds, cur.moveTo rest)
      | _ => none
    match low, cur.rest with
    | .value low, ',' :: rest =>
      let cur := cur.moveTo rest
      match cur.rest with
      | [] => none
      | '\x7d' :: _ => close (low, none) cur
      | _ =>
        match readCount cur with
        | (.value high, cur) => if high < low then none else close (low, some high) cur
        | _ => none
    | .value low, _ => close (low, some low) cur
    | _, _ => none

/-- Whether a repetition may follow: not at the start of a branch, nor after flags. -/
def Expr.isRepeatable : Expr → Bool
  | .empty => false
  | .flags _ => false
  | _ => true

/-! ### Expressions -/

/-- A character, an escape or an anchor. -/
def readPrimitive (cur : Cursor) : Option (Expr × Cursor) :=
  match cur.rest with
  | [] => none
  | '\\' :: rest => do
    let (item, next) ← readEscape { cur with rest := rest }
    let e := match item with
      | .literal c => Expr.literal c
      | .anchor a => .anchor a
      | .shorthand name negated => .shorthand name negated
      | .unicode name negated => .unicode name negated
    return (e, next)
  | c :: rest =>
    let e := match c with
      | '.' => Expr.dot
      | '^' => .anchor .lineStart
      | '$' => .anchor .lineEnd
      | c => .literal ⟨c, false⟩
    some (e, { cur with rest := rest })

/-- An expression up to the end of the text or a closing parenthesis, which is left. The branches
and the parts of the current branch that are already read come last one first. -/
def readExpr (cur : Cursor) (branches parts : List Expr) :
    (steps : Nat) → Option (Expr × Cursor)
  | 0 => none
  | steps + 1 =>
    let cur := cur.skip
    let repeated (min : Nat) (max : Option Nat) (next : Cursor) : Option (Expr × Cursor) :=
      match parts with
      | e :: before =>
        if e.isRepeatable then
          let (greedy, next) := readGreed next
          readExpr next branches (.repeat min max greedy e :: before) steps
        else none
      | [] => none
    let finish : Option (Expr × Cursor) :=
      some (Expr.ofBranches (Expr.ofParts parts.reverse :: branches).reverse, cur)
    match cur.rest with
    | [] => finish
    | ')' :: _ => finish
    | '|' :: rest =>
      readExpr { cur with rest := rest } (Expr.ofParts parts.reverse :: branches) [] steps
    | '(' :: rest => do
      match ← readOpening { cur with rest := rest } with
      | (.flags changes, next) =>
        let ignoreBlanks := (changes.state? .ignoreBlanks).getD cur.ignoreBlanks
        readExpr { next with ignoreBlanks := ignoreBlanks } branches (.flags changes :: parts) steps
      | (.group changes, next) =>
        let ignoreBlanks := (changes.state? .ignoreBlanks).getD cur.ignoreBlanks
        let (inner, next) ← readExpr { next with ignoreBlanks := ignoreBlanks } [] [] steps
        match next.rest with
        | ')' :: rest =>
          readExpr { next with rest := rest, ignoreBlanks := cur.ignoreBlanks } branches
            (.group changes inner :: parts) steps
        | _ => none
    | '[' :: rest => do
      let ((negated, first), next) ← readClassOpen { cur with rest := rest }
      let (inner, next) ← readClassBody next none first.reverse steps
      readExpr next branches (.bracket negated inner :: parts) steps
    | '?' :: rest => repeated 0 (some 1) { cur with rest := rest }
    | '*' :: rest => repeated 0 none { cur with rest := rest }
    | '+' :: rest => repeated 1 none { cur with rest := rest }
    | '\x7b' :: rest => do
      let ((min, max), next) ← readBounds { cur with rest := rest }
      repeated min max next
    | _ => do
      let (e, next) ← readPrimitive cur
      readExpr next branches (e :: parts) steps

/-- The pattern that a whole text spells. -/
def readPattern? (text : List Char) (ignoreBlanks : Bool) : Option Expr := do
  let (e, cur) ← readExpr ⟨text, ignoreBlanks, []⟩ [] [] (text.length + 1)
  if cur.rest.isEmpty && e.depth ≤ maxDepth then some e else none

end DocPath.Regex

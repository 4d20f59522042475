import DocPath.Regex.Syntax
import DocPath.Unicode.Case

/-!
# The meaning of patterns

`Expr.resolve` applies the flags of a pattern to its parts: every class becomes the set of its
characters, every anchor a condition on the characters around a place, and every repetition knows
whether it prefers more or fewer turns. Flags that stand on their own hold up to the end of the
group they stand in, its later branches included.

Without the flag `u` a class ranges over bytes. Texts here are made of characters, so then only
classes of ASCII characters are accepted, and neither the dot nor a class by name.
-/

namespace DocPath.Regex

/-- The conditions that involve word characters. -/
inductive WordEdge
  | boundary
  | notBoundary
  | start
  | stop
  | startHalf
  | stopHalf
deriving DecidableEq

/-- A condition on a place in a text. -/
inductive Condition
  | textStart
  | textEnd
  | lineStart (crlf : Bool)
  | lineEnd (crlf : Bool)
  | word (edge : WordEdge) (unicode : Bool)
deriving DecidableEq

/-- A pattern with its flags applied. -/
inductive Node
  | empty
  | chars (set : CharSet)
  | condition (c : Condition)
  | concat (parts : List Node)
  | alternate (branches : List Node)
  | repeat (min : Nat) (max : Option Nat) (greedy : Bool) (inner : Node)

/-- The flags in force at a place of a pattern. -/
structure Options where
  caseInsensitive : Bool := false
  multiLine : Bool := false
  dotMatchesNewline : Bool := false
  swapGreed : Bool := false
  unicode : Bool := true
  crlf : Bool := false
  ignoreBlanks : Bool := false

namespace Options

def set (o : Options) : Flag → Bool → Options
  | .caseInsensitive, b => { o with caseInsensitive := b }
  | .multiLine, b => { o with multiLine := b }
  | .dotMatchesNewline, b => { o with dotMatchesNewline := b }
  | .swapGreed, b => { o with swapGreed := b }
  | .unicode, b => { o with unicode := b }
  | .crlf, b => { o with crlf := b }
  | .ignoreBlanks, b => { o with ignoreBlanks := b }

def apply (o : Options) (changes : FlagChanges) : Options :=
  changes.foldl (fun o change ↦ o.set change.1 change.2) o

end Options

/-! ### Classes -/

def asciiRange (first last : Char) : CodeRange :=
  ⟨first.toNat, last.toNat⟩

def AsciiClass.chars : AsciiClass → CharSet
  | .alnum => [asciiRange '0' '9', asciiRange 'A' 'Z', asciiRange 'a' 'z']
  | .alpha => [asciiRange 'A' 'Z', asciiRange 'a' 'z']
  | .ascii => [⟨0, 0x7F⟩]
  | .blank => [⟨0x9, 0x9⟩, ⟨0x20, 0x20⟩]
  | .cntrl => [⟨0, 0x1F⟩, ⟨0x7F, 0x7F⟩]
  | .digit => [asciiRange '0' '9']
  | .graph => [asciiRange '!' '~']
  | .lower => [asciiRange 'a' 'z']
  | .print => [asciiRange ' ' '~']
  | .punct => [asciiRange '!' '/', asciiRange ':' '@', asciiRange '[' '\x60', ⟨0x7B, 0x7E⟩]
  | .space => [⟨0x9, 0xD⟩, ⟨0x20, 0x20⟩]
  | .upper => [asciiRange 'A' 'Z']
  | .word => [asciiRange '0' '9', asciiRange 'A' 'Z', asciiRange '_' '_', asciiRange 'a' 'z']
  | .xdigit => [asciiRange '0' '9', asciiRange 'A' 'F', asciiRange 'a' 'f']

def Shorthand.chars : Shorthand → (unicode : Bool) → CharSet
  | .digit, true => Unicode.digit
  | .digit, false => AsciiClass.digit.chars
  | .space, true => Unicode.whiteSpace
  | .space, false => AsciiClass.space.chars
  | .word, true => Unicode.word
  | .word, false => AsciiClass.word.chars

namespace Options

/-- The set as it may be matched: without the flag `u`, one of ASCII characters. -/
def admit? (o : Options) (set : CharSet) : Option CharSet :=
  if o.unicode || set.isAscii then some set else none

/-- The set up to case, where case makes no difference. -/
def fold (o : Options) (set : CharSet) : CharSet :=
  if !o.caseInsensitive then set
  else if o.unicode then Unicode.closeUnderCase set
  else CharSet.inter [⟨0, 0x7F⟩] (Unicode.closeUnderCase set)

/-- Case first, then negation. -/
def foldAndNegate? (o : Options) (negated : Bool) (set : CharSet) : Option CharSet :=
  let folded := o.fold set
  o.admit? (if negated then folded.complement else folded)

def shorthand? (o : Options) (name : Shorthand) (negated : Bool) : Option CharSet :=
  let set := name.chars o.unicode
  o.admit? (if negated then set.complement else set)

def className? (o : Options) (name : ClassName) (negated : Bool) : Option CharSet :=
  if !o.unicode then none
  else do
    let set ← match name with
      | .named name => Unicode.named? name
      | .valued property value => Unicode.valued? property value
    o.foldAndNegate? negated set

end Options

def SetOperation.apply : SetOperation → CharSet → CharSet → CharSet
  | .intersection => CharSet.inter
  | .difference => CharSet.diff
  | .symmetricDifference => CharSet.symmDiff

mutual

/-- The characters of a bracketed class. -/
def ClassSet.chars? (o : Options) : ClassSet → Option CharSet
  | .literal c => o.admit? (CharSet.singleton c.char)
  | .range first last => o.admit? [⟨first.char.toNat, last.char.toNat⟩]
  | .ascii name negated => o.foldAndNegate? negated name.chars
  | .shorthand name negated => o.shorthand? name negated
  | .unicode name negated => o.className? name negated
  | .bracket negated inner => do o.foldAndNegate? negated (← inner.chars? o)
  | .union items => ClassSet.unionChars? o items
  | .operation op left right => do
    return op.apply (o.fold (← left.chars? o)) (o.fold (← right.chars? o))

def ClassSet.unionChars? (o : Options) : List ClassSet → Option CharSet
  | [] => some []
  | item :: rest => do return CharSet.union (← item.chars? o) (← ClassSet.unionChars? o rest)

end

/-! ### Expressions -/

/-- A single character. Without the flag `u`, one written as a byte has to be ASCII. -/
def Literal.resolve? (c : Literal) (o : Options) : Option Node :=
  if !o.unicode && c.isByte && 0x7F < c.char.toNat then none
  else
    let single := CharSet.singleton c.char
    some (.chars (if !o.unicode && !single.isAscii then single else o.fold single))

/-- Any character, or any character that does not end a line. -/
def dotChars (o : Options) : CharSet :=
  if o.dotMatchesNewline then CharSet.full
  else if o.crlf then CharSet.complement [⟨0xA, 0xA⟩, ⟨0xD, 0xD⟩]
  else CharSet.complement [⟨0xA, 0xA⟩]

def Anchor.condition (a : Anchor) (o : Options) : Condition :=
  match a with
  | .lineStart => if o.multiLine then .lineStart o.crlf else .textStart
  | .lineEnd => if o.multiLine then .lineEnd o.crlf else .textEnd
  | .textStart => .textStart
  | .textEnd => .textEnd
  | .wordBoundary => .word .boundary o.unicode
  | .notWordBoundary => .word .notBoundary o.unicode
  | .wordStart => .word .start o.unicode
  | .wordEnd => .word .stop o.unicode
  | .wordStartHalf => .word .startHalf o.unicode
  | .wordEndHalf => .word .stopHalf o.unicode

mutual

/-- Whether the pattern can match nothing but the empty text. -/
def Node.isEmptyOnly : Node → Bool
  | .empty => true
  | .chars _ => false
  | .condition _ => true
  | .concat parts => Node.allEmptyOnly parts
  | .alternate branches => Node.allEmptyOnly branches
  | .repeat _ max _ inner => inner.isEmptyOnly || max == some 0

def Node.allEmptyOnly : List Node → Bool
  | [] => true
  | n :: rest => n.isEmptyOnly && Node.allEmptyOnly rest

end

/-- A repetition. What can match only the empty text need not match it more than once. -/
def Node.repeated (min : Nat) (max : Option Nat) (greedy : Bool) (inner : Node) : Node :=
  if inner.isEmptyOnly then .repeat (Nat.min min 1) (some (Nat.min (max.getD 1) 1)) greedy inner
  else .repeat min max greedy inner

mutual

/-- The pattern with its flags applied, and the flags in force after it. -/
def Expr.resolve (o : Options) : Expr → Option (Node × Options)
  | .empty => some (.empty, o)
  | .literal c => do return (← c.resolve? o, o)
  | .dot => if o.unicode then some (.chars (dotChars o), o) else none
  | .anchor a => some (.condition (a.condition o), o)
  | .shorthand name negated => do return (.chars (← o.shorthand? name negated), o)
  | .unicode name negated => do return (.chars (← o.className? name negated), o)
  | .bracket negated inner => do
    return (.chars (← o.foldAndNegate? negated (← inner.chars? o)), o)
  | .flags changes => some (.empty, o.apply changes)
  | .group changes inner => do
    let (n, _) ← inner.resolve (o.apply changes)
    return (n, o)
  | .concat parts => do
    let (ns, o) ← Expr.resolveAll o parts
    return (.concat ns, o)
  | .alternate branches => do
    let (ns, o) ← Expr.resolveAll o branches
    return (.alternate ns, o)
  | .repeat min max greedy inner => do
    let (n, o) ← inner.resolve o
    return (Node.repeated min max (greedy != o.swapGreed) n, o)

def Expr.resolveAll (o : Options) : List Expr → Option (List Node × Options)
  | [] => some ([], o)
  | e :: rest => do
    let (n, o) ← e.resolve o
    let (ns, o) ← Expr.resolveAll o rest
    return (n :: ns, o)

end

end DocPath.Regex

/-!
# Sets of characters

A set of characters is a list of closed ranges of code points. `CharSet.normalize` puts any list of
ranges into increasing order, without overlaps and without neighbours that touch; complement and
union are defined through it, and the other set operations through those two.

A table of the character database gives each set as text, hexadecimal ranges between blanks, under
one or more names.
-/

namespace DocPath

/-- The code points from `first` to `last`. -/
structure CodeRange where
  first : Nat
  last : Nat
deriving DecidableEq

/-- A set of characters, as ranges of code points. -/
abbrev CharSet := List CodeRange

namespace CharSet

/-- The largest code point. -/
def maxCode : Nat := 0x10FFFF

def singleton (c : Char) : CharSet :=
  [⟨c.toNat, c.toNat⟩]

/-- Every character. -/
def full : CharSet :=
  [⟨0, maxCode⟩]

def contains (s : CharSet) (c : Char) : Bool :=
  s.any fun r ↦ r.first ≤ c.toNat && c.toNat ≤ r.last

@[simp] theorem contains_nil (c : Char) : contains [] c = false := rfl

@[simp] theorem contains_singleton (c d : Char) : (singleton c).contains d = (c == d) := by
  by_cases h : c = d
  · subst h; simp [singleton, contains]
  · have hn : c.toNat ≠ d.toNat := fun e ↦ h (Char.toNat_inj.mp e)
    have hb : (c == d) = false := by simpa using h
    simp only [singleton, contains, List.any_cons, List.any_nil, Bool.or_false, hb,
      Bool.and_eq_false_iff, decide_eq_false_iff_not]
    omega

@[simp] theorem contains_full (c : Char) : full.contains c = true := by
  have h := c.valid
  simp only [UInt32.isValidChar, Nat.isValidChar] at h
  have : c.toNat = c.val.toNat := rfl
  simp only [full, contains, maxCode, List.any_cons, List.any_nil, Bool.or_false,
    Bool.and_eq_true, decide_eq_true_eq]
  omega

/-- Joins ranges in increasing order that overlap or touch. -/
def coalesce (current : CodeRange) : List CodeRange → List CodeRange
  | [] => [current]
  | r :: rest =>
    if r.first ≤ current.last + 1 then coalesce ⟨current.first, max current.last r.last⟩ rest
    else current :: coalesce r rest

/-- The same set with its ranges in increasing order and apart from each other. -/
def normalize (s : CharSet) : CharSet :=
  match s.mergeSort (fun a b ↦ a.first ≤ b.first) with
  | [] => []
  | r :: rest => coalesce r rest

def union (s t : CharSet) : CharSet :=
  normalize (s ++ t)

/-- The gaps between ranges in increasing order, from a code point on. -/
def gaps (start : Nat) : List CodeRange → List CodeRange
  | [] => if start ≤ maxCode then [⟨start, maxCode⟩] else []
  | r :: rest =>
    if start < r.first then ⟨start, r.first - 1⟩ :: gaps (r.last + 1) rest
    else gaps (r.last + 1) rest

/-- Every character that is not in the set. -/
def complement (s : CharSet) : CharSet :=
  gaps 0 s.normalize

def inter (s t : CharSet) : CharSet :=
  complement (union s.complement t.complement)

def diff (s t : CharSet) : CharSet :=
  inter s t.complement

/-- The characters of exactly one of two sets. -/
def symmDiff (s t : CharSet) : CharSet :=
  diff (union s t) (inter s t)

/-- Whether all characters are ASCII. -/
def isAscii (s : CharSet) : Bool :=
  s.all fun r ↦ r.last ≤ 0x7F

end CharSet

namespace Unicode

/-- The number that hexadecimal digits in upper case spell. -/
def hexNumber (digits : String) : Nat :=
  digits.foldl (fun n c ↦ 16 * n + (if c.isDigit then c.toNat - '0'.toNat
    else c.toNat - 'A'.toNat + 10)) 0

/-- The items of a table text, which blanks and line ends separate. -/
def items (text : String) : List String :=
  (text.splitOn "\n").flatMap fun line ↦ (line.splitOn " ").filter (· ≠ "")

/-- The set that a text of ranges spells. -/
def decodeRanges (text : String) : CharSet :=
  (items text).map fun item ↦
    match item.splitOn "-" with
    | [first, last] => ⟨hexNumber first, hexNumber last⟩
    | _ => ⟨hexNumber item, hexNumber item⟩

/-- Sets as text, each under its names, which are in lower case and without separators. -/
abbrev Table := List (List String × String)

/-- The set of a name. -/
def Table.find? (table : Table) (name : String) : Option CharSet :=
  (List.find? (fun row ↦ row.1.contains name) table).map fun row ↦ decodeRanges row.2

/-- The set of a name together with the sets of all rows before it. -/
def Table.upTo? : Table → String → Option CharSet
  | [], _ => none
  | (names, text) :: rest, name =>
    if names.contains name then some (decodeRanges text)
    else (upTo? rest name).map (decodeRanges text ++ ·)

end Unicode

end DocPath

import DocPath.Unicode.CaseData
import DocPath.Unicode.Named

/-!
# Upper and lower case

Case forms of a text are the full ones: a character may have a form of several characters, and a
capital sigma at the end of a word has the lower-case form `ς`.

Case folding is the simple one, character by character. Two characters are the same up to case where
they fold to the same character; `Unicode.closeUnderCase` adds to a set every character that is the
same up to case as one of its members.
-/

namespace DocPath.Unicode

/-- Sends `first` to `target` and every further character at the given step accordingly. -/
structure CaseRun where
  first : Nat
  last : Nat
  step : Nat
  target : Nat

namespace CaseRun

/-- The image of a character that the run covers. -/
def image? (run : CaseRun) (c : Char) : Option Char :=
  let n := c.toNat
  if run.first ≤ n ∧ n ≤ run.last ∧ (n - run.first) % run.step = 0 then
    some (Char.ofNat (run.target + (n - run.first)))
  else none

/-- The run that a text such as `41-5A/2:61` spells. -/
def decode (item : String) : CaseRun :=
  let (source, target) := match item.splitOn ":" with
    | [source, target] => (source, target)
    | _ => (item, item)
  let (range, step) := match source.splitOn "/" with
    | [range, step] => (range, hexNumber step)
    | _ => (source, 1)
  let (first, last) := match range.splitOn "-" with
    | [first, last] => (first, last)
    | _ => (range, range)
  ⟨hexNumber first, hexNumber last, step, hexNumber target⟩

/-- The pairs of code points that the run maps. -/
def pairs (run : CaseRun) : List (Nat × Nat) :=
  (List.range ((run.last - run.first) / run.step + 1)).map fun i ↦
    (run.first + i * run.step, run.target + i * run.step)

end CaseRun

/-- The mapping of single characters to one character each. -/
def decodeRuns (text : String) : List CaseRun :=
  (items text).map CaseRun.decode

/-- The mapping of single characters to several. -/
def decodeSequences (text : String) : List (Char × List Char) :=
  (items text).map fun item ↦
    match item.splitOn ":" with
    | [source, target] =>
      (Char.ofNat (hexNumber source),
        (target.splitOn ".").map fun code ↦ Char.ofNat (hexNumber code))
    | _ => ('\x00', ['\x00'])

/-- The image of a character under a mapping given by sequences and runs. -/
def mapChar (sequences : List (Char × List Char)) (runs : List CaseRun) (c : Char) : List Char :=
  match sequences.lookup c with
  | some image => image
  | none =>
    match runs.findSome? fun run ↦ run.image? c with
    | some image => [image]
    | none => [c]

def lowerTable : List (Char × List Char) × List CaseRun :=
  (decodeSequences lowerSequences, decodeRuns lowerRuns)

def upperTable : List (Char × List Char) × List CaseRun :=
  (decodeSequences upperSequences, decodeRuns upperRuns)

/-- The lower-case form of a character on its own. -/
def lowerChar (c : Char) : List Char :=
  mapChar lowerTable.1 lowerTable.2 c

/-- The upper-case form of a character. -/
def upperChar (c : Char) : List Char :=
  mapChar upperTable.1 upperTable.2 c

/-- Whether a cased character comes first, after characters that case ignores. -/
def casedAhead (text : List Char) : Bool :=
  match text.dropWhile caseIgnorable.contains with
  | c :: _ => cased.contains c
  | [] => false

/-- The lower-case form of a text that follows the given characters, the nearest one first. A sigma
is final where a letter goes before it and none comes after it. -/
def lowerFrom (before : List Char) : List Char → List Char
  | [] => []
  | c :: rest =>
    let image :=
      if c == 'Σ' then [if casedAhead before && !casedAhead rest then 'ς' else 'σ']
      else lowerChar c
    image ++ lowerFrom (c :: before) rest

/-- The text in lower case. -/
def toLower (s : String) : String :=
  String.ofList (lowerFrom [] s.toList)

/-- The text in upper case. -/
def toUpper (s : String) : String :=
  String.ofList (s.toList.flatMap upperChar)

/-! ### Folding -/

/-- The pairs of different characters of which the first folds to the second. -/
def foldPairs : List (Nat × Nat) :=
  (decodeRuns foldRuns).flatMap CaseRun.pairs

/-- The set with every character that is the same up to case as one of its members. -/
def closeUnderCase (s : CharSet) : CharSet :=
  let holds (n : Nat) : Bool := s.any fun r ↦ r.first ≤ n && n ≤ r.last
  let targets := (foldPairs.filter fun p ↦ holds p.1 || holds p.2).map Prod.snd
  let sources := (foldPairs.filter fun p ↦ targets.contains p.2).map Prod.fst
  CharSet.normalize (s ++ (targets ++ sources).map fun n ↦ ⟨n, n⟩)

end DocPath.Unicode

import DocPath.Formula.Basic
import DocPath.Path.Selector

/-!
# Paths

A path is a list of segments. A segment has a selector, may have a formula that filters what it
selects, and may be recursive, that is, reach to any depth. An empty token makes the next segment
recursive, unless it is the first token, where a lone dot only separates.
-/

namespace DocPath

namespace Path

/-- A step of a path. -/
structure Segment where
  /-- The text of the segment, without the dots of recursion. -/
  raw : String
  selector : Selector
  formula : Option Formula
  recursive : Bool

namespace Segment

/-- The segment that a token spells. -/
def read (token : List Char) (recursive : Bool) : Except PathError Segment := do
  match trailingGroup? token with
  | some (body, formula) =>
    let selector ← Selector.read body
    let formula := Formula.compile (String.ofList formula)
    return ⟨String.ofList token, selector, some formula, recursive⟩
  | none =>
    let selector ← Selector.read token
    return ⟨String.ofList token, selector, none, recursive⟩

/-- The segment as a path writes it. -/
def text (s : Segment) : String :=
  if s.recursive then ".." ++ s.raw else s.raw

end Segment

/-- The segments of tokens. `isFirst` says that the first of them is the first token of the path,
and `recursive` that an empty token came before. -/
def segmentsOf (isFirst recursive : Bool) : List (List Char) → Except PathError (List Segment)
  | [] => .ok []
  | [] :: rest => segmentsOf false (!isFirst) rest
  | token :: rest => do
    let s ← Segment.read token recursive
    let segments ← segmentsOf false false rest
    return s :: segments

end Path

/-- A path that has been read. -/
structure Path where
  raw : String
  segments : List Path.Segment

namespace Path

/-- The path that a text spells. -/
def parse (raw : String) : Except PathError Path :=
  match tokenize raw with
  | .error e => .error (.malformed e)
  | .ok tokens => do return ⟨raw, ← segmentsOf true false tokens⟩

end Path

end DocPath

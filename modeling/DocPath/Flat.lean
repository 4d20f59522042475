import DocPath.Operation.Builtin
import DocPath.Tree.Edit

/-!
# Flat documents

A flat document is an object whose keys are paths and whose values are leaves: scalars and empty
containers. `Flat.squish` lists the leaves of a document under the paths that name them, and
`Flat.expand` writes the values of a flat document at their paths, in order, beginning with null.
-/

namespace DocPath.Flat

mutual

/-- The leaves of a value with the keys that lead to them. -/
def leaves : Json → List (List Key × Json)
  | .scalar s => [([], .scalar s)]
  | .array [] => [([], .array [])]
  | .array (v :: rest) => leavesOfItems 0 (v :: rest)
  | .object [] => [([], .object [])]
  | .object (entry :: rest) => leavesOfEntries (entry :: rest)

def leavesOfItems (position : Nat) : List Json → List (List Key × Json)
  | [] => []
  | v :: rest =>
    (leaves v).map (fun leaf ↦ (Key.index position :: leaf.1, leaf.2)) ++
      leavesOfItems (position + 1) rest

def leavesOfEntries : List (String × Json) → List (List Key × Json)
  | [] => []
  | (k, v) :: rest =>
    (leaves v).map (fun leaf ↦ (Key.name k :: leaf.1, leaf.2)) ++ leavesOfEntries rest

end

/-- The path of segments that name keys. -/
def pathOf (keys : List Key) : String :=
  ".".intercalate (keys.map Key.segment)

/-- The leaves of a document under their paths. -/
def squish (v : Json) : Entries :=
  (leaves v).map fun leaf ↦ (pathOf leaf.1, leaf.2)

/-- The document with the given values at their paths. -/
def expand (flat : Entries) : Except PathError Json :=
  match (Tree.ofJson .builtin .null).bridge flat with
  | (.ok _, t) => .ok t.document
  | (.error e, _) => .error e

end DocPath.Flat

import DocPath.Operation.Builtin
import DocPath.Tree.Edit

/-!
# Queries and changes of values

The operations of trees for those who hold plain values: what paths lead to in a value, rows of
results side by side, and changed values.
-/

namespace DocPath.Query

/-! ### Finding -/

/-- The values that a path leads to. -/
def find (v : Json) (path : String) : Except PathError (List Json) := do
  return (← (Tree.ofJson .builtin v).findValues path).1

/-- The values that each path leads to in a tree, one path after the other. -/
def findEach (t : Tree) : List String → Except PathError (List (List Json))
  | [] => .ok []
  | path :: rest => do
    let (values, t) ← t.findValues path
    return values :: (← findEach t rest)

/-- The values that each path leads to. -/
def findMulti (v : Json) (paths : List String) : Except PathError (List (List Json)) :=
  findEach (Tree.ofJson .builtin v) paths

/-- The rows of some columns. Columns that end early are filled up with nulls. -/
def rows (columns : List (List Json)) : List (List Json) :=
  (List.range ((columns.map List.length).foldl Nat.max 0)).map fun i ↦
    columns.map fun column ↦ column.getD i .null

/-- Every row has a value for every column. -/
theorem length_of_mem_rows {columns : List (List Json)} {row : List Json}
    (h : row ∈ rows columns) : row.length = columns.length := by
  obtain ⟨i, -, rfl⟩ := List.mem_map.1 h
  simp

/-- The values that each path leads to, side by side. -/
def findJoin (v : Json) (paths : List String) : Except PathError (List (List Json)) := do
  return rows (← findMulti v paths)

/-- The rows as objects with the paths as keys. -/
def findJoinHash (v : Json) (paths : List String) : Except PathError (List Entries) := do
  return (← findJoin v paths).map fun row ↦ Entries.ofList (paths.zip row)

/-! ### Results -/

/-- The first value, or null. -/
def first (values : List Json) : Json :=
  values.headD .null

/-- The values, or where there are none, a default, which is JSON if it reads as such and a string
otherwise. -/
def orDefault (values : List Json) (default : String) : List Json :=
  if values.isEmpty then [Json.readOrText default] else values

@[simp] theorem first_nil : first [] = .null := rfl

@[simp] theorem first_cons (v : Json) (rest : List Json) : first (v :: rest) = v := rfl

@[simp] theorem orDefault_cons (v : Json) (rest : List Json) (default : String) :
    orDefault (v :: rest) default = v :: rest := rfl

/-! ### Changing -/

/-- The outcome of a change, and the changed value. -/
def apply {α : Type} (change : Tree → Except PathError α × Tree) (v : Json) :
    Except PathError α × Json :=
  let (outcome, t) := change (Tree.ofJson .builtin v)
  (outcome, t.document)

def set (v : Json) (entries : List (String × Json)) : Except PathError Unit × Json :=
  apply (·.set entries) v

def bridge (v : Json) (entries : List (String × Json)) : Except PathError Unit × Json :=
  apply (·.bridge entries) v

def copy (v : Json) (entries : List (String × String)) : Except PathError Unit × Json :=
  apply (·.copy entries) v

def copyAll (v : Json) (entries : List (String × String)) : Except PathError Unit × Json :=
  apply (·.copyAll entries) v

def move (v : Json) (entries : List (String × String)) : Except PathError Unit × Json :=
  apply (·.move entries) v

def moveAll (v : Json) (entries : List (String × String)) : Except PathError Unit × Json :=
  apply (·.moveAll entries) v

def delete (v : Json) (paths : List String) : Except PathError Nat × Json :=
  apply (·.delete paths) v

end DocPath.Query

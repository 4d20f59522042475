import DocPath.Json.Printer
import DocPath.Key
import DocPath.Text.Inspect

/-!
# Operations

An operation takes a value and arguments to another value. Some **pick** a child of the value, and
what they pick is known by its key as well. A registry holds the operations that a query may use,
each under its name, and anyone may register one of their own.
-/

namespace DocPath

/-- Why an operation has no result. -/
inductive OperationError
  | unknown (name : String)
  | argumentCount (name : String) (least most given : Nat)
  | containerExpected (name : String) (given : Json)
  | cannotCompare (name : String) (left right : Json)
  | mixedSort
  | notOf (name : String) (given : Json)
  | keyNotFound (key : Json)
  /-- What an operation says of itself, as a whole text. -/
  | other (text : String)

namespace OperationError

/-- What is wrong, without saying that an operation is. -/
def cause : OperationError → String
  | unknown name => "unknown operation `" ++ name ++ "`"
  | argumentCount name least most given =>
    "`" ++ name ++ s!"` takes {least}..={most} arguments, got {given}"
  | containerExpected name v => "`" ++ name ++ "` needs a container, got " ++ v.compact
  | cannotCompare name a b =>
    "`" ++ name ++ "` cannot compare " ++ a.compact ++ " with " ++ b.compact
  | mixedSort => "`sort` on mixed values"
  | notOf name v => "`" ++ name ++ "` of " ++ v.compact
  | keyNotFound key => "key " ++ key.compact ++ " not found"
  | other text => text

def message : OperationError → String
  | other text => text
  | e => "operation error: " ++ e.cause

end OperationError

/-- An operation that a segment can invoke. -/
structure Operation where
  name : String
  /-- The least and the largest number of arguments. -/
  arity : Nat × Nat
  /-- The result. -/
  call : Json → List Json → Except OperationError Json
  /-- The key of the child that the operation picks. Operations that compute pick none. -/
  select : Json → List Json → Except OperationError (Option Key) := fun _ _ ↦ .ok none
  /-- A result is a value like any other: its objects have distinct keys. -/
  distinct_call : ∀ {v : Json} {args : List Json} {result : Json}, call v args = .ok result →
    v.Distinct → (∀ arg ∈ args, arg.Distinct) → result.Distinct

/-! ### Registries -/

/-- The operations that a query may use, no two of them with the same name. -/
structure Registry where
  operations : List Operation
  nodup : (operations.map Operation.name).Nodup

namespace Registry

def empty : Registry :=
  ⟨[], List.nodup_nil⟩

/-- Adds an operation, in place of one with the same name. -/
def register (r : Registry) (op : Operation) : Registry where
  operations := r.operations.filter (fun old ↦ old.name ≠ op.name) ++ [op]
  nodup := by
    rw [List.map_append, List.nodup_append]
    refine ⟨r.nodup.sublist (List.filter_sublist.map _), by simp, ?_⟩
    intro name hname other hother
    obtain ⟨old, hold, rfl⟩ := List.mem_map.1 hname
    rw [List.map_singleton, List.mem_singleton] at hother
    simpa [hother] using (List.mem_filter.1 hold).2

def get? (r : Registry) (name : String) : Option Operation :=
  r.operations.find? fun op ↦ op.name = name

@[simp] theorem get?_empty (name : String) : empty.get? name = none := rfl

theorem mem_register {r : Registry} {op other : Operation}
    (h : other ∈ (r.register op).operations) : other = op ∨ other ∈ r.operations := by
  rcases List.mem_append.1 h with h | h
  · exact .inr (List.mem_filter.1 h).1
  · exact .inl (List.mem_singleton.1 h)

/-- What is registered is found by its name, and the others as before. -/
theorem get?_register (r : Registry) (op : Operation) (name : String) :
    (r.register op).get? name = if op.name = name then some op else r.get? name := by
  rw [get?, register, List.find?_append]
  by_cases h : op.name = name
  · have hnone : (r.operations.filter fun old ↦ old.name ≠ op.name).find?
        (fun old ↦ old.name = name) = none := by
      rw [List.find?_eq_none]
      intro old hold heq
      have hne : old.name ≠ op.name := by simpa using (List.mem_filter.1 hold).2
      exact hne ((of_decide_eq_true heq).trans h.symm)
    rw [hnone, List.find?_singleton]
    simp [h]
  · have hold : (r.operations.filter fun old ↦ old.name ≠ op.name).find?
        (fun old ↦ old.name = name) = r.get? name := by
      rw [List.find?_filter, get?]
      congr 1
      funext old
      by_cases heq : old.name = name <;> simp [heq, Ne.symm h]
    rw [hold, List.find?_singleton]
    simp [h]

/-- The operation of a name, where it takes the given number of arguments. -/
def resolve (r : Registry) (name : String) (args : List Json) :
    Except OperationError Operation :=
  match r.get? name with
  | none => .error (.unknown name)
  | some op =>
    let (least, most) := op.arity
    if least ≤ args.length ∧ args.length ≤ most then .ok op
    else .error (.argumentCount name least most args.length)

/-- The result of the operation of a name. -/
def call (r : Registry) (name : String) (v : Json) (args : List Json) :
    Except OperationError Json := do
  (← r.resolve name args).call v args

/-- The key of the child that the operation of a name picks. -/
def select (r : Registry) (name : String) (v : Json) (args : List Json) :
    Except OperationError (Option Key) := do
  (← r.resolve name args).select v args

/-- The names in order, quoted, as a set. -/
def description (r : Registry) : String :=
  let names := (r.operations.map Operation.name).mergeSort fun a b ↦ a ≤ b
  String.ofList ['\x7b'] ++ ", ".intercalate (names.map Text.inspect) ++ String.ofList ['\x7d']

variable {r : Registry} {name : String} {v result : Json} {args : List Json}

/-- The operation that a name is resolved to is the one that is found by it. -/
theorem get?_of_resolve {op : Operation} (h : r.resolve name args = .ok op) :
    r.get? name = some op := by
  unfold resolve at h
  split at h
  · cases h
  · rename_i found hfound
    dsimp only at h
    split at h <;> cases h
    exact hfound

/-- The results of a registry's operations have distinct keys. -/
theorem distinct_of_call (h : r.call name v args = .ok result) (hv : v.Distinct)
    (hargs : ∀ arg ∈ args, arg.Distinct) : result.Distinct := by
  unfold call at h
  cases hop : r.resolve name args with
  | error e =>
    rw [hop] at h
    cases h
  | ok op =>
    rw [hop] at h
    exact op.distinct_call h hv hargs

end Registry

end DocPath

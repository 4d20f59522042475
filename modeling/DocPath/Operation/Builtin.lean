import DocPath.Json.Compare
import DocPath.Operation.Basic
import DocPath.Unicode.Case

/-!
# The operations of every query

`first`, `last`, `min`, `max` and `fetch` pick a child, and the others compute. What they make of
values with distinct keys has distinct keys (`Builtin.distinct_of_call`), so that each of them is an
operation (`Builtin.operation`).
-/

namespace DocPath

/-- The operations that a query may use unless it is told otherwise. -/
inductive Builtin
  | first | last | min | max
  | sort | reverse | unique | keys | values
  | size | lower | upper | fetch
deriving DecidableEq

/-- The children of a container with their keys. -/
def Json.children? : Json → Option (List (Key × Json))
  | .array items => some (items.zipIdx.map fun item ↦ (.index item.2, item.1))
  | .object entries => some (entries.map fun entry ↦ (.name entry.1, entry.2))
  | .scalar _ => none

namespace Json

/-- The values whose compact text did not come before, with the texts seen so far. -/
def uniqueFrom (seen : List String) : List Json → List Json
  | [] => []
  | v :: rest =>
    if v.compact ∈ seen then uniqueFrom seen rest else v :: uniqueFrom (v.compact :: seen) rest

/-- The values without repetitions, each at its first place. Values are the same where they are
written the same. -/
def unique (values : List Json) : List Json :=
  uniqueFrom [] values

/-- Puts a value into a list in decreasing order, right after the values that are greater. -/
def insertDown (v : Json) : List Json → Option (List Json)
  | [] => some [v]
  | w :: rest => do
    if (← v.compare w) = .lt then return w :: (← insertDown v rest) else return v :: w :: rest

/-- The values in decreasing order, after those of a list that is in decreasing order. -/
def sortDown (sorted : List Json) : List Json → Option (List Json)
  | [] => some sorted
  | v :: rest => do sortDown (← insertDown v sorted) rest

/-- The values in increasing order, equal ones as they come, if all that meet are comparable. -/
def sort? (values : List Json) : Option (List Json) :=
  (sortDown [] values).map List.reverse

end Json

namespace Operation

/-- The key of the child that an argument names, if there is such a child. -/
def fetchKey? (v wanted : Json) : Option Key :=
  match v, wanted with
  | .object entries, .string k => if Entries.contains entries k then some (.name k) else none
  | .object entries, w =>
    if Entries.contains entries w.compact then some (.name w.compact) else none
  | .array items, .number n =>
    n.nat?.bind fun i ↦ if i < items.length then some (.index i) else none
  | _, _ => none

/-- The child of a value with this key. -/
def childWith? (v : Json) (key : Key) : Option Json :=
  match v, key with
  | .object entries, .name k => Entries.get? entries k
  | .array items, .index i => items[i]?
  | _, _ => none

end Operation

namespace Builtin

open Operation (childWith? fetchKey?)

def name : Builtin → String
  | first => "first"
  | last => "last"
  | min => "min"
  | max => "max"
  | sort => "sort"
  | reverse => "reverse"
  | unique => "unique"
  | keys => "keys"
  | values => "values"
  | size => "size"
  | lower => "lower"
  | upper => "upper"
  | fetch => "fetch"

/-- All of them, in the order in which they are registered. -/
def all : List Builtin :=
  [first, last, min, max, sort, reverse, unique, keys, values, size, lower, upper, fetch]

/-- The least and the largest number of arguments. -/
def arity : Builtin → Nat × Nat
  | fetch => (1, 2)
  | _ => (0, 0)

/-- The children that the operation works on. -/
def childrenOf (op : Builtin) (v : Json) : Except OperationError (List (Key × Json)) :=
  match v.children? with
  | some children => .ok children
  | none => .error (.containerExpected op.name v)

/-- The child that no later one goes before, in the given direction, starting from the best one so
far. -/
def extremeFrom (op : Builtin) (direction : Ordering) (best : Key × Json) :
    List (Key × Json) → Except OperationError (Key × Json)
  | [] => .ok best
  | child :: rest =>
    match child.2.compare best.2 with
    | some o => extremeFrom op direction (if o = direction then child else best) rest
    | none => .error (.cannotCompare op.name child.2 best.2)

/-- The earliest of the smallest or of the largest children. -/
def extreme (op : Builtin) (direction : Ordering) (v : Json) :
    Except OperationError (Option (Key × Json)) := do
  match ← op.childrenOf v with
  | [] => return none
  | child :: rest => return some (← op.extremeFrom direction child rest)

/-- The key of the child that the operation picks. Operations that compute pick none. -/
def select (op : Builtin) (v : Json) (args : List Json) :
    Except OperationError (Option Key) :=
  match op with
  | first => do return (← op.childrenOf v).head?.map Prod.fst
  | last => do return (← op.childrenOf v).getLast?.map Prod.fst
  | min => do return (← op.extreme .lt v).map Prod.fst
  | max => do return (← op.extreme .gt v).map Prod.fst
  | fetch => .ok (args.head?.bind (fetchKey? v))
  | _ => .ok none

/-- The text of a string in upper or lower case. -/
def changeCase (op : Builtin) (change : String → String) (v : Json) :
    Except OperationError Json :=
  match v with
  | .string s => .ok (.string (change s))
  | v => .error (.notOf op.name v)

/-- The result of the operation. -/
def call (op : Builtin) (v : Json) (args : List Json) : Except OperationError Json :=
  match op with
  | first => do return ((← op.childrenOf v).head?.map Prod.snd).getD .null
  | last => do return ((← op.childrenOf v).getLast?.map Prod.snd).getD .null
  | min => do return ((← op.extreme .lt v).map Prod.snd).getD .null
  | max => do return ((← op.extreme .gt v).map Prod.snd).getD .null
  | sort => do
    match Json.sort? ((← op.childrenOf v).map Prod.snd) with
    | some sorted => return .array sorted
    | none => throw .mixedSort
  | reverse =>
    match v with
    | .string s => .ok (.string (String.ofList s.toList.reverse))
    | v => do return .array ((← op.childrenOf v).map Prod.snd).reverse
  | unique => do return .array (Json.unique ((← op.childrenOf v).map Prod.snd))
  | keys => do
    return .array ((← op.childrenOf v).map fun child ↦
      match child.1 with
      | .name k => .string k
      | .index i => .ofNat i)
  | values => do return .array ((← op.childrenOf v).map Prod.snd)
  | size =>
    match v with
    | .array items => .ok (.ofNat items.length)
    | .object entries => .ok (.ofNat entries.length)
    | .string s => .ok (.ofNat s.length)
    | v => .error (.notOf op.name v)
  | lower => op.changeCase Unicode.toLower v
  | upper => op.changeCase Unicode.toUpper v
  | fetch =>
    let wanted := args.head?.getD .null
    match (fetchKey? v wanted).bind (childWith? v), args[1]? with
    | some found, _ => .ok found
    | none, some default => .ok default
    | none, none => .error (.keyNotFound wanted)

end Builtin

/-! ### Distinct keys -/

namespace Json

theorem insertDown_perm {v : Json} {values sorted : List Json}
    (h : insertDown v values = some sorted) : sorted.Perm (v :: values) := by
  induction values generalizing sorted with
  | nil =>
    cases h
    exact .refl _
  | cons w rest ih =>
    obtain ⟨o, -, h⟩ := Option.bind_eq_some_iff.1 h
    split at h
    · obtain ⟨tail, htail, h⟩ := Option.bind_eq_some_iff.1 h
      cases h
      exact ((ih htail).cons w).trans (.swap v w rest)
    · cases h
      exact .refl _

theorem sortDown_perm {values sorted result : List Json}
    (h : sortDown sorted values = some result) : result.Perm (values ++ sorted) := by
  induction values generalizing sorted with
  | nil =>
    cases h
    exact .refl _
  | cons v rest ih =>
    obtain ⟨next, hnext, h⟩ := Option.bind_eq_some_iff.1 h
    exact (ih h).trans (((insertDown_perm hnext).append_left rest).trans List.perm_middle)

/-- Sorting only reorders. -/
theorem sort?_perm {values sorted : List Json} (h : sort? values = some sorted) :
    sorted.Perm values := by
  obtain ⟨down, hdown, rfl⟩ := Option.map_eq_some_iff.1 h
  simpa using (List.reverse_perm down).trans (sortDown_perm hdown)

theorem uniqueFrom_subset (seen : List String) (values : List Json) :
    uniqueFrom seen values ⊆ values := by
  induction values generalizing seen with
  | nil => exact List.Subset.refl _
  | cons v rest ih =>
    unfold uniqueFrom
    split
    · exact List.subset_cons_of_subset _ (ih seen)
    · exact List.cons_subset_cons _ (ih _)

theorem distinct_of_mem_children? {v : Json} {children : List (Key × Json)}
    (h : v.children? = some children) (hv : v.Distinct) :
    ∀ child ∈ children, child.2.Distinct := by
  intro child hchild
  cases v with
  | scalar s => cases h
  | array items =>
    cases h
    obtain ⟨item, hitem, rfl⟩ := List.mem_map.1 hchild
    exact distinct_array.1 hv _ (List.fst_mem_of_mem_zipIdx hitem)
  | object entries =>
    cases h
    obtain ⟨entry, hentry, rfl⟩ := List.mem_map.1 hchild
    exact (distinct_object.1 hv).2 _ hentry

theorem distinct_of_childWith? {v w : Json} {key : Key} (h : Operation.childWith? v key = some w)
    (hv : v.Distinct) : w.Distinct := by
  cases v <;> cases key <;> simp only [Operation.childWith?, reduceCtorEq] at h
  · exact distinct_array.1 hv _ (List.mem_of_getElem? h)
  · exact (distinct_object.1 hv).2 _ (Entries.mem_of_get?_eq_some h)

end Json

namespace Builtin

open Operation (childWith? fetchKey?)

variable {op : Builtin} {v result : Json}

theorem children?_of_childrenOf {children : List (Key × Json)}
    (h : op.childrenOf v = .ok children) : v.children? = some children := by
  unfold childrenOf at h
  split at h <;> cases h
  assumption

theorem mem_of_extremeFrom {direction : Ordering} {best found : Key × Json}
    {children : List (Key × Json)} (h : op.extremeFrom direction best children = .ok found) :
    found ∈ best :: children := by
  induction children generalizing best with
  | nil =>
    cases h
    exact List.mem_cons_self ..
  | cons child rest ih =>
    unfold extremeFrom at h
    split at h
    · have hmem := ih h
      split at hmem
      · exact List.mem_cons_of_mem _ hmem
      · rcases List.mem_cons.1 hmem with rfl | hmem
        · exact List.mem_cons_self ..
        · exact List.mem_cons_of_mem _ (List.mem_cons_of_mem _ hmem)
    · cases h

/-- The extreme child is a child. -/
theorem mem_of_extreme {direction : Ordering} {found : Key × Json}
    (h : op.extreme direction v = .ok (some found)) :
    ∃ children, v.children? = some children ∧ found ∈ children := by
  simp only [extreme, bind, Except.bind] at h
  split at h
  · cases h
  · rename_i children hchildren
    refine ⟨children, children?_of_childrenOf hchildren, ?_⟩
    split at h
    · cases h
    · split at h
      · cases h
      · cases h
        exact mem_of_extremeFrom ‹_›

/-- The value of the extreme child, or null if there are none, has distinct keys. -/
private theorem distinct_of_extreme {direction : Ordering}
    (h : (do return ((← op.extreme direction v).map Prod.snd).getD .null) = Except.ok result)
    (hv : v.Distinct) : result.Distinct := by
  simp only [bind, Except.bind, pure, Except.pure] at h
  split at h
  · cases h
  · rename_i found hfound
    cases h
    cases found with
    | none => exact Json.distinct_scalar _
    | some found =>
      obtain ⟨children, hchildren, hmem⟩ := mem_of_extreme hfound
      exact Json.distinct_of_mem_children? hchildren hv found hmem

/-- The result of an operation on children: what becomes of them has distinct keys. -/
private theorem distinct_of_childrenOf {f : List (Key × Json) → Json}
    (h : (do return f (← op.childrenOf v)) = Except.ok result)
    (hf : ∀ children, (∀ child ∈ children, child.2.Distinct) → (f children).Distinct)
    (hv : v.Distinct) : result.Distinct := by
  simp only [bind, Except.bind, pure, Except.pure] at h
  split at h
  · cases h
  · cases h
    exact hf _ (Json.distinct_of_mem_children? (children?_of_childrenOf ‹_›) hv)

private theorem distinct_of_changeCase {change : String → String}
    (h : op.changeCase change v = .ok result) : result.Distinct := by
  unfold changeCase at h
  split at h <;> cases h
  exact Json.distinct_scalar _

private theorem distinct_getD_of_mem {children : List (Key × Json)} {child? : Option (Key × Json)}
    (h : ∀ child ∈ children, child.2.Distinct) (hmem : ∀ child ∈ child?, child ∈ children) :
    ((child?.map Prod.snd).getD .null).Distinct := by
  cases child? with
  | none => exact Json.distinct_scalar _
  | some child => exact h child (hmem child rfl)

/-- A list of values of children has distinct keys. -/
private theorem distinct_array_of_subset {values : List Json} {children : List (Key × Json)}
    (hsub : values ⊆ children.map Prod.snd) (hchildren : ∀ child ∈ children, child.2.Distinct) :
    (Json.array values).Distinct := by
  refine Json.distinct_array.2 fun w hw ↦ ?_
  obtain ⟨child, hchild, rfl⟩ := List.mem_map.1 (hsub hw)
  exact hchildren child hchild

/-- Operations keep keys distinct. -/
theorem distinct_of_call {args : List Json} (h : op.call v args = .ok result) (hv : v.Distinct)
    (hargs : ∀ arg ∈ args, arg.Distinct) : result.Distinct := by
  cases op with
  | first =>
    refine distinct_of_childrenOf (f := fun children ↦ (children.head?.map Prod.snd).getD .null) h
      (fun children hc ↦ distinct_getD_of_mem hc fun _ ↦ List.mem_of_head?) hv
  | last =>
    refine distinct_of_childrenOf
      (f := fun children ↦ (children.getLast?.map Prod.snd).getD .null) h
      (fun children hc ↦ distinct_getD_of_mem hc fun _ ↦ List.mem_of_getLast?) hv
  | min => exact distinct_of_extreme h hv
  | max => exact distinct_of_extreme h hv
  | sort =>
    simp only [call, bind, Except.bind, pure, Except.pure] at h
    split at h
    · cases h
    · split at h
      · cases h
        refine distinct_array_of_subset (Json.sort?_perm ‹_›).subset
          (Json.distinct_of_mem_children? (children?_of_childrenOf ‹_›) hv)
      · cases h
  | reverse =>
    simp only [call] at h
    split at h
    · cases h
      exact Json.distinct_scalar _
    · exact distinct_of_childrenOf (f := fun children ↦ .array (children.map Prod.snd).reverse) h
        (fun _ ↦ distinct_array_of_subset (List.reverse_subset.2 (List.Subset.refl _))) hv
  | unique =>
    exact distinct_of_childrenOf (f := fun children ↦ .array (Json.unique (children.map Prod.snd)))
      h (fun _ ↦ distinct_array_of_subset (Json.uniqueFrom_subset [] _)) hv
  | keys =>
    simp only [call] at h
    refine distinct_of_childrenOf h (fun children _ ↦ Json.distinct_array.2 fun w hw ↦ ?_) hv
    obtain ⟨child, -, rfl⟩ := List.mem_map.1 hw
    cases child.1 <;> exact Json.distinct_scalar _
  | values =>
    exact distinct_of_childrenOf (f := fun children ↦ .array (children.map Prod.snd)) h
      (fun _ ↦ distinct_array_of_subset (List.Subset.refl _)) hv
  | size =>
    simp only [call] at h
    split at h <;> cases h <;> exact Json.distinct_scalar _
  | lower => exact distinct_of_changeCase h
  | upper => exact distinct_of_changeCase h
  | fetch =>
    simp only [call] at h
    split at h
    · rename_i found hfound
      cases h
      obtain ⟨key, -, hkey⟩ := Option.bind_eq_some_iff.1 hfound
      exact Json.distinct_of_childWith? hkey hv
    · rename_i default hdefault
      cases h
      exact hargs _ (List.mem_of_getElem? hdefault)
    · cases h

/-- Each of them as an operation. -/
def operation (op : Builtin) : Operation where
  name := op.name
  arity := op.arity
  call := op.call
  select := op.select
  distinct_call := distinct_of_call

end Builtin

namespace Registry

/-- The operations of every query. -/
def builtin : Registry :=
  Builtin.all.foldl (fun r op ↦ r.register op.operation) .empty

@[simp] theorem get?_builtin (op : Builtin) : builtin.get? op.name = some op.operation := by
  cases op <;> rfl

/-- There is nothing else in the registry of these operations. -/
theorem exists_of_mem_builtin {op : Operation} (h : op ∈ builtin.operations) :
    ∃ b : Builtin, b.operation = op := by
  have hfold : ∀ (l : List Builtin) (r : Registry), (∀ op ∈ r.operations, ∃ b : Builtin,
      b.operation = op) → ∀ op ∈ (l.foldl (fun r b ↦ r.register b.operation) r).operations,
        ∃ b : Builtin, b.operation = op := by
    intro l
    induction l with
    | nil => exact fun _ hr ↦ hr
    | cons b rest ih =>
      refine fun r hr ↦ ih _ fun op hop ↦ ?_
      rcases mem_register hop with rfl | hop
      · exact ⟨b, rfl⟩
      · exact hr op hop
  exact hfold _ _ (fun _ hop ↦ absurd hop List.not_mem_nil) op h

end Registry

end DocPath

import DocPath.Json.Number

/-!
# JSON values

A value is a scalar, an array or an object. An object keeps its entries in the order in which their
keys first came; that its keys are distinct is the predicate `Json.Distinct`, which every reader and
every edit of this library keeps, and not part of the type, so that values stay plain data.

Equality of values (`Json.same`) does not look at the order of entries, and tells an integer from a
double.
-/

namespace DocPath

/-- A value without parts. -/
inductive Scalar
  | null
  | bool (value : Bool)
  | number (value : Number)
  | string (value : String)
deriving DecidableEq

/-- A JSON value. -/
inductive Json
  | scalar (value : Scalar)
  | array (items : List Json)
  | object (entries : List (String × Json))

/-- The two kinds of container, and the values without parts. -/
inductive Kind
  | map
  | sequence
  | scalar
deriving DecidableEq

/-- The entries of an object. -/
abbrev Entries := List (String × Json)

namespace Entries

/-- The value of the first entry with this key. -/
def get? : Entries → String → Option Json
  | [], _ => none
  | (k, v) :: rest, key => if k = key then some v else get? rest key

def contains (entries : Entries) (key : String) : Bool :=
  (entries.get? key).isSome

/-- Replaces the value of the entry with this key, which keeps its place, or adds the entry at the
end. -/
def insert : Entries → String → Json → Entries
  | [], key, value => [(key, value)]
  | (k, v) :: rest, key, value =>
    if k = key then (k, value) :: rest else (k, v) :: insert rest key value

/-- The entries of a list of pairs, of which a later one replaces an earlier one of the same key. -/
def ofList (pairs : List (String × Json)) : Entries :=
  pairs.foldl (fun entries pair ↦ entries.insert pair.1 pair.2) []

@[simp] theorem get?_insert_self (entries : Entries) (key : String) (value : Json) :
    (entries.insert key value).get? key = some value := by
  induction entries with
  | nil => simp [insert, get?]
  | cons entry rest ih => by_cases h : entry.1 = key <;> simp [insert, get?, h, ih]

theorem get?_insert_of_ne (entries : Entries) {key other : String} (value : Json)
    (h : key ≠ other) : (entries.insert key value).get? other = entries.get? other := by
  induction entries with
  | nil => simp [insert, get?, h]
  | cons entry rest ih =>
    by_cases hk : entry.1 = key
    · subst hk; simp [insert, get?, h]
    · by_cases ho : entry.1 = other
      · subst ho; simp [insert, get?, hk]
      · simp [insert, get?, hk, ho, ih]

theorem mem_of_get?_eq_some {entries : Entries} {key : String} {value : Json}
    (h : entries.get? key = some value) : (key, value) ∈ entries := by
  induction entries with
  | nil => simp [get?] at h
  | cons entry rest ih =>
    by_cases hk : entry.1 = key
    · rw [get?, if_pos hk] at h
      exact List.mem_cons.2 (.inl (by rw [← hk, ← Option.some.inj h]))
    · rw [get?, if_neg hk] at h
      exact List.mem_cons_of_mem _ (ih h)

end Entries

namespace Json

@[match_pattern] abbrev null : Json := scalar .null
@[match_pattern] abbrev bool (b : Bool) : Json := scalar (.bool b)
@[match_pattern] abbrev number (n : Number) : Json := scalar (.number n)
@[match_pattern] abbrev string (s : String) : Json := scalar (.string s)

instance : Inhabited Json := ⟨null⟩

/-- The integer, as a value. -/
abbrev ofInt (n : Int) : Json := number (.ofInt n)

/-- The count, as a value. -/
abbrev ofNat (n : Nat) : Json := number (.ofNat n)

def kind : Json → Kind
  | scalar _ => .scalar
  | array _ => .sequence
  | object _ => .map

/-- The container of a kind that holds nothing; where no container is meant, an object. -/
def empty : Kind → Json
  | .sequence => array []
  | _ => object []

mutual

/-- Every object in the value has distinct keys. -/
def Distinct : Json → Prop
  | scalar _ => True
  | array items => DistinctItems items
  | object entries => (entries.map Prod.fst).Nodup ∧ DistinctEntries entries

def DistinctItems : List Json → Prop
  | [] => True
  | v :: rest => v.Distinct ∧ DistinctItems rest

def DistinctEntries : List (String × Json) → Prop
  | [] => True
  | (_, v) :: rest => v.Distinct ∧ DistinctEntries rest

end

theorem distinctItems_iff {items : List Json} :
    DistinctItems items ↔ ∀ v ∈ items, v.Distinct := by
  induction items with
  | nil => simp [DistinctItems]
  | cons v rest ih => simp [DistinctItems, ih]

theorem distinctEntries_iff {entries : List (String × Json)} :
    DistinctEntries entries ↔ ∀ entry ∈ entries, entry.2.Distinct := by
  induction entries with
  | nil => simp [DistinctEntries]
  | cons entry rest ih => simp [DistinctEntries, ih]

@[simp] theorem distinct_scalar (s : Scalar) : (scalar s).Distinct := by
  simp [Distinct]

@[simp] theorem distinct_array {items : List Json} :
    (array items).Distinct ↔ ∀ v ∈ items, v.Distinct := by
  rw [Distinct, distinctItems_iff]

@[simp] theorem distinct_object {entries : List (String × Json)} :
    (object entries).Distinct ↔
      (entries.map Prod.fst).Nodup ∧ ∀ entry ∈ entries, entry.2.Distinct := by
  rw [Distinct, distinctEntries_iff]

@[simp] theorem distinct_empty (k : Kind) : (empty k).Distinct := by
  cases k <;> simp [empty]

/-! ### Equality -/

/-- Equality of scalars, with numbers equal only within one kind. -/
def sameScalar : Scalar → Scalar → Bool
  | .null, .null => true
  | .bool a, .bool b => a == b
  | .number a, .number b => a.same b
  | .string a, .string b => a == b
  | _, _ => false

mutual

/-- Equality of values: arrays item by item, objects key by key in any order. -/
def same : Json → Json → Bool
  | scalar a, scalar b => sameScalar a b
  | array items, array others => sameItems items others
  | object entries, object others =>
    entries.length == others.length && sameEntries entries others
  | _, _ => false

def sameItems : List Json → List Json → Bool
  | [], [] => true
  | v :: rest, w :: others => v.same w && sameItems rest others
  | _, _ => false

/-- Every entry has an equal one of the same key among the others. -/
def sameEntries : List (String × Json) → Entries → Bool
  | [], _ => true
  | (k, v) :: rest, others =>
    (match others.get? k with
      | some w => v.same w
      | none => false) && sameEntries rest others

end

/-! ### Truth -/

/-- Null, `false`, zero and whatever is empty are false; all else is true. -/
def truthy : Json → Bool
  | null => false
  | bool b => b
  | number n => !n.isZero
  | string s => !s.isEmpty
  | array items => !items.isEmpty
  | object entries => !entries.isEmpty

end Json

end DocPath

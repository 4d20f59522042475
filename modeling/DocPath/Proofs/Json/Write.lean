import DocPath.Operation.Builtin
import DocPath.Proofs.Json.Distinct
import DocPath.Proofs.Text.Integer

/-!
# Writing into values

What it means to write a value into a document at a list of keys, said of values alone, with no tree
and no handles.

`Json.put` gives one key of a container a value, and `Json.writeIn` goes down several keys that
exist or are to be made. `Json.write` is the write into a document: its root is never exchanged for
another kind of container, and a first key that does not suit the root is turned into one that does.

A bridge does not always take a name at the root of an array as a write does: a name that spells no
place still finds the position that it is equivalent to, and a place that no array can have is not
taken at all. `Json.landing?` are the keys where a bridge really writes, and `Json.Misread` says
when they are not those of the write (`write_eq_of_not_misread`).

* `Json.Spared` — the positions that a write leaves alone
* `Json.Reached` — the positions that it comes to, on its way or at its end
-/

namespace DocPath

open Operation (childWith?)

/-- The kind of the containers that have a key. -/
def Key.container : Key → Kind
  | name _ => .map
  | index _ => .sequence

/-- Keys name positions that a word of 64 bits can count. -/
def Key.InRange : Key → Prop
  | name _ => True
  | index i => i < 0x8000000000000000

namespace Json

/-- Gives a key of a container a value: in place of the value it has, else at the end. A position
beyond the end of an array is reached by filling up with nulls. -/
def put (d : Json) (key : Key) (v : Json) : Json :=
  match d, key with
  | .object entries, .name k => .object (Entries.insert entries k v)
  | .array items, .index i =>
    .array (if i < items.length then items.set i v
      else items ++ (List.replicate (i - items.length) null ++ [v]))
  | d, _ => d

/-- The value, if it is of a kind, else the empty container of that kind. -/
def fit (kind : Kind) (d : Json) : Json :=
  if d.kind = kind then d else empty kind

/-- Writes a value at keys. What is on the way and is not the container that the next key needs
becomes an empty one. -/
def writeIn (v : Json) : List Key → Json → Json
  | [], _ => v
  | key :: rest, d =>
    (d.fit key.container).put key
      (writeIn v rest ((childWith? (d.fit key.container) key).getD null))

/-- The key of a container that a key means: in an object the name it is written as, in an array a
position, which a name means if it spells one. -/
def aim? (d : Json) (key : Key) : Option Key :=
  match d, key with
  | .object _, key => some (.name key.text)
  | .array _, .index i => some (.index i)
  | .array _, .name k => (Text.place? k.toList).map Key.index
  | .scalar _, _ => none

/-- A container that has keys of the sort of a key takes it as it is. -/
theorem aim?_of_kind {d : Json} {key : Key} (h : d.kind = key.container) :
    d.aim? key = some key := by
  cases d <;> cases key <;> first | rfl | cases h

/-- A container aims at keys of its own sort. -/
theorem kind_of_aim? {d : Json} {key key' : Key} (h : d.aim? key = some key') :
    d.kind = key'.container := by
  cases d with
  | scalar value => cases h
  | object entries => cases h; rfl
  | array items =>
    cases key with
    | index i => cases h; rfl
    | name k =>
      obtain ⟨i, -, rfl⟩ := Option.map_eq_some_iff.1 h
      rfl

/-- A root without parts becomes the container that the first key needs. -/
def coerceRoot (d : Json) (key : Key) : Json :=
  if d.kind = .scalar then empty key.container else d

/-- Writes a value into a document at keys. -/
def write (d : Json) (keys : List Key) (v : Json) : Json :=
  match keys with
  | [] => v
  | key :: rest =>
    match (d.coerceRoot key).aim? key with
    | some aimed => writeIn v (aimed :: rest) (d.coerceRoot key)
    | none => d

/-! ### Fitting -/

theorem kind_empty_container (key : Key) : (empty key.container).kind = key.container := by
  cases key <;> rfl

theorem kind_fit (d : Json) (key : Key) : (d.fit key.container).kind = key.container := by
  unfold fit
  split
  · assumption
  · exact kind_empty_container key

theorem fit_of_kind {d : Json} {kind : Kind} (h : d.kind = kind) : d.fit kind = d :=
  if_pos h

theorem fit_fit (d : Json) (key : Key) :
    (d.fit key.container).fit key.container = d.fit key.container :=
  fit_of_kind (d.kind_fit key)

/-- A write fits what it comes to by itself. -/
theorem writeIn_fit (v : Json) (key : Key) (rest : List Key) (d : Json) :
    writeIn v (key :: rest) (d.fit key.container) = writeIn v (key :: rest) d := by
  rw [writeIn, writeIn, fit_fit]

theorem writeIn_cons_of_kind {d : Json} {key : Key} (h : d.kind = key.container) (v : Json)
    (rest : List Key) :
    writeIn v (key :: rest) d = d.put key (writeIn v rest ((childWith? d key).getD null)) := by
  rw [writeIn, fit_of_kind h]

/-- A write into a value without parts makes it the container that the first key needs. -/
theorem writeIn_empty {d : Json} (h : d.kind = .scalar) (v : Json) (key : Key) (rest : List Key) :
    writeIn v (key :: rest) (empty key.container) = writeIn v (key :: rest) d := by
  have hfit : d.fit key.container = empty key.container := by
    rw [fit, h, if_neg]
    cases key <;> simp [Key.container]
  rw [← writeIn_fit v key rest d, hfit]

/-- A write into a root without parts makes it the container that the first key needs. -/
theorem writeIn_coerceRoot {d : Json} {key key' : Key} (h : (d.coerceRoot key).aim? key = some key')
    (v : Json) (rest : List Key) :
    writeIn v (key' :: rest) (d.coerceRoot key) = writeIn v (key' :: rest) d := by
  unfold coerceRoot at h ⊢
  split
  · rename_i hscalar
    rw [if_pos hscalar] at h
    have hcontainer : key'.container = key.container := by
      cases key <;> cases h <;> rfl
    rw [← hcontainer]
    exact writeIn_empty hscalar v key' rest
  · rfl

/-! ### Putting -/

/-- A key that was put has the value. -/
theorem childWith?_put {d : Json} {key : Key} (h : d.kind = key.container) (v : Json) :
    childWith? (d.put key v) key = some v := by
  cases d with
  | scalar s => cases key <;> cases h
  | object entries =>
    cases key with
    | index i => cases h
    | name k => exact Entries.get?_insert_self entries k v
  | array items =>
    cases key with
    | name k => cases h
    | index i =>
      simp only [put, childWith?]
      split
      · rw [List.getElem?_set_self ‹_›]
      · rename_i hlt
        rw [← List.append_assoc, List.getElem?_append_right]
        · simp [Nat.not_lt.1 hlt]
        · simp [Nat.not_lt.1 hlt]

theorem insert_insert (entries : Entries) (k : String) (v w : Json) :
    (entries.insert k v).insert k w = entries.insert k w := by
  induction entries with
  | nil => simp [Entries.insert]
  | cons entry rest ih => by_cases h : entry.1 = k <;> simp [Entries.insert, h, ih]

/-- Of two values put under one key the later one stays. -/
theorem put_put (d : Json) (key : Key) (v w : Json) : (d.put key v).put key w = d.put key w := by
  cases d with
  | scalar s => rfl
  | object entries =>
    cases key with
    | index i => rfl
    | name k => exact congrArg object (insert_insert entries k v w)
  | array items =>
    cases key with
    | name k => rfl
    | index i =>
      by_cases hlt : i < items.length
      · simp [put, hlt]
      · have hlength : (items ++ List.replicate (i - items.length) null).length = i := by
          rw [List.length_append, List.length_replicate]
          omega
        have hset : ∀ w, ((items ++ List.replicate (i - items.length) null) ++ [v]).set i w =
            (items ++ List.replicate (i - items.length) null) ++ [w] := fun w ↦ by
          rw [List.set_append_right _ _ (by omega), hlength, Nat.sub_self]
          rfl
        simp only [put, if_neg hlt, ← List.append_assoc, hset]
        rw [if_pos]
        rw [List.length_append, hlength]
        simp

@[simp] theorem kind_put (d : Json) (key : Key) (v : Json) : (d.put key v).kind = d.kind := by
  cases d <;> cases key <;> rfl

/-! ### Where a bridge lands -/

instance : DecidablePred Key.InRange
  | .name _ => inferInstanceAs (Decidable True)
  | .index i => inferInstanceAs (Decidable (i < 0x8000000000000000))

/-- The position of an array that a name is equivalent to. -/
def equivalent? (d : Json) (key : Key) : Option Nat :=
  match d, key with
  | .array items, .name k =>
    (List.range items.length).find? fun i ↦ normalName k = Key.indexText i
  | _, _ => none

/-- The key of a container that a bridge takes a key for. -/
def land? (d : Json) (key : Key) : Option Key :=
  match d.aim? key with
  | some key => if key.InRange then some key else none
  | none => (d.equivalent? key).map Key.index

/-- A bridge lands at a key that aims, if positions can be so great, and else at the position that
the key is equivalent to. -/
theorem land?_eq_some {d : Json} {key key' : Key} :
    d.land? key = some key' ↔ d.aim? key = some key' ∧ key'.InRange ∨
      d.aim? key = none ∧ ∃ i, d.equivalent? key = some i ∧ .index i = key' := by
  rw [land?]
  cases d.aim? key with
  | none => simp
  | some aimed =>
    by_cases h : aimed.InRange
    · simp only [if_pos h, Option.some.injEq, reduceCtorEq, false_and, or_false]
      exact ⟨fun heq ↦ ⟨heq, heq ▸ h⟩, And.left⟩
    · simp only [if_neg h, reduceCtorEq, Option.some.injEq, false_and, or_false, false_iff]
      rintro ⟨rfl, hrange⟩
      exact h hrange

theorem kind_of_equivalent? {d : Json} {key : Key} {i : Nat} (h : d.equivalent? key = some i) :
    d.kind = .sequence := by
  cases d <;> cases key <;> first | rfl | cases h

theorem kind_of_land? {d : Json} {key key' : Key} (h : d.land? key = some key') :
    d.kind = key'.container := by
  obtain ⟨haim, -⟩ | ⟨-, i, hi, rfl⟩ := land?_eq_some.1 h
  · exact kind_of_aim? haim
  · exact kind_of_equivalent? hi

/-- A key of a container's own sort lands where it is. -/
theorem land?_of_kind {d : Json} {key : Key} (h : d.kind = key.container) (hrange : key.InRange) :
    d.land? key = some key :=
  land?_eq_some.2 (.inl ⟨aim?_of_kind h, hrange⟩)

/-- The keys at which a bridge writes into a document, if it writes at all. -/
def landing? (d : Json) : List Key → Option (List Key)
  | [] => some []
  | key :: rest => ((d.coerceRoot key).land? key).map (· :: rest)

/-- The first key is a name that spells no place of an array, but is equivalent to one of its
positions. -/
def Aliased (d : Json) (keys : List Key) (i : Nat) : Prop :=
  ∃ items k rest, d = .array items ∧ keys = .name k :: rest ∧ Text.place? k.toList = none ∧
    i < items.length ∧ normalName k = Key.indexText i

/-- The first key is a name that spells a place which no array can have. -/
def Beyond (d : Json) (keys : List Key) : Prop :=
  ∃ items k rest n, d = .array items ∧ keys = .name k :: rest ∧
    Text.place? k.toList = some n ∧ 0x8000000000000000 ≤ n

/-- A bridge does not take the first key as a write does. -/
def Misread (d : Json) (keys : List Key) : Prop :=
  (∃ i, d.Aliased keys i) ∨ d.Beyond keys

variable {d : Json} {keys : List Key}

theorem equivalent?_eq_some {items : List Json} {k : String} {i : Nat} :
    (array items).equivalent? (.name k) = some i ↔
      i < items.length ∧ normalName k = Key.indexText i := by
  constructor
  · intro h
    have hmem := List.mem_of_find?_eq_some h
    have hk := List.find?_some h
    exact ⟨List.mem_range.1 hmem, by simpa using hk⟩
  · rintro ⟨hlt, hk⟩
    cases h : (array items).equivalent? (.name k) with
    | none =>
      have hnone := List.find?_eq_none.1 h i (List.mem_range.2 hlt)
      exact absurd hk (by simpa using hnone)
    | some j =>
      have hj := List.find?_some h
      have hj' : normalName k = Key.indexText j := by simpa using hj
      rw [Key.indexText_injective (hj'.symm.trans hk)]

/-- There is an item at a position that a key is equivalent to. -/
theorem exists_childWith?_of_equivalent? {key : Key} {i : Nat} (h : d.equivalent? key = some i) :
    ∃ c, childWith? d (.index i) = some c := by
  cases d with
  | scalar s => cases key <;> cases h
  | object entries => cases key <;> cases h
  | array items =>
    cases key with
    | index k => cases h
    | name k => exact ⟨_, List.getElem?_eq_getElem (equivalent?_eq_some.1 h).1⟩

/-- A bridge writes right at keys of which the first one suits the root. -/
theorem landing?_of_suits {key : Key} (h : d.kind = .scalar ∨ d.kind = key.container)
    (hrange : key.InRange) (rest : List Key) : d.landing? (key :: rest) = some (key :: rest) := by
  have hkind : (d.coerceRoot key).kind = key.container := by
    unfold coerceRoot
    split
    · exact kind_empty_container key
    · exact h.resolve_left ‹_›
  rw [landing?, land?_of_kind hkind hrange, Option.map_some]

/-- Only at an array a bridge may land nowhere. -/
theorem exists_landing? (h : d.kind ≠ .sequence) (hrange : ∀ key ∈ keys, key.InRange) :
    ∃ landed, d.landing? keys = some landed := by
  cases keys with
  | nil => exact ⟨[], rfl⟩
  | cons key rest =>
    cases d with
    | scalar s =>
      exact ⟨key :: rest, landing?_of_suits (.inl rfl) (hrange key (List.mem_cons_self ..)) rest⟩
    | array items => exact absurd rfl h
    | object entries =>
      have hland : (object entries).land? key = some (.name key.text) :=
        land?_eq_some.2 (.inl ⟨rfl, trivial⟩)
      exact ⟨.name key.text :: rest, congrArg (Option.map (· :: rest)) hland⟩

theorem landing?_of_aliased {i : Nat} (h : d.Aliased keys i) :
    d.landing? keys = some (.index i :: keys.tail) := by
  obtain ⟨items, k, rest, rfl, rfl, hplace, hlt, hk⟩ := h
  have haim : (array items).aim? (.name k) = none := by simp [aim?, hplace]
  have hroot : (array items).coerceRoot (.name k) = array items := rfl
  rw [landing?, hroot, land?, haim]
  simp only [equivalent?_eq_some.2 ⟨hlt, hk⟩, Option.map_some, List.tail_cons]

theorem landing?_of_beyond (h : d.Beyond keys) : d.landing? keys = none := by
  obtain ⟨items, k, rest, n, rfl, rfl, hplace, hn⟩ := h
  have haim : (array items).aim? (.name k) = some (.index n) := by simp [aim?, hplace]
  have hroot : (array items).coerceRoot (.name k) = array items := rfl
  have hrange : ¬ (Key.index n).InRange := Nat.not_lt.2 hn
  rw [landing?, hroot, land?, haim]
  simp only [if_neg hrange, Option.map_none]

/-- Unless the first key is misread, a bridge writes where a write does. -/
theorem write_eq_of_not_misread (h : ¬ d.Misread keys) (hrange : ∀ key ∈ keys, key.InRange)
    (v : Json) :
    d.write keys v =
      match d.landing? keys with
      | some keys' => writeIn v keys' d
      | none => d := by
  cases keys with
  | nil => rfl
  | cons key rest =>
    rw [write, landing?, land?]
    cases haim : (d.coerceRoot key).aim? key with
    | some key' =>
      by_cases hkey : key'.InRange
      · simp only [if_pos hkey, Option.map_some]
        exact writeIn_coerceRoot haim v rest
      · -- only a name at an array can aim beyond the positions of a word
        refine absurd (.inr ?_) h
        have hkey' := hrange key (List.mem_cons_self ..)
        cases key' with
        | name k => exact absurd trivial hkey
        | index n =>
          cases key with
          | index i =>
            cases hd : d.coerceRoot (.index i) with
            | scalar s => rw [hd] at haim; cases haim
            | array items => rw [hd] at haim; cases haim; exact absurd hkey' hkey
            | object entries => rw [hd] at haim; cases haim
          | name k =>
            cases d with
            | scalar s => cases haim
            | object entries => cases haim
            | array items =>
              obtain ⟨n', hplace, hn⟩ := Option.map_eq_some_iff.1 haim
              obtain rfl : n' = n := Key.index.inj hn
              exact ⟨items, k, rest, n', rfl, rfl, hplace, Nat.not_lt.1 hkey⟩
    | none =>
      cases hequiv : (d.coerceRoot key).equivalent? key with
      | none => rfl
      | some i =>
        -- only a name at an array can be equivalent to a position without aiming at it
        refine absurd (.inl ⟨i, ?_⟩) h
        cases key with
        | index k =>
          cases hd : d.coerceRoot (.index k) <;> rw [hd] at hequiv <;> cases hequiv
        | name k =>
          cases d with
          | scalar s => cases hequiv
          | object entries => cases hequiv
          | array items =>
            obtain ⟨hlt, hk⟩ := equivalent?_eq_some.1 hequiv
            exact ⟨items, k, rest, rfl, rfl, Option.map_eq_none_iff.1 haim, hlt, hk⟩

/-! ### Positions -/

/-- Whether a write at keys goes on inside a value that it comes to: the value is the container that
the next key needs. -/
def Kept (rest : List Key) (c : Json) : Prop :=
  rest.head?.map Key.container = some c.kind

/-- The positions that a write at keys has nothing to do with: they leave its way at a container
that the write keeps. -/
inductive Spared : Json → List Key → List Key → Prop
  | aside (d : Json) {key other : Key} (h : other ≠ key) (rest position : List Key) :
    Spared d (key :: rest) (other :: position)
  | inside {d c : Json} {key : Key} {rest position : List Key} (hc : childWith? d key = some c)
    (hkept : Kept rest c) (h : Spared c rest position) : Spared d (key :: rest) (key :: position)

/-- The positions that a write at keys comes to by way of containers that it keeps. -/
inductive Reached : Json → List Key → List Key → Prop
  | here (d : Json) (keys : List Key) : Reached d keys []
  | child (d : Json) (key : Key) (rest : List Key) : Reached d (key :: rest) [key]
  | inside {d c : Json} {key : Key} {rest position : List Key} (hc : childWith? d key = some c)
    (hkept : Kept rest c) (h : Reached c rest position) : Reached d (key :: rest) (key :: position)

end Json

end DocPath

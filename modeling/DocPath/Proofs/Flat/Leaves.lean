import DocPath.Flat
import DocPath.Proofs.Json.Write

/-!
# The leaves of a value

The leaves of a value, each with the keys that lead to it, are all there is to the value: written
one after the other, from null on, they make it again (`writeAll_leaves`). For a container this is
shown from one child to the next: writes that all begin with one key make one write at that key
(`writeAll_map_under`), and the leaves of a child thus put the child at its key.

The keys of different leaves are different (`nodup_leaves`), which is where the keys of objects have
to be.
-/

namespace DocPath

open Operation (childWith?)

namespace Json

mutual

/-- No array in the value has more items than there are positions in a word. -/
def Addressable : Json → Prop
  | scalar _ => True
  | array items => items.length ≤ 0x8000000000000000 ∧ AddressableItems items
  | object entries => AddressableEntries entries

def AddressableItems : List Json → Prop
  | [] => True
  | v :: rest => v.Addressable ∧ AddressableItems rest

def AddressableEntries : List (String × Json) → Prop
  | [] => True
  | (_, v) :: rest => v.Addressable ∧ AddressableEntries rest

end

@[simp] theorem addressable_scalar (s : Scalar) : (scalar s).Addressable := trivial

@[simp] theorem addressable_array {items : List Json} :
    (array items).Addressable ↔ items.length ≤ 0x8000000000000000 ∧ ∀ v ∈ items, v.Addressable := by
  have hitems : AddressableItems items ↔ ∀ v ∈ items, v.Addressable := by
    induction items with
    | nil => simp [AddressableItems]
    | cons v rest ih => simp [AddressableItems, ih]
  rw [Addressable, hitems]

@[simp] theorem addressable_object {entries : List (String × Json)} :
    (object entries).Addressable ↔ ∀ entry ∈ entries, entry.2.Addressable := by
  rw [Addressable]
  induction entries with
  | nil => simp [AddressableEntries]
  | cons entry rest ih => simp [AddressableEntries, ih]

/-- Writes several values into a document, one after the other. -/
def writeAll (d : Json) (leaves : List (List Key × Json)) : Json :=
  leaves.foldl (fun d leaf ↦ writeIn leaf.2 leaf.1 d) d

theorem writeAll_append (d : Json) (leaves others : List (List Key × Json)) :
    d.writeAll (leaves ++ others) = (d.writeAll leaves).writeAll others :=
  List.foldl_append

theorem writeAll_cons (d : Json) (leaf : List Key × Json) (rest : List (List Key × Json)) :
    d.writeAll (leaf :: rest) = (writeIn leaf.2 leaf.1 d).writeAll rest :=
  rfl

/-- Puts a key before the keys of a leaf. -/
def under (key : Key) (leaf : List Key × Json) : List Key × Json :=
  (key :: leaf.1, leaf.2)

/-- Writes that all begin with one key are one write at that key. -/
theorem writeAll_map_under {d : Json} {key : Key} (h : d.kind = key.container)
    {leaves : List (List Key × Json)} (hne : leaves ≠ []) :
    d.writeAll (leaves.map (under key)) =
      d.put key (((childWith? d key).getD null).writeAll leaves) := by
  induction leaves generalizing d with
  | nil => exact absurd rfl hne
  | cons leaf rest ih =>
    rw [List.map_cons, writeAll_cons, writeAll_cons, under, writeIn_cons_of_kind h]
    cases rest with
    | nil => rfl
    | cons next rest =>
      have hput : (d.put key (writeIn leaf.2 leaf.1 ((childWith? d key).getD null))).kind =
          key.container := (kind_put d key _).trans h
      rw [ih hput (by simp), childWith?_put h, Option.getD_some, put_put]

/-- The first of several writes fits the document by itself. -/
theorem writeAll_fit (d : Json) {key : Key} {leaf : List Key × Json}
    (hleaf : leaf.1.head? = some key) (rest : List (List Key × Json)) :
    (d.fit key.container).writeAll (leaf :: rest) = d.writeAll (leaf :: rest) := by
  obtain ⟨keys, v⟩ := leaf
  cases keys with
  | nil => cases hleaf
  | cons k keys =>
    obtain rfl := Option.some.inj hleaf
    rw [writeAll_cons, writeAll_cons, writeIn_fit]

end Json

namespace Flat

open Json (under writeIn)

theorem leavesOfItems_cons (position : Nat) (v : Json) (rest : List Json) :
    leavesOfItems position (v :: rest) =
      (leaves v).map (under (.index position)) ++ leavesOfItems (position + 1) rest :=
  rfl

theorem leavesOfEntries_cons (k : String) (v : Json) (rest : List (String × Json)) :
    leavesOfEntries ((k, v) :: rest) = (leaves v).map (under (.name k)) ++ leavesOfEntries rest :=
  rfl

/-- Every value has a leaf. -/
theorem leaves_ne_nil : (v : Json) → leaves v ≠ []
  | .scalar _ => by simp [leaves]
  | .array [] => by simp [leaves]
  | .array (v :: _) => by simp [leaves, leavesOfItems, leaves_ne_nil v]
  | .object [] => by simp [leaves]
  | .object ((_, v) :: _) => by simp [leaves, leavesOfEntries, leaves_ne_nil v]

/-- The leaves of a child under its key, and more leaves, begin with the key. -/
theorem exists_head_under (key : Key) (v : Json) (others : List (List Key × Json)) :
    ∃ leaf rest, (leaves v).map (under key) ++ others = leaf :: rest ∧
      leaf.1.head? = some key := by
  obtain ⟨leaf, rest, h⟩ := List.exists_cons_of_ne_nil (leaves_ne_nil v)
  exact ⟨under key leaf, rest.map (under key) ++ others, by rw [h]; rfl, rfl⟩

/-! ### Writing the leaves -/

mutual

/-- The leaves of a value make it again. -/
theorem writeAll_leaves : (v : Json) → v.Distinct → Json.null.writeAll (leaves v) = v
  | .scalar _, _ => rfl
  | .array [], _ => rfl
  | .object [], _ => rfl
  | .array (v :: rest), h => by
    -- the first leaf makes the empty array, so all of them may as well begin with it
    obtain ⟨leaf, others, hleaves, hhead⟩ :=
      exists_head_under (.index 0) v (leavesOfItems 1 rest)
    have hitems := writeAll_leavesOfItems [] (v :: rest) (Json.distinct_array.1 h)
    rw [leaves, leavesOfItems_cons, hleaves, ← Json.writeAll_fit _ hhead, ← hleaves]
    exact hitems
  | .object ((k, v) :: rest), h => by
    obtain ⟨leaf, others, hleaves, hhead⟩ :=
      exists_head_under (.name k) v (leavesOfEntries rest)
    have hentries := writeAll_leavesOfEntries [] ((k, v) :: rest) (Json.distinct_object.1 h).1
      (Json.distinct_object.1 h).2
    rw [leaves, leavesOfEntries_cons, hleaves, ← Json.writeAll_fit _ hhead, ← hleaves]
    exact hentries

/-- The leaves of items put them at the end of an array. -/
theorem writeAll_leavesOfItems (done : List Json) :
    (items : List Json) → (∀ v ∈ items, v.Distinct) →
      (Json.array done).writeAll (leavesOfItems done.length items) = .array (done ++ items)
  | [], _ => by rw [List.append_nil]; rfl
  | v :: rest, h => by
    have hold : childWith? (.array done) (.index done.length) = none := by simp [childWith?]
    have hput : (Json.array done).put (.index done.length) v = .array (done ++ [v]) := by
      simp [Json.put]
    have hrest := writeAll_leavesOfItems (done ++ [v]) rest fun w hw ↦
      h w (List.mem_cons_of_mem v hw)
    rw [List.length_append, List.length_singleton, List.append_assoc] at hrest
    have hfirst : (Json.array done).kind = (Key.index done.length).container := rfl
    rw [leavesOfItems_cons, Json.writeAll_append, Json.writeAll_map_under hfirst (leaves_ne_nil v),
      hold, Option.getD_none, writeAll_leaves v (h v (List.mem_cons_self ..)), hput]
    exact hrest

/-- The leaves of entries with new names put them at the end of an object. -/
theorem writeAll_leavesOfEntries (done : List (String × Json)) :
    (entries : List (String × Json)) → ((done ++ entries).map Prod.fst).Nodup →
      (∀ entry ∈ entries, entry.2.Distinct) →
      (Json.object done).writeAll (leavesOfEntries entries) = .object (done ++ entries)
  | [], _, _ => by rw [List.append_nil]; rfl
  | (k, v) :: rest, hnodup, h => by
    -- a name that was there would be written in its old place
    have hk : k ∉ done.map Prod.fst := by
      rw [List.map_append, List.map_cons] at hnodup
      exact fun hmem ↦ (List.nodup_append.1 hnodup).2.2 k hmem k (List.mem_cons_self ..) rfl
    have hold : childWith? (.object done) (.name k) = none :=
      Entries.get?_eq_none hk
    have hput : (Json.object done).put (.name k) v = .object (done ++ [(k, v)]) :=
      congrArg Json.object (Entries.insert_of_notMem hk)
    have hrest := writeAll_leavesOfEntries (done ++ [(k, v)]) rest
      (by rwa [List.append_assoc]) fun entry he ↦ h entry (List.mem_cons_of_mem _ he)
    rw [List.append_assoc] at hrest
    have hfirst : (Json.object done).kind = (Key.name k).container := rfl
    rw [leavesOfEntries_cons, Json.writeAll_append,
      Json.writeAll_map_under hfirst (leaves_ne_nil v), hold, Option.getD_none,
      writeAll_leaves v (h (k, v) (List.mem_cons_self ..)), hput]
    exact hrest

end

/-! ### What leaves are -/

theorem mem_leavesOfItems {leaf : List Key × Json} {position : Nat} {items : List Json}
    (h : leaf ∈ leavesOfItems position items) :
    ∃ i < items.length, ∃ v ∈ items, ∃ l ∈ leaves v, leaf = under (.index (position + i)) l := by
  induction items generalizing position with
  | nil => cases h
  | cons v rest ih =>
    rw [leavesOfItems_cons, List.mem_append, List.mem_map] at h
    rcases h with ⟨l, hl, rfl⟩ | h
    · exact ⟨0, by simp, v, by simp, l, hl, rfl⟩
    · obtain ⟨i, hi, w, hw, l, hl, rfl⟩ := ih h
      refine ⟨i + 1, by simpa using hi, w, List.mem_cons_of_mem v hw, l, hl, ?_⟩
      rw [Nat.add_right_comm, Nat.add_assoc]

theorem mem_leavesOfEntries {leaf : List Key × Json} {entries : List (String × Json)}
    (h : leaf ∈ leavesOfEntries entries) :
    ∃ entry ∈ entries, ∃ l ∈ leaves entry.2, leaf = under (.name entry.1) l := by
  induction entries with
  | nil => cases h
  | cons entry rest ih =>
    obtain ⟨k, v⟩ := entry
    rw [leavesOfEntries_cons, List.mem_append, List.mem_map] at h
    rcases h with ⟨l, hl, rfl⟩ | h
    · exact ⟨(k, v), by simp, l, hl, rfl⟩
    · obtain ⟨entry, he, l, hl, rfl⟩ := ih h
      exact ⟨entry, List.mem_cons_of_mem _ he, l, hl, rfl⟩

/-- What holds of every leaf: it holds of values that are their only leaf, and it passes from the
leaves of items and of entries to those of arrays and of objects. -/
theorem forall_leaves {p : Json → List Key × Json → Prop}
    (whole : ∀ v, v.Distinct → p v ([], v))
    (item : ∀ {items : List Json} {i : Nat} {v : Json} {l : List Key × Json}, i < items.length →
      v ∈ items → p v l → p (.array items) (under (.index i) l))
    (entry : ∀ {entries : List (String × Json)} {e : String × Json} {l : List Key × Json},
      e ∈ entries → p e.2 l → p (.object entries) (under (.name e.1) l))
    (v : Json) : ∀ leaf ∈ leaves v, p v leaf := by
  induction v using Json.induction_parts with
  | scalar s =>
    intro leaf hleaf
    obtain rfl : leaf = ([], .scalar s) := by simpa [leaves] using hleaf
    exact whole _ (Json.distinct_scalar s)
  | array items ih =>
    intro leaf hleaf
    cases items with
    | nil =>
      obtain rfl : leaf = ([], .array []) := by simpa [leaves] using hleaf
      exact whole _ (by simp)
    | cons v rest =>
      rw [leaves] at hleaf
      obtain ⟨i, hi, w, hw, l, hl, rfl⟩ := mem_leavesOfItems hleaf
      rw [Nat.zero_add]
      exact item hi hw (ih w hw l hl)
  | object entries ih =>
    intro leaf hleaf
    cases entries with
    | nil =>
      obtain rfl : leaf = ([], .object []) := by simpa [leaves] using hleaf
      exact whole _ (by simp)
    | cons e rest =>
      rw [leaves] at hleaf
      obtain ⟨e', he, l, hl, rfl⟩ := mem_leavesOfEntries hleaf
      exact entry he (ih e' he l hl)

/-- The value of a leaf has no keys, so they are distinct. -/
theorem distinct_of_mem_leaves (v : Json) : ∀ leaf ∈ leaves v, leaf.2.Distinct :=
  forall_leaves (p := fun _ leaf ↦ leaf.2.Distinct) (fun _ h ↦ h) (fun _ _ h ↦ h) (fun _ h ↦ h) v

/-- The positions that lead to the leaves of an addressable value are in range. -/
theorem inRange_of_mem_leaves {v : Json} (h : v.Addressable) :
    ∀ leaf ∈ leaves v, ∀ key ∈ leaf.1, key.InRange := by
  refine fun leaf hleaf ↦ forall_leaves
    (p := fun v leaf ↦ v.Addressable → ∀ key ∈ leaf.1, key.InRange) ?_ ?_ ?_ v leaf hleaf h
  · exact fun v _ _ key hkey ↦ by cases hkey
  · intro items i v l hi hv ih h key hkey
    rw [Json.addressable_array] at h
    rcases List.mem_cons.1 hkey with rfl | hkey
    · exact Nat.lt_of_lt_of_le hi h.1
    · exact ih (h.2 v hv) key hkey
  · intro entries e l he ih h key hkey
    rw [Json.addressable_object] at h
    rcases List.mem_cons.1 hkey with rfl | hkey
    · trivial
    · exact ih (h e he) key hkey

/-- The first key to a leaf suits the value. -/
theorem head?_of_mem_leaves (v : Json) :
    ∀ leaf ∈ leaves v, ∀ key ∈ leaf.1.head?, v.kind = key.container := by
  refine forall_leaves (p := fun v leaf ↦ ∀ key ∈ leaf.1.head?, v.kind = key.container) ?_ ?_ ?_ v
  · exact fun v _ key hkey ↦ by cases hkey
  · rintro items i v l - - - key ⟨⟩
    rfl
  · rintro entries e l - - key ⟨⟩
    rfl

/-- A value that is a leaf of its own has no other kind. -/
theorem kind_of_mem_leaves (v : Json) : ∀ leaf ∈ leaves v, leaf.1 = [] → leaf.2.kind = v.kind := by
  refine forall_leaves (p := fun v leaf ↦ leaf.1 = [] → leaf.2.kind = v.kind) ?_ ?_ ?_ v
  · exact fun v _ _ ↦ rfl
  · rintro items i v l - - - ⟨⟩
  · rintro entries e l - - ⟨⟩

/-- Writing a leaf of a value makes a document of the kind of the value. -/
theorem kind_writeIn_of_mem_leaves {v : Json} {leaf : List Key × Json} (h : leaf ∈ leaves v)
    (d : Json) : (writeIn leaf.2 leaf.1 d).kind = v.kind := by
  obtain ⟨keys, w⟩ := leaf
  cases keys with
  | nil => exact kind_of_mem_leaves v _ h rfl
  | cons key rest =>
    rw [writeIn, Json.kind_put, Json.kind_fit]
    exact (head?_of_mem_leaves v _ h key rfl).symm

/-! ### The keys of leaves -/

theorem nodup_map_under {key : Key} {leaves : List (List Key × Json)}
    (h : (leaves.map Prod.fst).Nodup) : ((leaves.map (under key)).map Prod.fst).Nodup := by
  have heq : (leaves.map (under key)).map Prod.fst = (leaves.map Prod.fst).map (key :: ·) := by
    simp [under]
  rw [heq]
  exact h.map (List.cons_injective)

theorem nodup_leavesOfItems {items : List Json} (position : Nat)
    (h : ∀ v ∈ items, ((leaves v).map Prod.fst).Nodup) :
    ((leavesOfItems position items).map Prod.fst).Nodup := by
  induction items generalizing position with
  | nil => exact List.nodup_nil
  | cons v rest ih =>
    rw [leavesOfItems_cons, List.map_append]
    refine (nodup_map_under (h v (List.mem_cons_self ..))).append
      (ih _ fun w hw ↦ h w (List.mem_cons_of_mem v hw)) ?_
    intro keys hkeys hrest
    obtain ⟨leaf, hleaf, rfl⟩ := List.mem_map.1 hkeys
    obtain ⟨l, -, rfl⟩ := List.mem_map.1 hleaf
    obtain ⟨leaf', hleaf', heq⟩ := List.mem_map.1 hrest
    obtain ⟨i, -, w, -, l', -, rfl⟩ := mem_leavesOfItems hleaf'
    have hposition : position + 1 + i = position := Key.index.inj (List.cons.inj heq).1
    omega

theorem nodup_leavesOfEntries {entries : List (String × Json)}
    (hnodup : (entries.map Prod.fst).Nodup)
    (h : ∀ entry ∈ entries, ((leaves entry.2).map Prod.fst).Nodup) :
    ((leavesOfEntries entries).map Prod.fst).Nodup := by
  induction entries with
  | nil => exact List.nodup_nil
  | cons entry rest ih =>
    obtain ⟨k, v⟩ := entry
    rw [List.map_cons, List.nodup_cons] at hnodup
    rw [leavesOfEntries_cons, List.map_append]
    refine (nodup_map_under (h (k, v) (List.mem_cons_self ..))).append
      (ih hnodup.2 fun entry he ↦ h entry (List.mem_cons_of_mem _ he)) ?_
    intro keys hkeys hrest
    obtain ⟨leaf, hleaf, rfl⟩ := List.mem_map.1 hkeys
    obtain ⟨l, -, rfl⟩ := List.mem_map.1 hleaf
    obtain ⟨leaf', hleaf', heq⟩ := List.mem_map.1 hrest
    obtain ⟨entry, he, l', -, rfl⟩ := mem_leavesOfEntries hleaf'
    have hk : entry.1 = k := Key.name.inj (List.cons.inj heq).1
    exact hnodup.1 (List.mem_map.2 ⟨entry, he, hk⟩)

/-- Different leaves are at different keys. -/
theorem nodup_leaves {v : Json} (h : v.Distinct) : ((leaves v).map Prod.fst).Nodup := by
  induction v using Json.induction_parts with
  | scalar s => simp [leaves]
  | array items ih =>
    rw [Json.distinct_array] at h
    cases items with
    | nil => simp [leaves]
    | cons v rest => exact nodup_leavesOfItems 0 fun w hw ↦ ih w hw (h w hw)
  | object entries ih =>
    rw [Json.distinct_object] at h
    cases entries with
    | nil => simp [leaves]
    | cons entry rest => exact nodup_leavesOfEntries h.1 fun e he ↦ ih e he (h.2 e he)

end Flat

end DocPath

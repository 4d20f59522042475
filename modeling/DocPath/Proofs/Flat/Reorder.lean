import DocPath.Proofs.Flat.Roundtrip
import DocPath.Proofs.Json.Position
import Mathlib.Data.List.Perm.Basic

/-!
# Flat documents in another order

The entries of the flat document of a value may be expanded in any order: what comes out is the
value again, up to the order of the entries of its objects (`expand_perm`).

Written out of order, the leaves of a child are scattered among those of its siblings, and an array
is filled up with nulls before its items come. But a write below one key of a container does not
touch what is at the others, and a null that fills an array is what a write begins with anyway. So
at every key there is in the end what the leaves below that key (`Json.beneath`) make by themselves,
from null on and in their own order (`Json.getD_childWith?_writeAll`). Which keys there are is a
matter of which leaves there are: every child has a leaf, and no leaf is below any other key.

`Json.Alike` is equality up to the order of entries. It is finer than `Json.same`, which does not
tell a zero from a negative zero.
-/

namespace DocPath

open Operation (childWith?)

namespace Json

/-- Values that differ at most in the order of the entries of objects. -/
inductive Alike : Json → Json → Prop
  | scalar (s : Scalar) : Alike (.scalar s) (.scalar s)
  | array {items others : List Json} (hlength : items.length = others.length)
    (h : ∀ (i : Nat) (v w : Json), items[i]? = some v → others[i]? = some w → Alike v w) :
    Alike (.array items) (.array others)
  | object {entries others : Entries}
    (hnames : (entries.map Prod.fst).Perm (others.map Prod.fst))
    (h : ∀ (k : String) (v w : Json), entries.get? k = some v → others.get? k = some w →
      Alike v w) :
    Alike (.object entries) (.object others)

variable {d v w : Json} {key other : Key} {leaves others : List (List Key × Json)}
  {leaf : List Key × Json}

/-! ### The leaves below a key -/

/-- What is left of a leaf below a key. -/
def below? (key : Key) : List Key × Json → Option (List Key × Json)
  | ([], _) => none
  | (first :: rest, v) => if first = key then some (rest, v) else none

/-- The leaves below a key, in their order. -/
def beneath (key : Key) (leaves : List (List Key × Json)) : List (List Key × Json) :=
  leaves.filterMap (below? key)

@[simp] theorem below?_under (key : Key) (leaf : List Key × Json) :
    below? key (under key leaf) = some leaf := by
  simp [below?, under]

theorem below?_under_of_ne (hne : other ≠ key) (leaf : List Key × Json) :
    below? key (under other leaf) = none := by
  simp [below?, under, hne]

theorem beneath_append (key : Key) (leaves others : List (List Key × Json)) :
    beneath key (leaves ++ others) = beneath key leaves ++ beneath key others :=
  List.filterMap_append

theorem beneath_cons_under (key : Key) (leaf : List Key × Json)
    (rest : List (List Key × Json)) :
    beneath key (under key leaf :: rest) = leaf :: beneath key rest :=
  List.filterMap_cons_some (below?_under key leaf)

theorem beneath_cons_under_of_ne (hne : other ≠ key) (leaf : List Key × Json)
    (rest : List (List Key × Json)) :
    beneath key (under other leaf :: rest) = beneath key rest :=
  List.filterMap_cons_none (below?_under_of_ne hne leaf)

@[simp] theorem beneath_map_under (key : Key) (leaves : List (List Key × Json)) :
    beneath key (leaves.map (under key)) = leaves := by
  induction leaves with
  | nil => rfl
  | cons leaf rest ih => rw [List.map_cons, beneath_cons_under, ih]

theorem beneath_eq_nil (h : ∀ leaf ∈ leaves, ∃ other l, leaf = under other l ∧ other ≠ key) :
    beneath key leaves = [] := by
  refine List.filterMap_eq_nil_iff.2 fun leaf hleaf ↦ ?_
  obtain ⟨other, l, rfl, hne⟩ := h leaf hleaf
  exact below?_under_of_ne hne l

theorem beneath_map_under_of_ne (hne : other ≠ key) (leaves : List (List Key × Json)) :
    beneath key (leaves.map (under other)) = [] :=
  beneath_eq_nil fun leaf hleaf ↦ by
    obtain ⟨l, -, rfl⟩ := List.mem_map.1 hleaf
    exact ⟨other, l, rfl, hne⟩

/-! ### Writing out of order -/

/-- Below another key a write leaves things as they are, where null and nothing are the same. -/
theorem getD_childWith?_put_of_ne (hne : other ≠ key) (d v : Json) :
    (childWith? (d.put key v) other).getD null = (childWith? d other).getD null := by
  cases hold : childWith? d other with
  | some c => rw [childWith?_put_of_ne hne hold]
  | none =>
    cases d with
    | scalar s => cases key <;> cases other <;> rfl
    | object entries =>
      cases other with
      | index i => cases key <;> rfl
      | name k =>
        cases key with
        | index i => exact congrArg (Option.getD · null) hold
        | name k' =>
          have hne' : k' ≠ k := fun heq ↦ hne (heq ▸ rfl)
          have hget := (Entries.get?_insert_of_ne entries v hne').trans hold
          exact congrArg (Option.getD · null) hget
    | array items =>
      cases other with
      | name k => cases key <;> rfl
      | index i =>
        cases key with
        | name k => exact congrArg (Option.getD · null) hold
        | index i' =>
          have hne' : i' ≠ i := fun heq ↦ hne (heq ▸ rfl)
          have hi : items.length ≤ i := List.getElem?_eq_none_iff.1 hold
          simp only [put, childWith?]
          split
          · rw [List.getElem?_set_ne hne', List.getElem?_eq_none hi]
          · -- beyond the old end there are the nulls, the new item, and nothing more
            rw [List.getElem?_append_right hi]
            rcases Nat.lt_or_gt_of_ne hne' with hlt | hlt
            · rw [List.getElem?_eq_none]
              rw [List.length_append, List.length_replicate, List.length_singleton]
              omega
            · rw [List.getElem?_append_left (by rw [List.length_replicate]; omega),
                List.getElem?_replicate_of_lt (by omega)]
              rfl

/-- The leaves all begin with keys of the sort that a value has. -/
def Suited (d : Json) (leaves : List (List Key × Json)) : Prop :=
  ∀ leaf ∈ leaves, ∃ key l, leaf = under key l ∧ d.kind = key.container

theorem Suited.of_kind (h : d.Suited leaves) (hkind : w.kind = d.kind) : w.Suited leaves := by
  rwa [Suited, hkind]

theorem Suited.cons (h : d.Suited (leaf :: leaves)) :
    ∃ key l, leaf = under key l ∧ d.kind = key.container ∧ d.Suited leaves := by
  obtain ⟨⟨key, l, hleaf, hkind⟩, hrest⟩ := List.forall_mem_cons.1 h
  exact ⟨key, l, hleaf, hkind, hrest⟩

/-- The first of several writes that suit a container puts something at its key. -/
theorem writeAll_cons_under (hkind : d.kind = key.container) (leaf : List Key × Json)
    (rest : List (List Key × Json)) :
    d.writeAll (under key leaf :: rest) =
      (d.put key (writeIn leaf.2 leaf.1 ((childWith? d key).getD null))).writeAll rest := by
  rw [writeAll_cons, under, writeIn_cons_of_kind hkind]

/-- Writes below the keys of a container, in any order: at each key there is what the leaves below
it make of what was there, or of null. -/
theorem getD_childWith?_writeAll (key : Key) (h : d.Suited leaves) :
    (childWith? (d.writeAll leaves) key).getD null =
      ((childWith? d key).getD null).writeAll (beneath key leaves) := by
  induction leaves generalizing d with
  | nil => rfl
  | cons leaf rest ih =>
    obtain ⟨first, l, rfl, hkind, hrest⟩ := h.cons
    rw [writeAll_cons_under hkind, ih (hrest.of_kind (kind_put ..))]
    by_cases heq : first = key
    · subst heq
      rw [childWith?_put hkind, Option.getD_some, beneath_cons_under, writeAll_cons]
    · rw [getD_childWith?_put_of_ne (Ne.symm heq), beneath_cons_under_of_ne heq]

/-- Nothing that is at a key is lost. -/
theorem isSome_childWith?_put (hkind : d.kind = key.container) (v : Json)
    (h : (childWith? d other).isSome) : (childWith? (d.put key v) other).isSome := by
  by_cases heq : other = key
  · rw [heq, childWith?_put hkind]
    rfl
  · obtain ⟨c, hc⟩ := Option.isSome_iff_exists.1 h
    rw [childWith?_put_of_ne heq hc]
    rfl

/-- After the writes there is something at every key that one of them goes to. -/
theorem isSome_childWith?_writeAll (h : d.Suited leaves)
    (hkey : (childWith? d key).isSome ∨ beneath key leaves ≠ []) :
    (childWith? (d.writeAll leaves) key).isSome := by
  induction leaves generalizing d with
  | nil => exact hkey.resolve_right fun hne ↦ hne rfl
  | cons leaf rest ih =>
    obtain ⟨first, l, rfl, hkind, hrest⟩ := h.cons
    rw [writeAll_cons_under hkind]
    refine ih (hrest.of_kind (kind_put ..)) ?_
    by_cases heq : first = key
    · subst heq
      rw [childWith?_put hkind]
      exact .inl rfl
    · rw [beneath_cons_under_of_ne heq] at hkey
      exact hkey.imp_left (isSome_childWith?_put hkind _)

/-- No write makes an array longer than the positions need. -/
theorem exists_array_writeAll {items : List Json} {n : Nat} (hitems : items.length ≤ n)
    (h : ∀ leaf ∈ leaves, ∃ i < n, ∃ l, leaf = under (.index i) l) :
    ∃ out, (array items).writeAll leaves = array out ∧ out.length ≤ n := by
  induction leaves generalizing items with
  | nil => exact ⟨items, rfl, hitems⟩
  | cons leaf rest ih =>
    obtain ⟨⟨i, hi, l, rfl⟩, hrest⟩ := List.forall_mem_cons.1 h
    have hkind : (array items).kind = (Key.index i).container := rfl
    rw [writeAll_cons_under hkind]
    refine ih ?_ hrest
    split
    · rwa [List.length_set]
    · simp only [List.length_append, List.length_replicate, List.length_singleton]
      omega

/-- No write gives an object other names than it names. -/
theorem exists_object_writeAll {entries : Entries} {names : List String}
    (hnodup : (entries.map Prod.fst).Nodup) (hentries : entries.map Prod.fst ⊆ names)
    (h : ∀ leaf ∈ leaves, ∃ k ∈ names, ∃ l, leaf = under (.name k) l) :
    ∃ out : Entries, (object entries).writeAll leaves = object out ∧
      (out.map Prod.fst).Nodup ∧ out.map Prod.fst ⊆ names := by
  induction leaves generalizing entries with
  | nil => exact ⟨entries, rfl, hnodup, hentries⟩
  | cons leaf rest ih =>
    obtain ⟨⟨k, hk, l, rfl⟩, hrest⟩ := List.forall_mem_cons.1 h
    have hkind : (object entries).kind = (Key.name k).container := rfl
    rw [writeAll_cons_under hkind]
    refine ih (Entries.nodup_insert _ _ hnodup) ?_ hrest
    rw [Entries.map_fst_insert]
    split
    · exact hentries
    · exact List.append_subset.2 ⟨hentries, List.cons_subset.2 ⟨hk, List.nil_subset _⟩⟩

end Json

namespace Flat

open Json (Alike beneath under writeIn)

variable {v c : Json}

/-! ### The leaves of a child -/

/-- The leaves of the items below a position are those of the item there. -/
theorem beneath_leavesOfItems {items : List Json} {i : Nat} (position : Nat)
    (hc : items[i]? = some c) :
    beneath (.index (position + i)) (leavesOfItems position items) = leaves c := by
  induction items generalizing position i with
  | nil => cases hc
  | cons v rest ih =>
    rw [leavesOfItems_cons, Json.beneath_append]
    cases i with
    | zero =>
      obtain rfl : v = c := Option.some.inj hc
      have hrest : beneath (.index position) (leavesOfItems (position + 1) rest) = [] := by
        refine Json.beneath_eq_nil fun leaf hleaf ↦ ?_
        obtain ⟨j, -, w, -, l, -, rfl⟩ := mem_leavesOfItems hleaf
        refine ⟨_, l, rfl, fun heq ↦ ?_⟩
        have hj := Key.index.inj heq
        omega
      rw [Nat.add_zero, Json.beneath_map_under, hrest, List.append_nil]
    | succ i =>
      have hne : Key.index position ≠ .index (position + (i + 1)) := fun heq ↦ by
        have hi := Key.index.inj heq
        omega
      rw [Json.beneath_map_under_of_ne hne, List.nil_append, Nat.add_comm i, ← Nat.add_assoc]
      exact ih (position + 1) hc

/-- The leaves of the entries below a name are those of its value. -/
theorem beneath_leavesOfEntries {entries : Entries} {k : String}
    (hnodup : (entries.map Prod.fst).Nodup) (hc : entries.get? k = some c) :
    beneath (.name k) (leavesOfEntries entries) = leaves c := by
  induction entries with
  | nil => cases hc
  | cons entry rest ih =>
    obtain ⟨name, v⟩ := entry
    rw [List.map_cons, List.nodup_cons] at hnodup
    rw [leavesOfEntries_cons, Json.beneath_append]
    by_cases heq : name = k
    · subst heq
      obtain rfl : v = c := by simpa [Entries.get?] using hc
      have hrest : beneath (.name name) (leavesOfEntries rest) = [] := by
        refine Json.beneath_eq_nil fun leaf hleaf ↦ ?_
        obtain ⟨entry, he, l, -, rfl⟩ := mem_leavesOfEntries hleaf
        refine ⟨_, l, rfl, fun heq ↦ hnodup.1 ?_⟩
        exact List.mem_map.2 ⟨entry, he, Key.name.inj heq⟩
      rw [Json.beneath_map_under, hrest, List.append_nil]
    · have hne : Key.name name ≠ .name k := fun h ↦ heq (Key.name.inj h)
      rw [Entries.get?, if_neg heq] at hc
      rw [Json.beneath_map_under_of_ne hne, List.nil_append]
      exact ih hnodup.2 hc

theorem beneath_leaves {key : Key} (hv : v.Distinct) (hc : childWith? v key = some c) :
    beneath key (leaves v) = leaves c := by
  cases v with
  | scalar s => cases key <;> cases hc
  | array items =>
    cases key with
    | name k => cases hc
    | index i =>
      cases items with
      | nil => cases hc
      | cons v rest => simpa [leaves] using beneath_leavesOfItems 0 hc
  | object entries =>
    cases key with
    | index i => cases hc
    | name k =>
      cases entries with
      | nil => cases hc
      | cons entry rest => exact beneath_leavesOfEntries (Json.distinct_object.1 hv).1 hc

/-- The leaves of a value that has a child are all below keys. -/
theorem suited_leaves {key : Key} (hc : childWith? v key = some c) : v.Suited (leaves v) := by
  intro leaf hleaf
  cases v with
  | scalar s => cases key <;> cases hc
  | array items =>
    cases items with
    | nil => cases key <;> cases hc
    | cons v rest =>
      obtain ⟨i, -, w, -, l, -, rfl⟩ := mem_leavesOfItems hleaf
      exact ⟨_, l, rfl, rfl⟩
  | object entries =>
    cases entries with
    | nil => cases key <;> cases hc
    | cons entry rest =>
      obtain ⟨e, -, l, -, rfl⟩ := mem_leavesOfEntries hleaf
      exact ⟨_, l, rfl, rfl⟩

/-! ### Leaves in another order -/

variable {others : List (List Key × Json)}

/-- The leaves of a value that has a child may as well be written into an empty container. -/
theorem writeAll_null {key : Key} (hc : childWith? v key = some c) (h : others.Perm (leaves v)) :
    Json.null.writeAll others = (Json.empty v.kind).writeAll others := by
  have hne : others ≠ [] := fun hnil ↦ leaves_ne_nil v (List.nil_perm.1 (hnil ▸ h))
  obtain ⟨leaf, rest, rfl⟩ := List.exists_cons_of_ne_nil hne
  obtain ⟨first, l, rfl, hkind⟩ := suited_leaves hc leaf (h.mem_iff.1 (List.mem_cons_self ..))
  have hfit : Json.null.fit first.container = .empty first.container := by
    cases first <;> rfl
  rw [hkind, ← hfit]
  exact (Json.writeAll_fit _ rfl rest).symm

/-- At the key of a child, its leaves in any order make what they make by themselves. -/
theorem childWith?_writeAll_leaves {key : Key} (hv : v.Distinct) (hc : childWith? v key = some c)
    (h : others.Perm (leaves v)) :
    (beneath key others).Perm (leaves c) ∧
      childWith? (Json.null.writeAll others) key =
        some (Json.null.writeAll (beneath key others)) := by
  have hperm : (beneath key others).Perm (leaves c) := by
    rw [← beneath_leaves hv hc]
    exact h.filterMap (Json.below? key)
  have hsuited : (Json.empty v.kind).Suited others := by
    refine Json.Suited.of_kind (fun leaf hleaf ↦ suited_leaves hc leaf (h.mem_iff.1 hleaf)) ?_
    cases v with
    | scalar s => cases key <;> cases hc
    | array items => rfl
    | object entries => rfl
  have hempty : childWith? (Json.empty v.kind) key = none := by
    cases v <;> cases key <;> rfl
  have hget := Json.getD_childWith?_writeAll key hsuited
  have hsome := Json.isSome_childWith?_writeAll hsuited
    (.inr fun hnil ↦ leaves_ne_nil c (List.nil_perm.1 (hnil ▸ hperm)))
  obtain ⟨w, hw⟩ := Option.isSome_iff_exists.1 hsome
  rw [hw, hempty, Option.getD_some, Option.getD_none] at hget
  exact ⟨hperm, by rw [writeAll_null hc h, hw, hget]⟩

/-- Items that are made alike in any order make arrays alike. -/
theorem alike_array {items : List Json} (hv : (Json.array items).Distinct) (hne : items ≠ [])
    (ih : ∀ c ∈ items, ∀ others, others.Perm (leaves c) → Alike c (Json.null.writeAll others))
    (h : others.Perm (leaves (.array items))) :
    Alike (.array items) (Json.null.writeAll others) := by
  obtain ⟨first, rest, rfl⟩ := List.exists_cons_of_ne_nil hne
  have hkeys : ∀ leaf ∈ others, ∃ i < (first :: rest).length, ∃ l, leaf = under (.index i) l := by
    intro leaf hleaf
    obtain ⟨i, hi, w, -, l, -, rfl⟩ := mem_leavesOfItems (h.mem_iff.1 hleaf)
    exact ⟨i, hi, l, by rw [Nat.zero_add]⟩
  have hempty : ([] : List Json).length ≤ (first :: rest).length := Nat.zero_le _
  obtain ⟨out, hout, hlength⟩ := Json.exists_array_writeAll hempty hkeys
  have hfirst : childWith? (.array (first :: rest)) (.index 0) = some first := rfl
  have hnull : Json.null.writeAll others = .array out := (writeAll_null hfirst h).trans hout
  have hchild : ∀ {i c}, (first :: rest)[i]? = some c →
      (beneath (.index i) others).Perm (leaves c) ∧
        out[i]? = some (Json.null.writeAll (beneath (.index i) others)) := by
    intro i c hc
    have hat : childWith? (.array (first :: rest)) (.index i) = some c := hc
    have hboth := childWith?_writeAll_leaves hv hat h
    rwa [hnull] at hboth
  rw [hnull]
  refine .array (Nat.le_antisymm (Nat.not_lt.1 fun hlt ↦ ?_) hlength) fun i c w hc hw ↦ ?_
  · -- every item is there, so there is none beyond the end
    have hlast := (hchild (List.getElem?_eq_getElem hlt)).2
    rw [List.getElem?_eq_none (Nat.le_refl _)] at hlast
    cases hlast
  · obtain ⟨hperm, hget⟩ := hchild hc
    obtain rfl := Option.some.inj (hw.symm.trans hget)
    exact ih c (List.mem_of_getElem? hc) _ hperm

/-- Entries whose values are made alike in any order make objects alike. -/
theorem alike_object {entries : Entries} (hv : (Json.object entries).Distinct) (hne : entries ≠ [])
    (ih : ∀ entry ∈ entries, ∀ others, others.Perm (leaves entry.2) →
      Alike entry.2 (Json.null.writeAll others))
    (h : others.Perm (leaves (.object entries))) :
    Alike (.object entries) (Json.null.writeAll others) := by
  obtain ⟨first, rest, rfl⟩ := List.exists_cons_of_ne_nil hne
  have hkeys : ∀ leaf ∈ others, ∃ k ∈ (first :: rest).map Prod.fst, ∃ l,
      leaf = under (.name k) l := by
    intro leaf hleaf
    obtain ⟨e, he, l, -, rfl⟩ := mem_leavesOfEntries (h.mem_iff.1 hleaf)
    exact ⟨e.1, List.mem_map_of_mem he, l, rfl⟩
  have hempty : (([] : Entries).map Prod.fst).Nodup := List.nodup_nil
  obtain ⟨out, hout, hnodup, hnames⟩ :=
    Json.exists_object_writeAll hempty (List.nil_subset _) hkeys
  have hfirst : childWith? (.object (first :: rest)) (.name first.1) = some first.2 :=
    if_pos rfl
  have hnull : Json.null.writeAll others = .object out :=
    (writeAll_null hfirst h).trans hout
  have hchild : ∀ {k c}, Entries.get? (first :: rest) k = some c →
      (beneath (.name k) others).Perm (leaves c) ∧
        out.get? k = some (Json.null.writeAll (beneath (.name k) others)) := by
    intro k c hc
    have hat : childWith? (.object (first :: rest)) (.name k) = some c := hc
    have hboth := childWith?_writeAll_leaves hv hat h
    rwa [hnull] at hboth
  rw [hnull]
  refine .object ((List.perm_ext_iff_of_nodup (Json.distinct_object.1 hv).1 hnodup).2 fun k ↦
    ⟨fun hk ↦ ?_, fun hk ↦ hnames hk⟩) fun k c w hc hw ↦ ?_
  · obtain ⟨c, hc⟩ := Entries.exists_get? hk
    by_contra hnone
    have hget := (hchild hc).2
    rw [Entries.get?_eq_none hnone] at hget
    cases hget
  · obtain ⟨hperm, hget⟩ := hchild hc
    obtain rfl := Option.some.inj (hw.symm.trans hget)
    exact ih (k, c) (Entries.mem_of_get?_eq_some hc) _ hperm

/-- The leaves of a value in any order make a value like it. -/
theorem alike_writeAll (hv : v.Distinct) (h : others.Perm (leaves v)) :
    Alike v (Json.null.writeAll others) := by
  induction v using Json.induction_parts generalizing others with
  | scalar s =>
    obtain rfl := List.perm_singleton.1 h
    exact .scalar s
  | array items ih =>
    by_cases hne : items = []
    · subst hne
      obtain rfl := List.perm_singleton.1 h
      exact .array rfl fun i v w hv _ ↦ by cases hv
    · exact alike_array hv hne
        (fun c hc others hothers ↦ ih c hc (Json.distinct_array.1 hv c hc) hothers) h
  | object entries ih =>
    by_cases hne : entries = []
    · subst hne
      obtain rfl := List.perm_singleton.1 h
      exact .object .nil fun k v w hv _ ↦ by cases hv
    · exact alike_object hv hne
        (fun e he others hothers ↦ ih e he ((Json.distinct_object.1 hv).2 e he) hothers) h

/-! ### Expanding -/

/-- The entries of the flat document of a value can be expanded in any order. The result is the
value up to the order of the entries of objects. -/
theorem expand_perm (hv : v.Distinct) (hsize : v.Addressable) {flat : Entries}
    (h : flat.Perm (squish v)) : ∃ w, expand flat = .ok w ∧ Alike v w := by
  obtain ⟨others, rfl, hothers⟩ := (congrFun₂ (List.eq_map_comp_perm fun leaf : List Key × Json ↦
    (pathOf leaf.1, leaf.2)) flat (leaves v)).mpr h
  have hsound : (Tree.ofJson .builtin .null).Sound := Tree.sound_ofJson _ trivial
  obtain ⟨t, hbridge, ht⟩ := Tree.document_bridge_leaves hsize hothers.subset hsound (.inl rfl)
  refine ⟨t.document, by rw [expand, hbridge], ?_⟩
  rw [ht, Tree.document_ofJson]
  exact alike_writeAll hv hothers

/-- All entries come in the reverse order, so the array is first filled up with a null. -/
theorem expand_perm_reversed :
    ∃ w, expand [("b", .array []), ("a.[1].:c", .bool true), ("a.[1].c", .null),
        ("a.[0]", .object [])] = .ok w ∧
      Alike (.object [("a", .array [.object [], .object [("c", .null), (":c", .bool true)]]),
        ("b", .array [])]) w := by
  have hsquish : squish (.object [("a", .array [.object [],
      .object [("c", .null), (":c", .bool true)]]), ("b", .array [])]) =
        [("a.[0]", .object []), ("a.[1].c", .null), ("a.[1].:c", .bool true),
          ("b", .array [])] := rfl
  refine expand_perm ?_ ?_ ?_
  · simp
  · simp
  · rw [hsquish]
    exact List.reverse_perm [_, _, _, _]

end Flat

end DocPath

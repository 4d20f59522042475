import DocPath.Tree.Node
import Mathlib.Data.List.Basic
import Mathlib.Data.List.Nodup

/-!
# Nodes through their children

Sequences and maps keep their children in different ways, and the operations of `Node` have one
equation for each. The theory needs the difference only where names matter, so this module reads all
of them through the list of child nodes:

* `induction_children`: what holds of a node whenever it holds of its children holds of every node;
* `mapChildren`: changes every child and leaves keys and handle alone;
* one equation for each operation (`ids_eq`, `find?_eq`, `trail?_eq`, `replace_eq`, `erase_eq`) that
  says what it does at the node itself and what at the children.
-/

namespace DocPath

/-- A position of 63 bits is the integer it is. -/
theorem Key.int?_index {k : Nat} (hk : k < 0x8000000000000000) :
    (Key.index k).int? = some (k : Int) :=
  if_pos hk

namespace Node

/-! ### The list of children -/

/-- The children without their keys. -/
def childNodes (n : Node) : List Node :=
  n.children.map Prod.snd

@[simp] theorem childNodes_scalar (i : NodeId) (s : Scalar) : (scalar i s).childNodes = [] := rfl

@[simp] theorem childNodes_sequence (i : NodeId) (items : List Node) :
    (sequence i items).childNodes = items := by
  simp [childNodes, children, Function.comp_def]

@[simp] theorem childNodes_map (i : NodeId) (entries : List (String × Node)) :
    (map i entries).childNodes = entries.map Prod.snd := by
  simp [childNodes, children, Function.comp_def]

theorem mem_childNodes {n c : Node} : c ∈ n.childNodes ↔ ∃ key, (key, c) ∈ n.children := by
  simp [childNodes]

/-- The children of a sequence have their positions as keys. -/
theorem map_fst_children_of_sequence {n : Node} (h : n.kind = .sequence) :
    n.children.map Prod.fst = (List.range n.children.length).map Key.index := by
  cases n with
  | sequence i items =>
    have hpositions := congrArg (List.map Key.index) (List.zipIdx_map_snd 0 items)
    rw [List.map_map, ← List.range_eq_range'] at hpositions
    simpa [children, Function.comp_def] using hpositions
  | scalar i s => cases h
  | map i entries => cases h

theorem sizeOf_lt_of_mem_childNodes {n c : Node} (h : c ∈ n.childNodes) :
    sizeOf c < sizeOf n := by
  cases n with
  | scalar i s => simp at h
  | sequence i items =>
    rw [childNodes_sequence] at h
    have := List.sizeOf_lt_of_mem h
    simp only [sequence.sizeOf_spec]
    omega
  | map i entries =>
    rw [childNodes_map] at h
    obtain ⟨⟨k, c⟩, he, rfl⟩ := List.mem_map.1 h
    have := List.sizeOf_lt_of_mem he
    simp only [map.sizeOf_spec, Prod.mk.sizeOf_spec] at this ⊢
    omega

/-- Induction over nodes: what passes from the children to their parent holds everywhere. -/
@[elab_as_elim]
theorem induction_children {motive : Node → Prop}
    (step : ∀ n, (∀ c ∈ n.childNodes, motive c) → motive n) (n : Node) : motive n :=
  step n fun c _ ↦ induction_children step c
termination_by sizeOf n
decreasing_by exact sizeOf_lt_of_mem_childNodes ‹_›

/-! ### Changing every child -/

/-- The node with every child changed, under the same handle and the same keys. -/
def mapChildren (f : Node → Node) : Node → Node
  | scalar i s => scalar i s
  | sequence i items => sequence i (items.map f)
  | map i entries => map i (entries.map fun entry ↦ (entry.1, f entry.2))

@[simp] theorem id_mapChildren (f : Node → Node) (n : Node) : (n.mapChildren f).id = n.id := by
  cases n <;> rfl

@[simp] theorem kind_mapChildren (f : Node → Node) (n : Node) :
    (n.mapChildren f).kind = n.kind := by
  cases n <;> rfl

@[simp] theorem children_mapChildren (f : Node → Node) (n : Node) :
    (n.mapChildren f).children = n.children.map fun child ↦ (child.1, f child.2) := by
  cases n <;> simp [mapChildren, children, List.zipIdx_map, Function.comp_def]

@[simp] theorem childNodes_mapChildren (f : Node → Node) (n : Node) :
    (n.mapChildren f).childNodes = n.childNodes.map f := by
  simp [childNodes, Function.comp_def]

theorem mapChildren_congr {f g : Node → Node} {n : Node} (h : ∀ c ∈ n.childNodes, f c = g c) :
    n.mapChildren f = n.mapChildren g := by
  cases n with
  | scalar i s => rfl
  | sequence i items =>
    rw [childNodes_sequence] at h
    simp only [mapChildren, List.map_congr_left h]
  | map i entries =>
    simp only [mapChildren, map.injEq, true_and]
    refine List.map_congr_left fun entry he ↦ ?_
    rw [h entry.2 (by rw [childNodes_map]; exact List.mem_map_of_mem he)]

@[simp] theorem mapChildren_id (n : Node) : n.mapChildren (fun c ↦ c) = n := by
  cases n <;> simp [mapChildren]

theorem mapChildren_mapChildren (f g : Node → Node) (n : Node) :
    (n.mapChildren f).mapChildren g = n.mapChildren fun c ↦ g (f c) := by
  cases n <;> simp [mapChildren, Function.comp_def]

/-- A node all of whose children stay as they are stays as it is. -/
theorem mapChildren_eq_self {f : Node → Node} {n : Node} (h : ∀ c ∈ n.childNodes, f c = c) :
    n.mapChildren f = n :=
  (mapChildren_congr h).trans n.mapChildren_id

/-! ### Children by key -/

theorem child?_sequence (i : NodeId) (items : List Node) (key : Key) (exact : Bool) :
    (sequence i items).child? key exact =
      key.int?.bind fun k ↦ if k < 0 then none else items[k.toNat]? :=
  rfl

theorem child?_map_exact (i : NodeId) (entries : List (String × Node)) (key : Key) :
    (map i entries).child? key true =
      (entries.find? fun entry ↦ entry.1 = key.text).map Prod.snd := by
  simp only [child?]
  cases entries.find? fun entry ↦ decide (entry.1 = key.text) <;> rfl

/-- Where a child is found depends on the keys only. -/
theorem child?_mapChildren (f : Node → Node) (n : Node) (key : Key) (exact : Bool) :
    (n.mapChildren f).child? key exact = (n.child? key exact).map f := by
  cases n with
  | scalar i s => rfl
  | sequence i items =>
    rw [mapChildren, child?_sequence, child?_sequence]
    cases key.int? with
    | none => rfl
    | some k => by_cases hk : k < 0 <;> simp [hk]
  | map i entries =>
    have hnamed : ∀ p : String → Bool,
        ((entries.map fun entry ↦ (entry.1, f entry.2)).find? fun entry ↦ p entry.1).map Prod.snd =
          ((entries.find? fun entry ↦ p entry.1).map Prod.snd).map f := by
      intro p
      simp [List.find?_map, Function.comp_def]
    have hexact := hnamed fun name ↦ decide (name = key.text)
    have hnormal := hnamed fun name ↦ decide (normalName name = key.normal)
    simp only [mapChildren, child?, Option.orElse_eq_or, hexact, hnormal, Option.map_or]
    cases exact <;> rfl

/-- What is found by a key is a child. -/
theorem mem_childNodes_of_child? {n c : Node} {key : Key} {exact : Bool}
    (h : n.child? key exact = some c) : c ∈ n.childNodes := by
  cases n with
  | scalar i s => cases h
  | sequence i items =>
    rw [child?_sequence] at h
    obtain ⟨k, -, hk⟩ := Option.bind_eq_some_iff.1 h
    split at hk
    · cases hk
    · rw [childNodes_sequence]
      exact List.mem_of_getElem? hk
  | map i entries =>
    rw [childNodes_map]
    have hnamed : ∀ p : String → Bool,
        (entries.find? fun entry ↦ p entry.1).map Prod.snd = some c → c ∈ entries.map Prod.snd := by
      intro p hp
      obtain ⟨entry, hentry, rfl⟩ := Option.map_eq_some_iff.1 hp
      exact List.mem_map_of_mem (List.mem_of_find?_eq_some hentry)
    simp only [child?, Option.orElse_eq_or, Option.or_eq_some_iff] at h
    rcases h with h | ⟨-, h⟩
    · exact hnamed (fun name ↦ name = key.text) h
    · cases exact
      · exact hnamed (fun name ↦ normalName name = key.normal) h
      · cases h

/-- A name by which nothing is found exactly is new to a map. -/
theorem notMem_names_of_child?_eq_none {i : NodeId} {entries : List (String × Node)} {key : Key}
    (h : (map i entries).child? key true = none) : key.text ∉ entries.map Prod.fst := by
  rw [child?_map_exact, Option.map_eq_none_iff, List.find?_eq_none] at h
  intro hmem
  obtain ⟨entry, hentry, hkey⟩ := List.mem_map.1 hmem
  exact h entry hentry (decide_eq_true hkey)

/-! ### Values -/

theorem toJsonItems_eq (items : List Node) : toJsonItems items = items.map toJson := by
  induction items with
  | nil => rfl
  | cons n rest ih => simp [toJsonItems, ih]

theorem toJsonEntries_eq (entries : List (String × Node)) :
    toJsonEntries entries = entries.map fun entry ↦ (entry.1, entry.2.toJson) := by
  induction entries with
  | nil => rfl
  | cons entry rest ih => simp [toJsonEntries, ih]

@[simp] theorem toJson_scalar (i : NodeId) (s : Scalar) : (scalar i s).toJson = .scalar s := by
  rw [toJson]

@[simp] theorem toJson_sequence (i : NodeId) (items : List Node) :
    (sequence i items).toJson = .array (items.map toJson) := by
  rw [toJson, toJsonItems_eq]

@[simp] theorem toJson_map (i : NodeId) (entries : List (String × Node)) :
    (map i entries).toJson = .object (entries.map fun entry ↦ (entry.1, entry.2.toJson)) := by
  rw [toJson, toJsonEntries_eq]

/-- A node and its value are of one kind. -/
@[simp] theorem kind_toJson (n : Node) : n.toJson.kind = n.kind := by
  cases n <;> simp [Json.kind, kind]

/-! ### What lies below -/

theorem edgesOfItems_eq (siblings position : Nat) (items : List Node) :
    edgesOfItems siblings position items =
      (items.zipIdx position).flatMap fun item ↦
        ⟨siblings, .index item.2, item.1⟩ :: item.1.edges := by
  induction items generalizing position with
  | nil => rfl
  | cons n rest ih => simp [edgesOfItems, ih]

theorem edgesOfEntries_eq (siblings : Nat) (entries : List (String × Node)) :
    edgesOfEntries siblings entries =
      entries.flatMap fun entry ↦ ⟨siblings, .name entry.1, entry.2⟩ :: entry.2.edges := by
  induction entries with
  | nil => rfl
  | cons entry rest ih => simp [edgesOfEntries, ih]

/-- Below a node are its children, each followed by what is below it. -/
theorem edges_eq (n : Node) :
    n.edges = n.childEdges.flatMap fun e ↦ e :: e.child.edges := by
  cases n <;>
    simp [edges, childEdges, children, edgesOfItems_eq, edgesOfEntries_eq, List.flatMap_map]

theorem descendants_eq (n : Node) :
    n.descendants = n.childNodes.flatMap fun c ↦ c :: c.descendants := by
  rw [descendants, edges_eq, List.map_flatMap, childEdges, childNodes, List.flatMap_map,
    List.flatMap_map]
  rfl

/-- The handles at a node and below are its own and those of its children. -/
theorem ids_eq (n : Node) : n.ids = n.id :: n.childNodes.flatMap ids := by
  rw [ids, descendants_eq, List.map_flatMap]
  rfl

theorem releaseOrderOfItems_eq (items : List Node) :
    releaseOrderOfItems items = items.flatMap releaseOrder := by
  induction items with
  | nil => rfl
  | cons n rest ih => rw [releaseOrderOfItems, ih, List.flatMap_cons]

theorem releaseOrderOfEntries_eq (entries : List (String × Node)) :
    releaseOrderOfEntries entries = entries.flatMap fun entry ↦ entry.2.releaseOrder := by
  induction entries with
  | nil => rfl
  | cons entry rest ih => rw [releaseOrderOfEntries, ih, List.flatMap_cons]

theorem releaseOrderBelow_eq (n : Node) :
    n.releaseOrderBelow = n.childNodes.flatMap releaseOrder := by
  rw [releaseOrderBelow, childNodes, List.flatMap_map]

/-- A node is released after all that is below it. -/
theorem releaseOrder_eq (n : Node) : n.releaseOrder = n.releaseOrderBelow ++ [n.id] := by
  rw [releaseOrderBelow_eq]
  cases n with
  | scalar i s => rfl
  | sequence i items => rw [releaseOrder, releaseOrderOfItems_eq, childNodes_sequence, id]
  | map i entries =>
    rw [releaseOrder, releaseOrderOfEntries_eq, childNodes_map, List.flatMap_map, id]

theorem id_mem_ids (n : Node) : n.id ∈ n.ids := by
  simp [ids]

theorem mem_ids {n : Node} {id : NodeId} :
    id ∈ n.ids ↔ id = n.id ∨ ∃ c ∈ n.childNodes, id ∈ c.ids := by
  rw [ids_eq, List.mem_cons, List.mem_flatMap]

theorem ids_subset_of_mem_childNodes {n c : Node} (h : c ∈ n.childNodes) : c.ids ⊆ n.ids :=
  fun _ hid ↦ mem_ids.2 (.inr ⟨c, h, hid⟩)

theorem mem_ids_iff_eq_or_mem_descendants {n : Node} {id : NodeId} :
    id ∈ n.ids ↔ ∃ m ∈ n :: n.descendants, m.id = id := by
  simp [ids, eq_comm]

/-! ### Searching -/

theorem find?_eq (id : NodeId) (n : Node) :
    n.find? id = if n.id = id then some n else n.childNodes.findSome? (find? id) := by
  rw [find?, List.find?_cons, descendants_eq]
  by_cases h : n.id = id
  · simp [h]
  · rw [if_neg h]
    simp only [h, decide_false]
    clear h
    induction n.childNodes with
    | nil => rfl
    | cons c rest ih =>
      rw [List.flatMap_cons, List.find?_append, List.findSome?_cons, ← ih, find?]
      cases (c :: c.descendants).find? fun m ↦ decide (m.id = id) <;> rfl

@[simp] theorem find?_self (n : Node) : n.find? n.id = some n := by
  simp [find?_eq]

theorem find?_isSome {n : Node} {id : NodeId} : (n.find? id).isSome ↔ id ∈ n.ids := by
  rw [find?, List.find?_isSome, mem_ids_iff_eq_or_mem_descendants]
  simp

theorem exists_find? {n : Node} {id : NodeId} (h : id ∈ n.ids) : ∃ m, n.find? id = some m :=
  Option.isSome_iff_exists.1 (find?_isSome.2 h)

theorem find?_eq_none {n : Node} {id : NodeId} : n.find? id = none ↔ id ∉ n.ids := by
  rw [← find?_isSome, Option.not_isSome_iff_eq_none]

theorem id_of_find? {n m : Node} {id : NodeId} (h : n.find? id = some m) : m.id = id := by
  have := List.find?_some h
  simpa using this

theorem mem_ids_of_find? {n m : Node} {id : NodeId} (h : n.find? id = some m) : id ∈ n.ids :=
  find?_isSome.1 (by simp [h])

/-! ### Trails -/

theorem trailItems?_eq (target : NodeId) (parent : Node) (position : Nat) (items : List Node) :
    trailItems? target parent position items =
      (items.zipIdx position).findSome? fun item ↦
        (item.1.trail? target).map (⟨parent, .index item.2⟩ :: ·) := by
  induction items generalizing position with
  | nil => rfl
  | cons n rest ih =>
    rw [trailItems?, List.zipIdx_cons, List.findSome?_cons]
    cases n.trail? target with
    | none => exact ih (position + 1)
    | some steps => rfl

theorem trailEntries?_eq (target : NodeId) (parent : Node) (entries : List (String × Node)) :
    trailEntries? target parent entries =
      entries.findSome? fun entry ↦
        (entry.2.trail? target).map (⟨parent, .name entry.1⟩ :: ·) := by
  induction entries with
  | nil => rfl
  | cons entry rest ih =>
    rw [trailEntries?, List.findSome?_cons]
    cases entry.2.trail? target with
    | none => exact ih
    | some steps => rfl

/-- The steps to a handle begin with one to the child that has it at or below it. -/
theorem trail?_eq (target : NodeId) (n : Node) :
    n.trail? target = if n.id = target then some [] else
      n.children.findSome? fun child ↦
        (child.2.trail? target).map (⟨n, child.1⟩ :: ·) := by
  by_cases h : n.id = target
  · rw [if_pos h]
    cases n <;> simp [trail?, ← h, id]
  · rw [if_neg h]
    cases n <;> simp only [id] at h <;>
      simp [trail?, h, children, trailItems?_eq, trailEntries?_eq, List.findSome?_map,
        Function.comp_def]

@[simp] theorem trail?_self (n : Node) : n.trail? n.id = some [] := by
  simp [trail?_eq]

/-! ### Changes -/

theorem replaceItems_eq (target : NodeId) (new : Node) (items : List Node) :
    replaceItems target new items = items.map (replace target new) := by
  induction items with
  | nil => rfl
  | cons n rest ih => simp [replaceItems, ih]

theorem replaceEntries_eq (target : NodeId) (new : Node) (entries : List (String × Node)) :
    replaceEntries target new entries =
      entries.map fun entry ↦ (entry.1, replace target new entry.2) := by
  induction entries with
  | nil => rfl
  | cons entry rest ih => simp [replaceEntries, ih]

theorem replace_eq (target : NodeId) (new n : Node) :
    replace target new n =
      if n.id = target then new else n.mapChildren (replace target new) := by
  by_cases h : n.id = target
  · rw [if_pos h]
    cases n <;> simp [replace, ← h, id]
  · rw [if_neg h]
    cases n <;> simp only [id] at h <;>
      simp [replace, h, mapChildren, replaceItems_eq, replaceEntries_eq]

@[simp] theorem replace_self (n new : Node) : replace n.id new n = new := by
  simp [replace_eq]

theorem replace_of_ne {n : Node} {target : NodeId} (new : Node) (h : n.id ≠ target) :
    replace target new n = n.mapChildren (replace target new) := by
  simp [replace_eq, h]

/-- Exchanging a node for one with its handle leaves the handle at the top. -/
theorem id_replace {new : Node} {id : NodeId} (hid : new.id = id) (n : Node) :
    (replace id new n).id = n.id := by
  by_cases heq : n.id = id
  · rw [← heq, replace_self, hid, heq]
  · rw [replace_of_ne new heq, id_mapChildren]

/-- The handles of a node put in place of another are there. -/
theorem ids_subset_replace {n : Node} {target : NodeId} (new : Node) (h : target ∈ n.ids) :
    new.ids ⊆ (replace target new n).ids := by
  induction n using induction_children with
  | step n ih =>
    by_cases hid : n.id = target
    · rw [← hid, replace_self]
      exact List.Subset.refl _
    · obtain ⟨c, hc, htarget⟩ := (mem_ids.1 h).resolve_left (Ne.symm hid)
      rw [replace_of_ne new hid]
      refine List.Subset.trans (ih c hc htarget) (ids_subset_of_mem_childNodes ?_)
      rw [childNodes_mapChildren]
      exact List.mem_map_of_mem hc

/-- The node without the children of a handle. -/
def dropChild (target : NodeId) : Node → Node
  | scalar i s => scalar i s
  | sequence i items => sequence i (items.filter (·.id ≠ target))
  | map i entries => map i (entries.filter (·.2.id ≠ target))

@[simp] theorem id_dropChild (target : NodeId) (n : Node) : (n.dropChild target).id = n.id := by
  cases n <;> rfl

@[simp] theorem childNodes_dropChild (target : NodeId) (n : Node) :
    (n.dropChild target).childNodes = n.childNodes.filter (·.id ≠ target) := by
  cases n <;> simp [dropChild, List.filter_map, Function.comp_def]

theorem eraseItems_eq (target : NodeId) (items : List Node) :
    eraseItems target items = (items.filter (·.id ≠ target)).map (erase target) := by
  induction items with
  | nil => rfl
  | cons n rest ih => by_cases h : n.id = target <;> simp [eraseItems, h, ih]

theorem eraseEntries_eq (target : NodeId) (entries : List (String × Node)) :
    eraseEntries target entries =
      (entries.filter (·.2.id ≠ target)).map fun entry ↦ (entry.1, erase target entry.2) := by
  induction entries with
  | nil => rfl
  | cons entry rest ih => by_cases h : entry.2.id = target <;> simp [eraseEntries, h, ih]

theorem erase_eq (target : NodeId) (n : Node) :
    n.erase target = (n.dropChild target).mapChildren (erase target) := by
  cases n <;> simp [erase, dropChild, mapChildren, eraseItems_eq, eraseEntries_eq]

@[simp] theorem id_erase (target : NodeId) (n : Node) : (n.erase target).id = n.id := by
  simp [erase_eq]

end Node

end DocPath

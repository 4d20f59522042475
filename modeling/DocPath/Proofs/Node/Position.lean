import DocPath.Proofs.Json.Position
import DocPath.Proofs.Node.Write

/-!
# Positions of nodes

A node lies below another one at a list of keys. Exact lookups along the keys (`Node.at?`), contexts
around the node and steps down to its handle all say the same of it: the keys of a context lead to
its filling (`Context.at?_fill`), what is found at keys fills a context with these keys
(`exists_fill_of_at?`), and the steps down to a node have the keys at which it is found
(`trail?_of_at?`).

The value of a node has at the same keys the values of the nodes there (`toJson_at?`).
-/

namespace DocPath

open Operation (childWith?)

namespace Node

variable {n m c : Node} {key : Key} {keys : List Key} {id : NodeId}

theorem toJson_at? (n : Node) (keys : List Key) :
    (n.at? keys).map toJson = n.toJson.at? keys := by
  induction keys generalizing n with
  | nil => rfl
  | cons key rest ih =>
    rw [at?_cons, Json.at?_cons, childWith?_toJson]
    cases n.childAt? key with
    | none => rfl
    | some c => exact ih c

theorem at?_append (n : Node) (keys rest : List Key) :
    n.at? (keys ++ rest) = (n.at? keys).bind fun m ↦ m.at? rest := by
  induction keys generalizing n with
  | nil => rfl
  | cons key keys ih =>
    rw [List.cons_append, at?_cons, at?_cons]
    cases n.childAt? key with
    | none => rfl
    | some c => exact ih c

/-! ### One key -/

theorem mem_children_of_childAt? (h : n.childAt? key = some c) : (key, c) ∈ n.children := by
  cases n with
  | scalar i s => cases key <;> cases h
  | sequence i items =>
    cases key with
    | name k => cases h
    | index k => exact List.mem_map.2 ⟨(c, k), List.mem_zipIdx_iff_getElem?.2 h, rfl⟩
  | map i entries =>
    cases key with
    | index k => cases h
    | name k =>
      obtain ⟨before, after, rfl, -⟩ := exists_split_of_find? h
      exact List.mem_map.2 ⟨(k, c), by simp, rfl⟩

/-- In a node with distinct names every child is found at the key it is listed with. -/
theorem childAt?_eq_some_iff (hn : n.toJson.Distinct) :
    n.childAt? key = some c ↔ (key, c) ∈ n.children := by
  refine ⟨mem_children_of_childAt?, fun h ↦ ?_⟩
  obtain ⟨f, rfl, rfl⟩ := exists_frame h
  cases f with
  | sequence i before after =>
    rw [Frame.fill, Frame.key, childAt?, List.getElem?_append_right (Nat.le_refl _), Nat.sub_self]
    rfl
  | map i before name after =>
    -- an earlier entry with the name would be found in place of the child
    refine find?_split_of_notMem fun hmem ↦ ?_
    rw [Frame.fill, toJson_map, Json.distinct_object, List.map_map, List.map_append,
      List.map_cons] at hn
    exact (List.nodup_append.1 hn.1).2.2 name hmem name (List.mem_cons_self ..) rfl

theorem container_of_mem_children (h : (key, c) ∈ n.children) :
    key.container = n.kind := by
  cases n with
  | scalar i s => cases h
  | sequence i items =>
    obtain ⟨item, -, heq⟩ := List.mem_map.1 h
    rw [← (Prod.mk.inj heq).1]
    rfl
  | map i entries =>
    obtain ⟨entry, -, heq⟩ := List.mem_map.1 h
    rw [← (Prod.mk.inj heq).1]
    rfl

/-- A child is found by the key it is listed with, exactly or not. -/
theorem child?_of_mem_children (hn : n.toJson.Distinct) (h : (key, c) ∈ n.children)
    (hkey : key.InRange) (exact : Bool) : n.child? key exact = some c := by
  have hexact : n.child? key true = some c := by
    rw [child?_eq_childAt? (container_of_mem_children h).symm hkey, childAt?_eq_some_iff hn]
    exact h
  cases exact with
  | true => exact hexact
  | false =>
    cases n with
    | scalar i s => cases h
    | sequence i items => exact hexact
    | map i entries =>
      rw [child?_map_exact] at hexact
      simp only [child?, hexact]
      rfl

/-! ### Several keys -/

/-- A node below another one fills a context with at least one frame. -/
theorem exists_fill_of_mem_descendants (h : m ∈ n.descendants) :
    ∃ (d : Context) (f : Frame), n = Context.fill (d ++ [f]) m := by
  induction n using induction_children with
  | step n ih =>
    rw [descendants_eq, List.mem_flatMap] at h
    obtain ⟨c, hc, hm⟩ := h
    obtain ⟨key, hkey⟩ := mem_childNodes.1 hc
    obtain ⟨f, rfl, -⟩ := exists_frame hkey
    rcases List.mem_cons.1 hm with rfl | hm
    · exact ⟨[], f, rfl⟩
    · obtain ⟨d, g, rfl⟩ := ih c hc hm
      exact ⟨f :: d, g, rfl⟩

theorem exists_fill_of_mem (h : m ∈ n :: n.descendants) : ∃ d : Context, n = Context.fill d m := by
  rcases List.mem_cons.1 h with rfl | h
  · exact ⟨[], rfl⟩
  · obtain ⟨d, f, hfill⟩ := exists_fill_of_mem_descendants h
    exact ⟨d ++ [f], hfill⟩

/-- What is below a node below another one is below that one too. -/
theorem descendants_subset_of_mem (h : m ∈ n :: n.descendants) :
    m.descendants ⊆ n.descendants := by
  induction n using induction_children with
  | step n ih =>
    rcases List.mem_cons.1 h with rfl | hm
    · exact List.Subset.refl _
    · rw [descendants_eq, List.mem_flatMap] at hm
      obtain ⟨c, hc, hm⟩ := hm
      intro d hd
      rw [descendants_eq, List.mem_flatMap]
      exact ⟨c, hc, List.mem_cons_of_mem c (ih c hc hm hd)⟩

theorem mem_descendants_of_mem_childNodes (h : c ∈ n.childNodes) : c ∈ n.descendants := by
  rw [descendants_eq, List.mem_flatMap]
  exact ⟨c, h, List.mem_cons_self ..⟩

namespace Context

variable {d : Context}

theorem mem_fill (d : Context) (n : Node) : n ∈ fill d n :: (fill d n).descendants := by
  induction d with
  | nil => exact List.mem_cons_self ..
  | cons f d ih =>
    refine List.mem_cons_of_mem _ ?_
    rw [descendants_eq, List.mem_flatMap]
    exact ⟨fill d n, mem_childNodes.2 ⟨f.key, f.key_mem_children_fill _⟩, ih⟩

@[simp] theorem keys_nil : Context.keys [] = [] := rfl

@[simp] theorem keys_cons (f : Frame) (d : Context) :
    Context.keys (f :: d) = f.key :: Context.keys d := rfl

@[simp] theorem keys_append (d e : Context) :
    Context.keys (d ++ e) = Context.keys d ++ Context.keys e :=
  List.map_append

/-- The keys of a context lead to its filling. -/
theorem at?_fill (h : (fill d n).toJson.Distinct) : (fill d n).at? (Context.keys d) = some n := by
  induction d with
  | nil => rfl
  | cons f d ih =>
    rw [fill_cons] at h
    rw [fill_cons, keys_cons, at?_cons,
      (childAt?_eq_some_iff h).2 (f.key_mem_children_fill (fill d n)), Option.bind_some,
      ih (Frame.distinct_of_fill h)]

theorem map_key_steps (d : Context) (n : Node) : (steps d n).map Step.key = Context.keys d := by
  induction d with
  | nil => rfl
  | cons f d ih => rw [steps, List.map_cons, ih, keys_cons]

end Context

/-- A node that is found at keys fills a context with these keys. -/
theorem exists_fill_of_at? (h : n.at? keys = some m) :
    ∃ d : Context, n = Context.fill d m ∧ Context.keys d = keys := by
  induction keys generalizing n with
  | nil => exact ⟨[], Option.some.inj h, rfl⟩
  | cons key rest ih =>
    obtain ⟨c, hc, hm⟩ := Option.bind_eq_some_iff.1 h
    obtain ⟨d, rfl, rfl⟩ := ih hm
    obtain ⟨f, rfl, rfl⟩ := exists_frame (mem_children_of_childAt? hc)
    exact ⟨f :: d, rfl, rfl⟩

/-- A node that is found at keys is at or below the node searched. -/
theorem mem_ids_of_at? (h : n.at? keys = some m) : m.id ∈ n.ids := by
  obtain ⟨d, rfl, -⟩ := exists_fill_of_at? h
  exact Context.mem_ids_fill.2 (.inr m.id_mem_ids)

/-- In a node with distinct names every node below is found at some keys. -/
theorem exists_at? (hn : n.toJson.Distinct) (h : m ∈ n :: n.descendants) :
    ∃ keys, n.at? keys = some m := by
  obtain ⟨d, rfl⟩ := exists_fill_of_mem h
  exact ⟨Context.keys d, Context.at?_fill hn⟩

theorem mem_of_find? (h : n.find? id = some m) : m ∈ n :: n.descendants :=
  List.mem_of_find?_eq_some h

/-- The steps down to a node have the keys at which it is found. -/
theorem trail?_of_at? (hn : n.ids.Nodup) (h : n.at? keys = some m) :
    ∃ steps, n.trail? m.id = some steps ∧ steps.map Step.key = keys := by
  obtain ⟨d, rfl, rfl⟩ := exists_fill_of_at? h
  refine ⟨Context.steps d m, ?_, Context.map_key_steps d m⟩
  rw [Context.trail?_fill (Context.notMem_ids_of_nodup hn m.id_mem_ids), trail?_self]
  simp

/-! ### Erasing -/

/-- The nodes that are left after erasing are nodes that were there, without what was erased below
them. -/
theorem exists_of_mem_erase (h : m ∈ n.erase id :: (n.erase id).descendants) :
    ∃ m₀ ∈ n :: n.descendants, m = m₀.erase id := by
  induction n using induction_children with
  | step n ih =>
    rcases List.mem_cons.1 h with rfl | hm
    · exact ⟨n, List.mem_cons_self .., rfl⟩
    · rw [descendants_eq, List.mem_flatMap, erase_eq, childNodes_mapChildren] at hm
      obtain ⟨c', hc', hm⟩ := hm
      obtain ⟨c, hc, rfl⟩ := List.mem_map.1 hc'
      rw [childNodes_dropChild] at hc
      have hc₀ := List.mem_of_mem_filter hc
      obtain ⟨m₀, hm₀, rfl⟩ := ih c hc₀ hm
      refine ⟨m₀, List.mem_cons_of_mem n ?_, rfl⟩
      rw [descendants_eq, List.mem_flatMap]
      exact ⟨c, hc₀, hm₀⟩

theorem ids_erase_subset (id : NodeId) (n : Node) : (n.erase id).ids ⊆ n.ids := by
  intro i hi
  obtain ⟨m, hm, rfl⟩ := mem_ids_iff_eq_or_mem_descendants.1 hi
  obtain ⟨m₀, hm₀, rfl⟩ := exists_of_mem_erase hm
  exact mem_ids_iff_eq_or_mem_descendants.2 ⟨m₀, hm₀, (id_erase id m₀).symm⟩

/-- A handle that is gone after erasing was below a node that was erased. -/
theorem exists_of_notMem_erase {i : NodeId} (hroot : n.id ≠ id) (hi : i ∈ n.ids)
    (hgone : i ∉ (n.erase id).ids) : ∃ m ∈ n :: n.descendants, m.id = id ∧ i ∈ m.ids := by
  induction n using induction_children with
  | step n ih =>
    rcases mem_ids.1 hi with rfl | ⟨c, hc, hic⟩
    · exact absurd (id_erase id n ▸ id_mem_ids _) hgone
    · have hbelow : ∃ m ∈ c :: c.descendants, m.id = id ∧ i ∈ m.ids := by
        by_cases hid : c.id = id
        · exact ⟨c, List.mem_cons_self .., hid, hic⟩
        · refine ih c hc hid hic fun hmem ↦ hgone (ids_subset_of_mem_childNodes ?_ hmem)
          rw [erase_eq, childNodes_mapChildren, childNodes_dropChild]
          exact List.mem_map_of_mem (List.mem_filter.2 ⟨hc, decide_eq_true hid⟩)
      obtain ⟨m, hm, hmid, him⟩ := hbelow
      refine ⟨m, List.mem_cons_of_mem n ?_, hmid, him⟩
      rw [descendants_eq, List.mem_flatMap]
      exact ⟨c, hc, hm⟩

end Node

end DocPath

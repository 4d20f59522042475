import DocPath.Proofs.Node.Apart

/-!
# Above and below

A node is below another one if it is one of its descendants. Where no handle is repeated, the nodes
above one node are above each other (`eq_or_below`), every node below has one parent
(`mem_of_childNodes`), and the descendants are listed so that no node comes after one below it
(`pairwise_descendants`, `pairwise_edges`).

A list of nodes from several places can name a node twice. It is `TopDown` if no node comes for the
first time after one below it.
-/

namespace DocPath

/-- A property that one element of a list alone has filters that element. -/
theorem filter_eq_singleton {α : Type} {l : List α} {a : α} {p : α → Bool} (hl : l.Nodup)
    (ha : a ∈ l) (hp : ∀ b ∈ l, p b ↔ b = a) : l.filter p = [a] := by
  refine List.perm_singleton.1
    ((List.perm_ext_iff_of_nodup (hl.filter p) (List.nodup_singleton a)).2 fun b ↦ ?_)
  rw [List.mem_filter, List.mem_singleton]
  exact ⟨fun h ↦ (hp b h.1).1 h.2, fun h ↦ h ▸ ⟨ha, (hp a ha).2 rfl⟩⟩

namespace Node

variable {n m a b c d x y : Node} {i : NodeId}

/-! ### Handles below -/

theorem map_id_sublist (nodes : List Node) : (nodes.map id).Sublist (nodes.flatMap ids) := by
  induction nodes with
  | nil => exact .refl _
  | cons n rest ih =>
    rw [List.map_cons, List.flatMap_cons, ids_eq, List.cons_append]
    exact .cons_cons _ (ih.trans (List.sublist_append_right ..))

/-- Without repetitions among all handles there are none among those of the children. -/
theorem nodup_map_id_childNodes (hn : n.ids.Nodup) : (n.childNodes.map id).Nodup := by
  rw [ids_eq] at hn
  exact (List.nodup_cons.1 hn).2.sublist (map_id_sublist _)

theorem id_mem_ids_of_mem (h : m ∈ n :: n.descendants) : m.id ∈ n.ids :=
  mem_ids_iff_eq_or_mem_descendants.2 ⟨m, h, rfl⟩

theorem nodup_of_mem (hn : n.ids.Nodup) (h : m ∈ n :: n.descendants) : m.ids.Nodup := by
  obtain ⟨d, rfl⟩ := exists_fill_of_mem h
  exact Context.nodup_of_nodup_fill hn

theorem nodup_of_mem_childNodes (hn : n.ids.Nodup) (hc : c ∈ n.childNodes) : c.ids.Nodup :=
  nodup_of_mem hn (List.mem_cons_of_mem n (mem_descendants_of_mem_childNodes hc))

/-- A node has one handle. -/
theorem eq_of_id_eq (hn : n.ids.Nodup) (ha : a ∈ n :: n.descendants) (hb : b ∈ n :: n.descendants)
    (hid : a.id = b.id) : a = b := by
  have hnodup : ((n :: n.descendants).map id).Nodup := hn
  exact List.inj_on_of_nodup_map hnodup ha hb hid

/-- No node is below itself. -/
theorem notMem_descendants (hn : n.ids.Nodup) : n ∉ n.descendants :=
  fun h ↦ (List.nodup_cons.1 hn).1 (List.mem_map_of_mem h)

/-- Every node is found by its handle. -/
theorem find?_of_mem (hn : n.ids.Nodup) (h : m ∈ n :: n.descendants) : n.find? m.id = some m := by
  obtain ⟨d, rfl⟩ := exists_fill_of_mem h
  rw [Context.find?_fill (Context.notMem_ids_of_nodup hn m.id_mem_ids), find?_self]

/-- A handle is below one child only. -/
theorem eq_of_mem_ids_childNodes (hn : n.ids.Nodup) (hc : c ∈ n.childNodes) (hd : d ∈ n.childNodes)
    (hid : i ∈ c.ids) (hid' : i ∈ d.ids) : c = d := by
  obtain ⟨key, hkey⟩ := mem_childNodes.1 hc
  obtain ⟨f, rfl, -⟩ := exists_frame hkey
  obtain ⟨before, after, hclose, hfill⟩ := f.childNodes_fill
  by_contra hne
  have hd' : d ∈ f.close.childNodes := by
    rw [hfill, List.mem_append, List.mem_cons] at hd
    rw [← hclose, List.mem_append]
    exact hd.imp_right fun h ↦ h.resolve_left (Ne.symm hne)
  have hdisjoint := List.disjoint_of_nodup_append ((f.ids_fill c).nodup_iff.1 hn)
  exact hdisjoint (ids_subset_of_mem_childNodes hd' hid') hid

/-! ### Parents -/

/-- Of two nodes above one node one is below the other, or they are the same. -/
theorem eq_or_below (hn : n.ids.Nodup) (ha : a ∈ n :: n.descendants) (hb : b ∈ n :: n.descendants)
    (hma : m ∈ a.descendants) (hmb : m ∈ b.descendants) :
    a = b ∨ a ∈ b.descendants ∨ b ∈ a.descendants := by
  induction n using induction_children with
  | step n ih =>
    rcases List.mem_cons.1 ha with rfl | ha
    · exact (List.mem_cons.1 hb).imp Eq.symm .inr
    rcases List.mem_cons.1 hb with rfl | hb
    · exact .inr (.inl ha)
    -- both are at or below a child, and it is the same child since `m` is below it
    rw [descendants_eq, List.mem_flatMap] at ha hb
    obtain ⟨c, hc, ha⟩ := ha
    obtain ⟨d, hd, hb⟩ := hb
    have hmc := id_mem_ids_of_mem (List.mem_cons_of_mem c (descendants_subset_of_mem ha hma))
    have hmd := id_mem_ids_of_mem (List.mem_cons_of_mem d (descendants_subset_of_mem hb hmb))
    obtain rfl := eq_of_mem_ids_childNodes hn hc hd hmc hmd
    exact ih c hc (nodup_of_mem_childNodes hn hc) ha hb

/-- The parent of a node below another one is that one or below it. -/
theorem mem_of_childNodes (hn : n.ids.Nodup) (hy : y ∈ n :: n.descendants)
    (hx : x ∈ n :: n.descendants) (hm : m ∈ y.childNodes) (hmx : m ∈ x.descendants) :
    y ∈ x :: x.descendants := by
  rcases eq_or_below hn hy hx (mem_descendants_of_mem_childNodes hm) hmx with rfl | hyx | hxy
  · exact List.mem_cons_self ..
  · exact List.mem_cons_of_mem x hyx
  · -- then `m` would be a child of `y` and below another one
    have hny := nodup_of_mem hn hy
    rw [descendants_eq, List.mem_flatMap] at hxy
    obtain ⟨c, hc, hxc⟩ := hxy
    have hmc := descendants_subset_of_mem hxc hmx
    obtain rfl := eq_of_mem_ids_childNodes hny hm hc m.id_mem_ids
      (id_mem_ids_of_mem (List.mem_cons_of_mem c hmc))
    exact absurd hmc (notMem_descendants (nodup_of_mem_childNodes hny hm))

/-- A node below another one has one parent. -/
theorem eq_of_mem_childNodes {a b c : Node} (hn : n.ids.Nodup) (ha : a ∈ n :: n.descendants)
    (hb : b ∈ n :: n.descendants) (hca : c ∈ a.childNodes) (hcb : c ∈ b.childNodes) : a = b := by
  have hab := mem_of_childNodes hn ha hb hca (mem_descendants_of_mem_childNodes hcb)
  have hba := mem_of_childNodes hn hb ha hcb (mem_descendants_of_mem_childNodes hca)
  rcases List.mem_cons.1 hab with rfl | hab
  · rfl
  rcases List.mem_cons.1 hba with rfl | hba
  · rfl
  · exact absurd (descendants_subset_of_mem (List.mem_cons_of_mem a hba) hab)
      (notMem_descendants (nodup_of_mem hn ha))

/-- Among the children of all nodes at or below another one there is none twice. -/
theorem nodup_flatMap_childNodes (hn : n.ids.Nodup) :
    ((n :: n.descendants).flatMap fun m ↦ m.childNodes.map id).Nodup := by
  have hdistinct : (n :: n.descendants).Pairwise fun a b ↦ a.id ≠ b.id := List.pairwise_map.1 hn
  refine List.nodup_flatMap.2 ⟨fun m hm ↦ nodup_map_id_childNodes (nodup_of_mem hn hm), ?_⟩
  refine hdistinct.imp_of_mem fun {a b} ha hb hne i hia hib ↦ hne ?_
  obtain ⟨c, hc, rfl⟩ := List.mem_map.1 hia
  obtain ⟨d, hd, hid⟩ := List.mem_map.1 hib
  have hbelow : ∀ {m}, m ∈ n :: n.descendants → m.childNodes ⊆ n :: n.descendants :=
    fun hm _ hc ↦ List.mem_cons_of_mem n
      (descendants_subset_of_mem hm (mem_descendants_of_mem_childNodes hc))
  obtain rfl := eq_of_id_eq hn (hbelow hb hd) (hbelow ha hc) hid
  rw [eq_of_mem_childNodes hn ha hb hc hd]

/-- There is nothing between a node and its children. -/
theorem notMem_descendants_of_mem_childNodes (hx : x.ids.Nodup) (hm : m ∈ x.childNodes)
    (ha : a ∈ x.descendants) : m ∉ a.descendants := by
  intro hma
  have hxa := mem_of_childNodes hx (List.mem_cons_self ..) (List.mem_cons_of_mem x ha) hm hma
  rcases List.mem_cons.1 hxa with rfl | hxa
  · exact notMem_descendants hx ha
  · exact notMem_descendants hx (descendants_subset_of_mem (List.mem_cons_of_mem x ha) hxa)

/-- The containers above the place of a context are nodes above its filling. -/
theorem Context.exists_of_mem_spine {c : Context} (h : i ∈ spine c) :
    ∃ x ∈ fill c m :: (fill c m).descendants, x.id = i ∧ m ∈ x.descendants := by
  obtain ⟨f, hf, rfl⟩ := List.mem_map.1 h
  obtain ⟨d, e, rfl⟩ := List.append_of_mem hf
  refine ⟨fill (f :: e) m, ?_, f.id_fill _, ?_⟩
  · rw [fill_append]
    exact mem_fill d _
  · rw [descendants_eq, List.mem_flatMap]
    exact ⟨fill e m, mem_childNodes.2 ⟨f.key, f.key_mem_children_fill _⟩, mem_fill e m⟩

/-! ### The order of descendants -/

theorem child_mem_childNodes {e : Edge} (h : e ∈ n.childEdges) : e.child ∈ n.childNodes := by
  obtain ⟨child, hmem, rfl⟩ := List.mem_map.1 h
  exact mem_childNodes.2 ⟨child.1, hmem⟩

theorem child_mem_descendants {e : Edge} (h : e ∈ n.edges) : e.child ∈ n.descendants :=
  List.mem_map_of_mem h

theorem edges_subset_of_mem (h : m ∈ n :: n.descendants) : m.edges ⊆ n.edges := by
  induction n using induction_children with
  | step n ih =>
    rcases List.mem_cons.1 h with rfl | h
    · exact List.Subset.refl _
    · rw [descendants_eq, List.mem_flatMap] at h
      obtain ⟨c, hc, hm⟩ := h
      obtain ⟨key, hkey⟩ := mem_childNodes.1 hc
      intro e he
      rw [edges_eq, List.mem_flatMap]
      exact ⟨⟨n.children.length, key, c⟩, List.mem_map_of_mem hkey,
        List.mem_cons_of_mem _ (ih c hc hm he)⟩

theorem childEdges_subset (n : Node) : n.childEdges ⊆ n.edges := by
  intro e he
  rw [edges_eq, List.mem_flatMap]
  exact ⟨e, he, List.mem_cons_self ..⟩

/-- Every edge below a node leads to a child of that node or of one below it. -/
theorem exists_of_mem_edges {e : Edge} (h : e ∈ n.edges) :
    ∃ m ∈ n :: n.descendants, e ∈ m.childEdges := by
  induction n using induction_children with
  | step n ih =>
    rw [edges_eq, List.mem_flatMap] at h
    obtain ⟨e', he', h⟩ := h
    rcases List.mem_cons.1 h with rfl | h
    · exact ⟨n, List.mem_cons_self .., he'⟩
    · have hc := child_mem_childNodes he'
      obtain ⟨m, hm, he⟩ := ih e'.child hc h
      refine ⟨m, List.mem_cons_of_mem n ?_, he⟩
      rw [descendants_eq, List.mem_flatMap]
      exact ⟨e'.child, hc, hm⟩

/-- No edge comes after one below it. -/
theorem pairwise_edges (hn : n.ids.Nodup) :
    n.edges.Pairwise fun e e' ↦ e.child ∉ e'.child.descendants := by
  induction n using induction_children with
  | step n ih =>
    have hbelow : ∀ {e e' : Edge}, e' ∈ e :: e.child.edges →
        e'.child ∈ e.child :: e.child.descendants := fun h ↦
      (List.mem_cons.1 h).elim (fun heq ↦ heq ▸ List.mem_cons_self ..)
        fun h ↦ List.mem_cons_of_mem _ (child_mem_descendants h)
    rw [edges_eq, List.pairwise_flatMap]
    refine ⟨fun e he ↦ ?_, ?_⟩
    · have hnodup := nodup_of_mem_childNodes hn (child_mem_childNodes he)
      refine List.pairwise_cons.2 ⟨fun e' he' hmem ↦ ?_, ih e.child (child_mem_childNodes he) hnodup⟩
      exact notMem_descendants hnodup (descendants_subset_of_mem
        (List.mem_cons_of_mem _ (child_mem_descendants he')) hmem)
    · -- edges below different children share no handle
      have hdistinct : n.childEdges.Pairwise fun e e' ↦ e.child.id ≠ e'.child.id := by
        have hids := nodup_map_id_childNodes hn
        rw [childNodes, List.map_map] at hids
        rw [childEdges, List.pairwise_map]
        exact List.pairwise_map.1 hids
      refine hdistinct.imp_of_mem fun he he' hne x hx y hy hmem ↦ hne ?_
      have hxe := id_mem_ids_of_mem (hbelow hx)
      have hxe' := id_mem_ids_of_mem (List.mem_cons_of_mem _ (descendants_subset_of_mem
        (hbelow hy) hmem))
      rw [eq_of_mem_ids_childNodes hn (child_mem_childNodes he) (child_mem_childNodes he') hxe hxe']

/-- No child is below another one. -/
theorem pairwise_childEdges (hn : n.ids.Nodup) :
    n.childEdges.Pairwise fun e e' ↦ e.child ∉ e'.child.descendants :=
  List.pairwise_of_forall_mem_list fun _ he _ he' ↦
    notMem_descendants_of_mem_childNodes hn (child_mem_childNodes he)
      (mem_descendants_of_mem_childNodes (child_mem_childNodes he'))

/-- No node comes after one below it. -/
theorem pairwise_descendants (hn : n.ids.Nodup) :
    (n :: n.descendants).Pairwise fun a b ↦ a ∉ b.descendants := by
  refine List.pairwise_cons.2 ⟨fun b hb h ↦ ?_, List.pairwise_map.2 (pairwise_edges hn)⟩
  exact notMem_descendants hn (descendants_subset_of_mem (List.mem_cons_of_mem n hb) h)

/-! ### Lists with repetitions -/

/-- A node that comes after one below it has come before that one too. -/
def TopDown (ns : List Node) : Prop :=
  ∀ before a after, ns = before ++ a :: after → ∀ m ∈ before, m ∈ a.descendants → a ∈ before

theorem topDown_singleton (n : Node) : TopDown [n] := by
  intro before a after hsplit m hm
  obtain ⟨rfl, -⟩ | ⟨-, hnil⟩ := List.append_eq_singleton_iff.1 hsplit.symm
  · cases hm
  · cases hnil

theorem TopDown.of_append {ns rest : List Node} (h : TopDown (ns ++ rest)) : TopDown ns :=
  fun before a after hsplit ↦
    h before a (after ++ rest) (by rw [hsplit, List.append_assoc, List.cons_append])

end Node

end DocPath

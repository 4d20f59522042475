import DocPath.Proofs.Tree.Kill

/-!
# Exchanging a node

Changes in the middle of a tree exchange a node for another one with its handle (`Exchanged`). Every
node that was not below it is still there, with the exchange made inside it
(`Exchanged.node?_of_notMem`). So it has the children that it had, unless it is the exchanged one,
the value that it had, unless it is above, and the place that it had (`Exchanged.samePlace`).

A place is what the children of the parent say of a node, and so nodes with a parent whose children
are listed as before have the same place (`Sound.samePlace_of_listing`).
-/

namespace DocPath

namespace Node

variable {n new m : Node} {id : NodeId}

/-- What is not below the exchanged node is still there, with the exchange made inside it. -/
theorem mem_replace (hm : m ∈ n :: n.descendants)
    (hbelow : ∀ x ∈ n :: n.descendants, x.id = id → m ∉ x.descendants) :
    replace id new m ∈ replace id new n :: (replace id new n).descendants := by
  induction n using induction_children with
  | step n ih =>
    rcases List.mem_cons.1 hm with rfl | hmem
    · exact List.mem_cons_self
    · have hne : n.id ≠ id := fun heq ↦ hbelow n List.mem_cons_self heq hmem
      rw [descendants_eq, List.mem_flatMap] at hmem
      obtain ⟨c, hc, hmem⟩ := hmem
      have hin : ∀ x ∈ c :: c.descendants, x ∈ n :: n.descendants := fun x hx ↦ by
        rw [descendants_eq n]
        exact List.mem_cons_of_mem n (List.mem_flatMap.2 ⟨c, hc, hx⟩)
      have hstep := ih c hc hmem fun x hx ↦ hbelow x (hin x hx)
      rw [replace_of_ne new hne, descendants_eq, childNodes_mapChildren, List.flatMap_map]
      exact List.mem_cons_of_mem _ (List.mem_flatMap.2 ⟨c, hc, hstep⟩)

/-- Below a node that is not exchanged itself the children keep their keys and handles. -/
theorem listing_replace_of_ne (hid : new.id = id) (hne : n.id ≠ id) :
    (replace id new n).listing = n.listing := by
  rw [replace_of_ne new hne, listing, listing, children_mapChildren, List.map_map]
  refine List.map_congr_left fun child _ ↦ ?_
  rw [Function.comp_apply, id_replace hid]

theorem kind_replace_of_ne (hne : n.id ≠ id) : (replace id new n).kind = n.kind := by
  rw [replace_of_ne new hne, kind_mapChildren]

end Node

namespace Tree

variable {t t' : Tree} {id i p : NodeId} {n m old new : Node} {key : Key}

/-! ### Places -/

/-- A node has the parent, the key and the position that it had. -/
structure SamePlace (t t' : Tree) (id : NodeId) : Prop where
  parent? : t'.parent? id = t.parent? id
  key? : t'.key? id = t.key? id
  index? : t'.index? id = t.index? id

/-- Nodes without steps down to them have the same place, which is none. -/
theorem samePlace_of_trail_eq_nil (h : t.trail id = []) (h' : t'.trail id = []) :
    t.SamePlace t' id := by
  have hlast : t'.lastStep? id = t.lastStep? id := by rw [lastStep?, lastStep?, h, h']
  constructor
  · rw [Tree.parent?, Tree.parent?, hlast]
  · rw [Tree.key?, Tree.key?, hlast]
  · rw [Tree.index?, Tree.index?, hlast]

namespace Sound

/-- The children of a node are listed with the keys that they have. -/
theorem mem_listing_iff (h : t.Sound) :
    (key, i) ∈ t.listing p ↔ t.parent? i = some p ∧ t.key? i = some key := by
  constructor
  · intro hmem
    obtain ⟨⟨k, d⟩, hd, heq⟩ := List.mem_map.1 hmem
    obtain ⟨rfl, rfl⟩ := Prod.mk.inj heq
    cases hn : t.node? p with
    | none =>
      rw [view, hn] at hd
      cases hd
    | some n =>
      rw [view_of_node? hn] at hd
      exact ⟨h.parent?_child hn hd, h.key?_child hn hd⟩
  · rintro ⟨hp, hkey⟩
    obtain ⟨n, k, d, hn, hd, rfl⟩ := h.exists_of_parent? hp
    rw [h.key?_child hn hd, Option.some.injEq] at hkey
    rw [listing_of_node? hn, ← hkey]
    exact List.mem_map_of_mem (f := fun child ↦ (child.1, child.2.id)) hd

theorem index?_eq_findIdx? (h : t.Sound) (hp : t.parent? i = some p) :
    t.index? i = (t.listing p).findIdx? fun child ↦ child.2 = i := by
  obtain ⟨n, k, d, hn, hd, rfl⟩ := h.exists_of_parent? hp
  rw [Tree.index?, lastStep?, h.trail_child hn hd, List.getLast?_concat, Option.bind_some,
    listing_of_node? hn, Node.listing, List.findIdx?_map]
  rfl

/-- A node has its place among the children of its parent. -/
theorem samePlace_of_listing (h : t.Sound) (h' : t'.Sound) (hp : t.parent? i = some p)
    (hlisting : t'.listing p = t.listing p) : t.SamePlace t' i := by
  obtain ⟨n, k, d, hn, hd, rfl⟩ := h.exists_of_parent? hp
  have hkey := h.key?_child hn hd
  have hplace := h'.mem_listing_iff.1 (hlisting ▸ h.mem_listing_iff.2 ⟨hp, hkey⟩)
  refine ⟨hplace.1.trans hp.symm, hplace.2.trans hkey.symm, ?_⟩
  rw [h'.index?_eq_findIdx? hplace.1, h.index?_eq_findIdx? hp, hlisting]

theorem mem_tops_of_parent?_eq_none (h : t.Sound) (hn : t.node? i = some n)
    (hp : t.parent? i = none) : n ∈ t.tops := by
  obtain rfl := id_of_node? hn
  obtain ⟨before, c, after, hsplit, -⟩ := h.split hn
  rcases List.eq_nil_or_concat c with rfl | ⟨c, f, rfl⟩
  · simp [hsplit, Node.Context.fill]
  · rw [List.concat_eq_append, Node.Context.fill_append] at hsplit
    have hparent := h.parent?_child (h.node?_split hsplit) (f.key_mem_children_fill n)
    rw [hp] at hparent
    cases hparent

end Sound

/-! ### Exchanges -/

/-- Two trees with the same nodes, but one node of the first has been exchanged for another one with
its handle. -/
structure Exchanged (t t' : Tree) (old new : Node) : Prop where
  node? : t.node? old.id = some old
  id_eq : new.id = old.id
  tops : t'.tops = t.tops.map (Node.replace old.id new)
  sound : t.Sound
  sound' : t'.Sound

namespace Exchanged

variable (h : t.Exchanged t' old new)

include h

/-- The handles that are not at or below the exchanged node stay live. -/
theorem exists_perm :
    ∃ others, t.ids.Perm (old.ids ++ others) ∧ t'.ids.Perm (new.ids ++ others) := by
  obtain ⟨others, hids, hids'⟩ := h.sound.ids_replace h.node? new
  rw [← h.tops] at hids'
  exact ⟨others, hids, hids'⟩

theorem node?_self : t'.node? old.id = some new := by
  obtain ⟨before, c, after, -, hsplit⟩ := h.sound.split_replace h.node? new
  rw [← h.tops] at hsplit
  rw [← h.id_eq, h.sound'.node?_split hsplit]

/-- A node that is not below the exchanged one is still there, with the exchange made inside it. -/
theorem node?_of_notMem (hm : t.node? i = some m) (hi : i ∉ old.descendants.map Node.id) :
    t'.node? i = some (Node.replace old.id new m) := by
  obtain rfl := id_of_node? hm
  obtain ⟨top, htop, hfind⟩ := List.exists_of_findSome?_eq_some hm
  have hlive := h.sound.node?_of_mem_tops htop
  have hmem : Node.replace old.id new m ∈
      Node.replace old.id new top :: (Node.replace old.id new top).descendants := by
    refine Node.mem_replace (Node.mem_of_find? hfind) fun x hx hxid hbelow ↦ hi ?_
    have hxold := h.sound.node?_of_mem hlive hx
    rw [hxid, h.node?, Option.some.injEq] at hxold
    exact hxold ▸ List.mem_map_of_mem hbelow
  have htop' : Node.replace old.id new top ∈ t'.tops := h.tops ▸ List.mem_map_of_mem htop
  have hnode := h.sound'.node?_of_mem (h.sound'.node?_of_mem_tops htop') hmem
  rwa [Node.id_replace h.id_eq] at hnode

/-- A node that is neither at, nor above, nor below the exchanged one is as it was. -/
theorem node?_eq (hi : i ∉ old.descendants.map Node.id) (hne : i ≠ old.id)
    (habove : i ∉ t.ancestors old.id) (hm : t.node? i = some m) : t'.node? i = some m := by
  have hold : old.id ∉ m.ids := fun hmem ↦
    (h.sound.eq_or_mem_ancestors hm hmem).elim hne habove
  rw [h.node?_of_notMem hm hi, Node.replace_of_notMem new hold]

theorem listing_eq (hm : t.node? i = some m) (hi : i ∉ old.descendants.map Node.id)
    (hne : i ≠ old.id) : t'.listing i = t.listing i := by
  have hmne : m.id ≠ old.id := id_of_node? hm ▸ hne
  rw [listing_of_node? (h.node?_of_notMem hm hi), listing_of_node? hm]
  exact Node.listing_replace_of_ne h.id_eq hmne

theorem kind?_eq (hm : t.node? i = some m) (hi : i ∉ old.descendants.map Node.id)
    (hne : i ≠ old.id) : t'.kind? i = t.kind? i := by
  have hmne : m.id ≠ old.id := id_of_node? hm ▸ hne
  rw [kind?_of_node? (h.node?_of_notMem hm hi), kind?_of_node? hm, Node.kind_replace_of_ne hmne]

/-- Whatever is not below the exchanged node keeps its place. -/
theorem samePlace (hm : t.node? i = some m) (hi : i ∉ old.descendants.map Node.id) :
    t.SamePlace t' i := by
  cases hp : t.parent? i with
  | none =>
    have htop := h.sound.mem_tops_of_parent?_eq_none hm hp
    have htop' : Node.replace old.id new m ∈ t'.tops := h.tops ▸ List.mem_map_of_mem htop
    have hnil := h.sound.trail_of_mem_tops htop
    have hnil' := h.sound'.trail_of_mem_tops htop'
    rw [Node.id_replace h.id_eq] at hnil'
    rw [id_of_node? hm] at hnil hnil'
    exact samePlace_of_trail_eq_nil hnil hnil'
  | some p =>
    -- the parent is neither the exchanged node nor below it, so its children are listed as before
    have hpold : p ∉ old.ids := fun hmem ↦
      hi (h.sound.mem_descendants_of_parent? h.node? hp hmem)
    rw [Node.ids, List.mem_cons, not_or] at hpold
    obtain ⟨parent, hparent, -⟩ := h.sound.parent?_eq_some_iff.1 hp
    exact h.sound.samePlace_of_listing h.sound' hp (h.listing_eq hparent hpold.2 hpold.1)

/-- A handle that was live before is one of the new node only if it is at or below the old one. -/
theorem mem_ids_old (hi : i ∈ t.ids) (hnew : i ∈ new.ids) : i ∈ old.ids := by
  obtain ⟨others, hids, hids'⟩ := h.exists_perm
  refine (List.mem_append.1 (hids.mem_iff.1 hi)).resolve_right fun hothers ↦ ?_
  exact List.disjoint_of_nodup_append (hids'.nodup_iff.1 h.sound'.handles.nodup) hnew hothers

end Exchanged

end Tree

end DocPath

import DocPath.Proofs.Tree.Exchange
import Mathlib.Data.List.Flatten

/-!
# Finding one's way in a tree

From a handle one can go down, by listing what is below it, and up, along the chain of parents. In a
sound tree the two fit together: what is below a node is what has it above, the list of what is below
a node goes through the children in order and lists each right before all that is below that child,
and a node and its entry among the children of its parent name each other.

All that is said of the order of a list of descendants comes from one fact: the descendants of a node
in the list stand right behind it (`Node.infix_descendants`). That going up is the inverse of going
down is an induction along the chain of parents, which ends in every sound tree.

A key leads back to its node if it is in range. Only a position can be out of range, and only where
there are more slots than any machine has room for (`Sound.inRange_of_mem_listing`).

* `Entry` — the place of a node among the children of its parent
* `Sound.mem_descendants_iff` — below is the inverse of above
* `Sound.exists_entry` — a node with a parent has an entry there
-/

namespace DocPath

/-- Where a function repeats no value on a list, it tells an element from all others. -/
theorem ne_of_nodup_middle {α β : Type} {f : α → β} {before after : List α} {a : α}
    (h : ((before ++ a :: after).map f).Nodup) : ∀ b ∈ before ++ after, f b ≠ f a := by
  rw [List.map_append, List.map_cons, List.nodup_middle, List.nodup_cons, ← List.map_append] at h
  exact fun b hb heq ↦ h.1 (List.mem_map.2 ⟨b, hb, heq⟩)

namespace Node

variable {n m c : Node}

/-- Among the nodes below another one, each stands right before those that are below it. -/
theorem infix_descendants (h : m ∈ n.descendants) : m :: m.descendants <:+: n.descendants := by
  induction n using induction_children with
  | step n ih =>
    rw [descendants_eq, List.mem_flatMap] at h
    obtain ⟨c, hc, hm⟩ := h
    have hchild : c :: c.descendants <:+: n.descendants := by
      rw [descendants_eq n]
      exact List.infix_flatMap_of_mem hc fun c ↦ c :: c.descendants
    rcases List.mem_cons.1 hm with rfl | hm
    · exact hchild
    · exact (ih c hc hm).trans ((List.suffix_cons c _).isInfix.trans hchild)

theorem lt_length_of_mem_children {k : Nat} (h : (Key.index k, c) ∈ n.children) :
    k < n.children.length := by
  have hmem : Key.index k ∈ n.children.map Prod.fst := List.mem_map_of_mem h
  rw [map_fst_children_of_sequence (container_of_mem_children h).symm] at hmem
  obtain ⟨k', hk, heq⟩ := List.mem_map.1 hmem
  rw [← Key.index.inj heq]
  exact List.mem_range.1 hk

/-- No two children have one key. -/
theorem nodup_map_fst_children (hn : n.toJson.Distinct) : (n.children.map Prod.fst).Nodup := by
  cases n with
  | scalar i s => exact List.nodup_nil
  | sequence i items =>
    rw [map_fst_children_of_sequence rfl]
    exact List.nodup_range.map fun _ _ ↦ Key.index.inj
  | map i entries =>
    rw [toJson_map, Json.distinct_object, List.map_map] at hn
    have hnames : (entries.map Prod.fst).Nodup := hn.1
    have hkeys : (map i entries).children.map Prod.fst = (entries.map Prod.fst).map Key.name := by
      simp [children]
    rw [hkeys]
    exact hnames.map fun _ _ ↦ Key.name.inj

end Node

namespace Tree

variable {t : Tree} {id i p a b x y : NodeId} {n d : Node} {key : Key}

/-- The children of a node split at the entry of one of them. -/
structure Entry (t : Tree) (p d : NodeId) (key : Key) (before after : List (Key × NodeId)) :
    Prop where
  listing : t.listing p = before ++ (key, d) :: after
  /-- The entry shares neither its key nor its node with another one. -/
  only : ∀ entry ∈ before ++ after, entry.1 ≠ key ∧ entry.2 ≠ d
  key? : t.key? d = some key
  index? : t.index? d = some before.length
  child? : key.InRange → ∀ exact, t.child? p key exact = some d
  siblings : t.siblings d = (before ++ after).map Prod.snd

theorem ids_view (t : Tree) (id : NodeId) : (t.view id).ids = id :: t.descendants id := by
  rw [Node.ids, id_view, descendants]

/-- Handles that are not live have nothing below them. -/
theorem node?_of_mem_descendants (hi : i ∈ t.descendants id) : t.node? id = some (t.view id) := by
  cases hn : t.node? id with
  | none =>
    rw [descendants, view, hn] at hi
    cases hi
  | some n => rw [view_of_node? hn]

namespace Sound

/-! ### Going down -/

theorem descendants_of_mem_view (h : t.Sound) (hd : d ∈ (t.view id).descendants) :
    t.descendants d.id = d.descendants.map Node.id := by
  rw [descendants, view_of_node? (h.node?_of_mem_view hd)]

theorem descendants_eq (h : t.Sound) (id : NodeId) :
    t.descendants id =
      ((t.listing id).map Prod.snd).flatMap fun child ↦ child :: t.descendants child := by
  have hbelow : ∀ c ∈ (t.view id).childNodes,
      (c :: c.descendants).map Node.id = c.id :: t.descendants c.id := by
    intro c hc
    rw [h.descendants_of_mem_view (Node.mem_descendants_of_mem_childNodes hc), List.map_cons]
  rw [descendants, Node.descendants_eq, List.map_flatMap, listing, Node.map_snd_listing,
    List.flatMap_map]
  exact List.flatMap_congr hbelow

theorem nodup_descendants (h : t.Sound) (id : NodeId) : (t.descendants id).Nodup := by
  have hnodup := h.nodup_ids_view id
  rw [ids_view] at hnodup
  exact (List.nodup_cons.1 hnodup).2

theorem infix_descendants (h : t.Sound) (hi : i ∈ t.descendants id) :
    i :: t.descendants i <:+: t.descendants id := by
  obtain ⟨d, hd, rfl⟩ := List.mem_map.1 hi
  rw [h.descendants_of_mem_view hd, descendants, ← List.map_cons]
  exact (Node.infix_descendants hd).map Node.id

theorem sublist_descendants (h : t.Sound) (hp : p ∈ id :: t.descendants id) :
    (t.descendants p).Sublist (t.descendants id) := by
  rcases List.mem_cons.1 hp with rfl | hp
  · exact .refl _
  · exact (List.sublist_cons_self p _).trans (h.infix_descendants hp).sublist

theorem before_below (h : t.Sound) (ha : a ∈ t.descendants id) (hb : b ∈ t.descendants a) :
    [a, b].Sublist (t.descendants id) := by
  have hhead : [a, b].Sublist (a :: t.descendants a) := (List.singleton_sublist.2 hb).cons_cons a
  exact hhead.trans (h.infix_descendants ha).sublist

theorem before_later (h : t.Sound) (hp : p ∈ id :: t.descendants id)
    (hab : [a, b].Sublist ((t.listing p).map Prod.snd)) (hx : x ∈ a :: t.descendants a)
    (hy : y ∈ b :: t.descendants b) : [x, y].Sublist (t.descendants id) := by
  have hpair : ([x] ++ [y]).Sublist ((a :: t.descendants a) ++ (b :: t.descendants b)) :=
    (List.singleton_sublist.2 hx).append (List.singleton_sublist.2 hy)
  have hchildren := hab.flatMap fun child ↦ child :: t.descendants child
  rw [← h.descendants_eq, List.flatMap_cons, List.flatMap_singleton] at hchildren
  exact (hpair.trans hchildren).trans (h.sublist_descendants hp)

/-! ### Going up -/

/-- What has its parent at or below a node is below the node. -/
theorem mem_descendants_of_mem (h : t.Sound) (hp : t.parent? i = some p)
    (hmem : p ∈ id :: t.descendants id) : i ∈ t.descendants id := by
  have hlive : t.node? id = some (t.view id) := by
    rcases List.mem_cons.1 hmem with rfl | hmem
    · obtain ⟨n, hn, -⟩ := h.parent?_eq_some_iff.1 hp
      rw [view_of_node? hn, hn]
    · exact node?_of_mem_descendants hmem
  rw [← ids_view] at hmem
  exact h.mem_descendants_of_parent? ((t.id_view id).symm ▸ hlive) hp hmem

theorem mem_descendants_iff (h : t.Sound) : i ∈ t.descendants id ↔ id ∈ t.ancestors i := by
  constructor
  · intro hi
    obtain ⟨d, hd, rfl⟩ := List.mem_map.1 hi
    exact h.mem_ancestors_of_mem_descendants (node?_of_mem_descendants hi) hd
  · -- the node is the parent, or above the parent, which is below it then
    induction i using h.wellFounded_parent.induction with
    | _ i ih =>
      rw [h.ancestors_eq i]
      split
      · rename_i parent hparent
        intro hid
        refine h.mem_descendants_of_mem hparent (List.mem_cons.2 ?_)
        exact (List.mem_cons.1 hid).imp Eq.symm (ih parent hparent)
      · exact fun hid ↦ absurd hid List.not_mem_nil

theorem notMem_ancestors (h : t.Sound) (id : NodeId) : id ∉ t.ancestors id := by
  intro hid
  have hself := h.mem_descendants_iff.2 hid
  -- then the descendants would be listed among themselves, right behind the node
  have hlength := (h.infix_descendants hself).length_le
  rw [List.length_cons] at hlength
  omega

theorem nodup_ancestors (h : t.Sound) (id : NodeId) : (t.ancestors id).Nodup := by
  induction id using h.wellFounded_parent.induction with
  | _ id ih =>
    rw [h.ancestors_eq id]
    split
    · rename_i parent hparent
      exact List.nodup_cons.2 ⟨h.notMem_ancestors parent, ih parent hparent⟩
    · exact List.nodup_nil

theorem rootOf_of_parent? (h : t.Sound) (hp : t.parent? id = some p) :
    t.rootOf id = t.rootOf p := by
  rw [rootOf_eq, rootOf_eq, h.ancestors_eq id, hp, List.getLast?_cons, Option.getD_some]

theorem rootOf_of_parent?_eq_none (h : t.Sound) (hp : t.parent? id = none) :
    t.rootOf id = id := by
  rw [rootOf_eq, h.ancestors_eq id, hp]
  rfl

theorem eq_rootOf_iff (h : t.Sound) :
    i ∈ id :: t.ancestors id ∧ t.parent? i = none ↔ i = t.rootOf id := by
  induction id using h.wellFounded_parent.induction with
  | _ id ih =>
    cases hp : t.parent? id with
    | none =>
      rw [h.rootOf_of_parent?_eq_none hp, h.ancestors_eq id, hp, List.mem_singleton]
      exact and_iff_left_of_imp fun hi ↦ hi ▸ hp
    | some parent =>
      rw [h.rootOf_of_parent? hp, ← ih parent hp, h.ancestors_eq id, hp, List.mem_cons]
      refine and_congr_left fun htop ↦ or_iff_right fun hi ↦ ?_
      rw [hi, hp] at htop
      cases htop

/-! ### Entries -/

theorem nodup_map_snd_listing (h : t.Sound) (p : NodeId) :
    ((t.listing p).map Prod.snd).Nodup := by
  rw [listing, Node.map_snd_listing]
  exact Node.nodup_map_id_childNodes (h.nodup_ids_view p)

theorem nodup_map_fst_listing (h : t.Sound) (p : NodeId) :
    ((t.listing p).map Prod.fst).Nodup := by
  rw [listing, Node.map_fst_listing]
  exact Node.nodup_map_fst_children (h.distinct_view p)

/-- A listed child is found by its key, exactly or not. -/
theorem child?_of_mem_listing (h : t.Sound) (hmem : (key, i) ∈ t.listing p) (hkey : key.InRange)
    (exact : Bool) : t.child? p key exact = some i := by
  obtain ⟨⟨key, c⟩, hc, heq⟩ := List.mem_map.1 hmem
  obtain ⟨rfl, rfl⟩ := Prod.mk.inj heq
  rw [child?, Node.child?_of_mem_children (h.distinct_view p) hc hkey, Option.map_some]

theorem siblings_eq (h : t.Sound) (hp : t.parent? i = some p) :
    t.siblings i = ((t.listing p).map Prod.snd).filter (· ≠ i) := by
  obtain ⟨n, key, d, hn, hd, rfl⟩ := h.exists_of_parent? hp
  rw [siblings, lastStep?, h.trail_child hn hd, List.getLast?_concat, listing_of_node? hn,
    Node.listing, List.map_map]
  rfl

theorem entry_of_split (h : t.Sound) {before after : List (Key × NodeId)}
    (hsplit : t.listing p = before ++ (key, i) :: after) : t.Entry p i key before after := by
  have hmem : (key, i) ∈ t.listing p := by simp [hsplit]
  obtain ⟨hparent, hkey⟩ := h.mem_listing_iff.1 hmem
  have hkeys := h.nodup_map_fst_listing p
  have hnodes := h.nodup_map_snd_listing p
  rw [hsplit] at hkeys hnodes
  have hothers := ne_of_nodup_middle hnodes
  refine ⟨hsplit, fun entry hentry ↦ ⟨ne_of_nodup_middle hkeys entry hentry, hothers entry hentry⟩,
    hkey, ?_, h.child?_of_mem_listing hmem, ?_⟩
  · have hnone : before.findIdx? (fun child ↦ child.2 = i) = none := by
      simpa using (List.forall_mem_append.1 hothers).1
    rw [h.index?_eq_findIdx? hparent, hsplit, List.findIdx?_append, hnone, List.findIdx?_cons,
      decide_eq_true rfl]
    simp
  · rw [h.siblings_eq hparent, hsplit, List.map_append, List.map_cons, List.filter_append,
      List.filter_cons_of_neg (by simp), ← List.filter_append, ← List.map_append,
      List.filter_eq_self, List.forall_mem_map]
    exact fun entry hentry ↦ decide_eq_true (hothers entry hentry)

theorem exists_entry (h : t.Sound) (hp : t.parent? i = some p) :
    ∃ key before after, t.Entry p i key before after := by
  obtain ⟨n, key, d, hn, hd, rfl⟩ := h.exists_of_parent? hp
  have hmem := h.mem_listing_iff.2 ⟨hp, h.key?_child hn hd⟩
  obtain ⟨before, after, hsplit⟩ := List.append_of_mem hmem
  exact ⟨key, before, after, h.entry_of_split hsplit⟩

/-- There are no more children than slots. -/
theorem length_listing_le (h : t.Sound) (p : NodeId) : (t.listing p).length ≤ t.slots.size := by
  have hlive : (t.listing p).map Prod.snd ⊆ t.ids := by
    intro i hi
    obtain ⟨entry, hentry, rfl⟩ := List.mem_map.1 hi
    obtain ⟨n, key, d, hn, hd, heq⟩ := h.exists_of_parent? (h.mem_listing_iff.1 hentry).1
    exact heq ▸ mem_ids_of_node? (h.node?_child hn hd).1
  have hchildren := (List.subperm_of_subset (h.nodup_map_snd_listing p) hlive).length_le
  have hslots := h.handles.perm.length_eq
  rw [List.length_map] at hchildren
  rw [List.length_append, List.length_map, List.length_range] at hslots
  omega

/-- Positions are below the number of children. -/
theorem inRange_of_mem_listing (h : t.Sound) (hsize : t.slots.size ≤ 0x8000000000000000)
    {entry : Key × NodeId} (hentry : entry ∈ t.listing p) : entry.1.InRange := by
  obtain ⟨⟨key, c⟩, hc, rfl⟩ := List.mem_map.1 hentry
  cases key with
  | name k => exact trivial
  | index k =>
    have hlt := Node.lt_length_of_mem_children hc
    have hle := h.length_listing_le p
    rw [listing, Node.length_listing] at hle
    show k < 0x8000000000000000
    omega

end Sound

end Tree

end DocPath

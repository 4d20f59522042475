import DocPath.Proofs.Tree.Reachable
import DocPath.Proofs.Tree.Stale

/-!
# Killing a node

A killed node goes with all that is below it, and nothing else goes. `Killed` says so handle by
handle: which handles are left, and what can be seen through those that are.

The operation finds its node by the handle. The node can also be found by keys: climb from it to the
top of what it belongs to, walk down from the root along the keys that were passed, by exact
lookups, and delete the child with the last key, which may be an equivalent one (`killByKeys`). This
comes to the node itself, and not to a sibling with an equivalent key, since in a sound tree the
names in a map are distinct and a node is found by the key that it is listed with
(`Sound.killByKeys_eq_kill`).

* `Sound.node?_remove` — the nodes that are left are the old ones, without the removed one
* `Sound.killed_remove` — what that means for handles
* `kill_exact` — when a kill succeeds, and what it does then
-/

namespace DocPath

namespace Node

variable {n : Node} {id : NodeId}

/-! ### Handles of children -/

/-- The children with their keys, as handles. -/
def listing (n : Node) : List (Key × NodeId) :=
  n.children.map fun child ↦ (child.1, child.2.id)

theorem map_snd_listing (n : Node) : n.listing.map Prod.snd = n.childNodes.map Node.id := by
  simp [listing, childNodes, Function.comp_def]

theorem map_fst_listing (n : Node) : n.listing.map Prod.fst = n.children.map Prod.fst := by
  simp [listing, Function.comp_def]

theorem length_listing (n : Node) : n.listing.length = n.children.length :=
  List.length_map _

@[simp] theorem kind_erase (id : NodeId) (n : Node) : (n.erase id).kind = n.kind := by
  cases n <;> rfl

/-- The children keep their order when one of them is erased. -/
theorem map_id_childNodes_erase (id : NodeId) (n : Node) :
    (n.erase id).childNodes.map Node.id = (n.childNodes.map Node.id).filter (· ≠ id) := by
  rw [erase_eq, childNodes_mapChildren, childNodes_dropChild, List.map_map, List.filter_map]
  simp [Function.comp_def]

theorem listing_erase_of_forall_ne (h : ∀ c ∈ n.childNodes, c.id ≠ id) :
    (n.erase id).listing = n.listing := by
  rw [erase_eq, dropChild_of_forall_ne h, listing, children_mapChildren, List.map_map]
  simp [listing, Function.comp_def]

/-- The children of a map keep their names when one of them is erased. -/
theorem listing_erase_of_map (h : n.kind = .map) :
    (n.erase id).listing = n.listing.filter (·.2 ≠ id) := by
  cases n with
  | map i entries =>
    simp [erase, listing, children, eraseEntries_eq, List.filter_map, Function.comp_def]
  | scalar i s => cases h
  | sequence i items => cases h

end Node

namespace Tree

open Node (Context Frame)

variable {t : Tree} {id i : NodeId} {n m : Node}

/-- The children at a handle with their keys. -/
def listing (t : Tree) (id : NodeId) : List (Key × NodeId) :=
  (t.view id).listing

theorem listing_of_node? (h : t.node? id = some n) : t.listing id = n.listing := by
  rw [listing, view_of_node? h]

/-- What is left of a tree after a node was killed. -/
structure Killed (t t' : Tree) (id : NodeId) : Prop where
  /-- The handles that are left are those of other nodes that are not below. -/
  contains : ∀ i, t'.contains i ↔ t.contains i ∧ i ≠ id ∧ i ∉ t.descendants id
  /-- What is not above the node has the value that it had. -/
  value : ∀ {i}, t'.contains i → i ∉ t.ancestors id → t'.value i = t.value i
  kind? : ∀ {i}, t'.contains i → t'.kind? i = t.kind? i
  parent? : ∀ {i}, t'.contains i → t'.parent? i = t.parent? i
  /-- What is not the parent of the node has the children that it had. -/
  listing : ∀ {i}, t'.contains i → t.parent? id ≠ some i → t'.listing i = t.listing i
  /-- The parent has the other children in their order, in a map under the names that they had, in
  a sequence under their positions now. -/
  siblings : ∃ parent, t.parent? id = some parent ∧ t'.contains parent ∧
    (t'.listing parent).map Prod.snd = ((t.listing parent).map Prod.snd).filter (· ≠ id) ∧
    (t.kind? parent = some .map → t'.listing parent = (t.listing parent).filter (·.2 ≠ id)) ∧
    (t.kind? parent = some .sequence → (t'.listing parent).map Prod.fst =
      (List.range (t'.listing parent).length).map Key.index)

/-! ### What is above a node -/

namespace Sound

/-- Live handles at and below a top are those that have it at the top. -/
theorem rootOf_eq_iff (h : t.Sound) (hm : m ∈ t.tops) (hid : id ∈ t.ids) :
    t.rootOf id = m.id ↔ id ∈ m.ids := by
  obtain ⟨n, hn⟩ := exists_node? hid
  obtain rfl := id_of_node? hn
  obtain ⟨before, c, after, hsplit, -⟩ := h.split hn
  have htop : Context.fill c n ∈ t.tops := by simp [hsplit]
  have hmem : n.id ∈ (Context.fill c n).ids := Context.mem_ids_fill.2 (.inr n.id_mem_ids)
  have hroot : t.rootOf n.id = (Context.fill c n).id := by
    rw [rootOf, h.trail_split hsplit]
    cases c <;> rfl
  rw [hroot]
  constructor
  · intro heq
    have hfill := h.eq_of_mem_ids hm htop (heq ▸ m.id_mem_ids) (Context.fill c n).id_mem_ids
    exact hfill ▸ hmem
  · intro hid
    rw [h.eq_of_mem_ids hm htop hid hmem]

/-- Live handles of the document are those with the root at the top. -/
theorem rootOf_eq_root_iff (h : t.Sound) (hid : id ∈ t.ids) :
    t.rootOf id = t.root.id ↔ id ∈ t.root.ids :=
  h.rootOf_eq_iff t.root_mem_tops hid

/-! ### Removing -/

variable (h : t.Sound) (hn : t.node? n.id = some n) (htop : ∀ m ∈ t.tops, m.id ≠ n.id)

include h hn htop

theorem mem_ids_remove : i ∈ (t.remove n).ids ↔ i ∈ t.ids ∧ i ∉ n.ids := by
  have hperm := h.ids_remove hn htop
  have hdisjoint := List.disjoint_of_nodup_append (hperm.nodup_iff.1 h.handles.nodup)
  rw [hperm.mem_iff, List.mem_append]
  constructor
  · exact fun hi ↦ ⟨.inr hi, fun hgone ↦ hdisjoint hgone hi⟩
  · exact fun hi ↦ hi.1.resolve_left hi.2

/-- A node that is left is the old one, without the removed one if that was below it. -/
theorem node?_remove (hm : t.node? i = some m) (hi : i ∉ n.ids) :
    (t.remove n).node? i = some (m.erase n.id) := by
  obtain ⟨m', hm'⟩ := exists_node? ((h.mem_ids_remove hn htop).2 ⟨mem_ids_of_node? hm, hi⟩)
  obtain ⟨top', htop', hfind⟩ := List.exists_of_findSome?_eq_some hm'
  have htops : (t.remove n).tops = t.tops.map (Node.erase n.id) := t.tops_mapTops _
  rw [htops] at htop'
  obtain ⟨top, hmem, rfl⟩ := List.mem_map.1 htop'
  obtain ⟨m₀, hm₀, rfl⟩ := Node.exists_of_mem_erase (Node.mem_of_find? hfind)
  have hold := h.node?_of_mem (h.node?_of_mem_tops hmem) hm₀
  rw [← Node.id_erase n.id m₀, id_of_node? hm', hm, Option.some.injEq] at hold
  rw [hm', hold]

/-- What is left was there before, and is not at or below the removed node. -/
theorem exists_of_contains_remove (hi : (t.remove n).contains i) :
    i ∉ n.ids ∧ ∃ m, t.node? i = some m ∧ (t.remove n).node? i = some (m.erase n.id) := by
  obtain ⟨hid, hin⟩ := (h.mem_ids_remove hn htop).1 (contains_iff.1 hi)
  obtain ⟨m, hm⟩ := exists_node? hid
  exact ⟨hin, m, hm, h.node?_remove hn htop hm hin⟩

theorem parent?_remove (hi : i ∉ n.ids) : (t.remove n).parent? i = t.parent? i := by
  refine Option.ext fun p ↦ ?_
  rw [(h.remove hn htop).parent?_eq_some_iff, h.parent?_eq_some_iff]
  constructor
  · rintro ⟨m', hm', hchild⟩
    obtain ⟨-, m, hm, hleft⟩ :=
      h.exists_of_contains_remove hn htop (contains_iff.2 (mem_ids_of_node? hm'))
    rw [hm', Option.some.injEq] at hleft
    rw [hleft, Node.map_id_childNodes_erase] at hchild
    exact ⟨m, hm, List.mem_of_mem_filter hchild⟩
  · rintro ⟨m, hm, hchild⟩
    -- a child of a removed node would be removed too
    have hp : p ∉ n.ids := fun hp ↦ hi <| List.mem_cons_of_mem _ <|
      h.mem_descendants_of_parent? hn (h.parent?_eq_some_iff.2 ⟨m, hm, hchild⟩) hp
    refine ⟨_, h.node?_remove hn htop hm hp, ?_⟩
    rw [Node.map_id_childNodes_erase]
    refine List.mem_filter.2 ⟨hchild, decide_eq_true ?_⟩
    rintro rfl
    exact hi n.id_mem_ids

/-- A node that is no top has a parent, and that is not below it. -/
theorem exists_parent? : ∃ p, t.parent? n.id = some p ∧ p ∉ n.ids := by
  obtain ⟨before, c, f, after, hsplit, -⟩ := h.split_frame hn htop
  rw [Context.fill_append] at hsplit
  have hp := h.parent?_child (h.node?_split hsplit) (f.key_mem_children_fill n)
  refine ⟨_, hp, fun hmem ↦ ?_⟩
  have hself := h.mem_descendants_of_parent? hn hp hmem
  exact (List.nodup_cons.1 (h.nodup_ids hn)).1 hself

/-- Removing a node changes what can be seen through handles as killing should. -/
theorem killed_remove : t.Killed (t.remove n) n.id where
  contains i := by
    rw [contains_iff, contains_iff, h.mem_ids_remove hn htop, Node.ids, List.mem_cons, not_or,
      descendants, view_of_node? hn]
  value {i} hi habove := by
    obtain ⟨hin, m, hm, hleft⟩ := h.exists_of_contains_remove hn htop hi
    have hbelow : n.id ∉ m.ids := fun hmem ↦
      (h.eq_or_mem_ancestors hm hmem).elim (fun heq ↦ hin (heq ▸ n.id_mem_ids)) habove
    rw [value_of_node? hleft, value_of_node? hm, Node.erase_of_notMem hbelow]
  kind? {i} hi := by
    obtain ⟨-, m, hm, hleft⟩ := h.exists_of_contains_remove hn htop hi
    rw [kind?_of_node? hleft, kind?_of_node? hm, Node.kind_erase]
  parent? {i} hi := h.parent?_remove hn htop (h.exists_of_contains_remove hn htop hi).1
  listing {i} hi hparent := by
    obtain ⟨-, m, hm, hleft⟩ := h.exists_of_contains_remove hn htop hi
    rw [listing_of_node? hleft, listing_of_node? hm]
    refine Node.listing_erase_of_forall_ne fun c hc heq ↦ hparent ?_
    exact h.parent?_eq_some_iff.2 ⟨m, hm, heq ▸ List.mem_map_of_mem hc⟩
  siblings := by
    obtain ⟨p, hp, hpn⟩ := h.exists_parent? hn htop
    obtain ⟨m, hm, -⟩ := h.parent?_eq_some_iff.1 hp
    have hleft := h.node?_remove hn htop hm hpn
    refine ⟨p, hp, contains_iff.2 (mem_ids_of_node? hleft), ?_⟩
    rw [listing_of_node? hleft, listing_of_node? hm, kind?_of_node? hm]
    refine ⟨?_, fun hkind ↦ Node.listing_erase_of_map (Option.some.inj hkind), fun hkind ↦ ?_⟩
    · rw [Node.map_snd_listing, Node.map_snd_listing, Node.map_id_childNodes_erase]
    · rw [Node.map_fst_listing, Node.length_listing]
      exact Node.map_fst_children_of_sequence ((Node.kind_erase ..).trans (Option.some.inj hkind))

end Sound

/-! ### Killing by keys -/

/-- The keys of a node and of those above it, its own first. -/
def keysUp (t : Tree) (id : NodeId) : List Key :=
  (id :: t.ancestors id).filterMap t.key?

/-- Removes the node that lies where the keys up from a handle say, if they end at the root. -/
def killByKeys (t : Tree) (id : NodeId) : Bool × Tree :=
  if t.rootOf id = t.root.id then
    match t.keysUp id with
    | [] => (false, t)
    | last :: above =>
      match above.reverse.foldlM (fun node key ↦ t.child? node key true) t.root.id with
      | none => (false, t)
      | some parent =>
        let (removed, t) := t.deleteChild parent last
        (removed.isSome, t)
  else (false, t)

namespace Sound

theorem keysUp_eq (h : t.Sound) (id : NodeId) :
    t.keysUp id = ((t.trail id).map Step.key).reverse := by
  induction id using h.wellFounded_parent.induction with
  | _ id ih =>
    rcases h.trail_eq_nil_or id with hnil | ⟨n, key, d, hn, hd, rfl⟩
    · simp [keysUp, ancestors, key?, lastStep?, hnil]
    · have hparent := h.parent?_child hn hd
      have hup : t.keysUp d.id = key :: t.keysUp n.id := by
        rw [keysUp, h.ancestors_eq d.id, hparent, List.filterMap_cons, h.key?_child hn hd]
        rfl
      rw [hup, ih n.id hparent, h.trail_child hn hd, List.map_append, List.reverse_append]
      rfl

/-- Exact lookups along the keys of a context lead from the container to the filling. -/
theorem foldlM_child? (h : t.Sound) {c : Context} (hn : t.node? id = some (Context.fill c n))
    (hkeys : ∀ key ∈ Context.keys c, key.InRange) :
    (Context.keys c).foldlM (fun node key ↦ t.child? node key true) id = some n.id := by
  induction c generalizing id with
  | nil =>
    rw [← id_of_node? hn]
    rfl
  | cons f c ih =>
    rw [Context.keys_cons, List.forall_mem_cons] at hkeys
    have hmem := f.key_mem_children_fill (Context.fill c n)
    have hchild : t.child? id f.key true = some (Context.fill c n).id := by
      rw [child?_of_node? hn,
        Node.child?_of_mem_children (h.distinct_of_node? hn) hmem hkeys.1, Option.map_some]
    rw [Context.keys_cons, List.foldlM_cons, hchild]
    exact ih (h.node?_child hn hmem).1 hkeys.2

/-- The walk ends at the container of a node, and there the child with the last key is that node. -/
theorem killByKeys_fill (h : t.Sound) {c : Context} {f : Frame}
    (hroot : t.root = Context.fill (c ++ [f]) n)
    (hkeys : ∀ key ∈ Context.keys (c ++ [f]), key.InRange) :
    t.killByKeys n.id = (true, t.remove n) := by
  have htop : t.rootOf n.id = t.root.id := by
    have hmem : n.id ∈ t.root.ids := hroot ▸ Context.mem_ids_fill.2 (.inr n.id_mem_ids)
    exact (h.rootOf_eq_root_iff (mem_ids_of_mem_root hmem)).2 hmem
  have hup : t.keysUp n.id = f.key :: (Context.keys c).reverse := by
    rw [h.keysUp_eq, h.trail_root hroot, Context.map_key_steps, Context.keys_append,
      List.reverse_append]
    rfl
  rw [Context.keys_append, List.forall_mem_append] at hkeys
  rw [Context.fill_append] at hroot
  have hlive := h.node?_of_mem_tops t.root_mem_tops
  have hwalk := h.foldlM_child? (hlive.trans (congrArg some hroot)) hkeys.1
  have hparent := h.node?_of_mem hlive (hroot ▸ Context.mem_fill c (Context.fill [f] n))
  have hchild := Node.child?_of_mem_children (h.distinct_of_node? hparent)
    (f.key_mem_children_fill n) (hkeys.2 f.key (List.mem_cons_self ..)) false
  have hdelete : t.deleteChild (Context.fill [f] n).id f.key = (some n.toJson, t.remove n) := by
    rw [Tree.deleteChild, view_of_node? hparent, hchild]
  rw [killByKeys, if_pos htop, hup]
  simp only [List.reverse_reverse, hwalk, hdelete, Option.isSome_some]

/-- No keys lead down to the root, and none to handles that are not live. -/
theorem killByKeys_of_not (h : t.Sound) (hid : ¬ (id ∈ t.root.ids ∧ id ≠ t.root.id)) :
    t.killByKeys id = (false, t) := by
  rw [killByKeys]
  split
  · rename_i htop
    have hnil : t.trail id = [] := by
      by_cases hlive : id ∈ t.ids
      · have hroot : id = t.root.id :=
          not_not.1 fun hne ↦ hid ⟨(h.rootOf_eq_root_iff hlive).1 htop, hne⟩
        rw [hroot, h.trail_of_mem_tops t.root_mem_tops]
      · exact trail_of_not_contains hlive
    rw [h.keysUp_eq, hnil]
    rfl
  · rfl

/-- A node of the document lies where its keys say, and nothing else does. -/
theorem killByKeys_eq_kill (h : t.Sound) (hkeys : ∀ step ∈ t.trail id, step.key.InRange) :
    t.killByKeys id = t.kill id := by
  by_cases hid : id ∈ t.root.ids ∧ id ≠ t.root.id
  · obtain ⟨n, rfl, hfind, -, hkill⟩ := h.kill_eq_remove hid.1 hid.2
    obtain ⟨c, hroot⟩ := Node.exists_fill hfind
    have hrange : ∀ key ∈ Context.keys c, key.InRange := by
      rw [← Context.map_key_steps _ n, List.forall_mem_map, ← h.trail_root hroot]
      exact hkeys
    rcases List.eq_nil_or_concat c with rfl | ⟨c, f, rfl⟩
    · exact absurd (congrArg Node.id hroot).symm hid.2
    · rw [List.concat_eq_append] at hroot hrange
      rw [hkill, h.killByKeys_fill hroot hrange]
  · rw [kill_eq_self hid, h.killByKeys_of_not hid]

end Sound

/-! ### What a kill does -/

/-- A kill succeeds at the live handles other than the root that have the root at the top. Then it
takes away the node with all that is below it and leaves the rest; otherwise it changes nothing. It
does what deleting by the keys of the node does. -/
theorem kill_exact (ht : t.Reachable) (id : NodeId) :
    ((t.kill id).1 = true ↔ t.contains id ∧ id ≠ t.root.id ∧ t.rootOf id = t.root.id) ∧
      ((t.kill id).1 = true → t.Killed (t.kill id).2 id) ∧
      ((t.kill id).1 = false → (t.kill id).2 = t) ∧
      ((∀ step ∈ t.trail id, step.key.InRange) → t.killByKeys id = t.kill id) := by
  have h := ht.sound
  refine ⟨?_, fun hkill ↦ ?_, fun hkill ↦ ?_, h.killByKeys_eq_kill⟩
  · rw [kill_fst, decide_eq_true_iff]
    constructor
    · rintro ⟨hid, hne⟩
      have hlive := mem_ids_of_mem_root hid
      exact ⟨contains_iff.2 hlive, hne, (h.rootOf_eq_root_iff hlive).2 hid⟩
    · rintro ⟨hlive, hne, htop⟩
      exact ⟨(h.rootOf_eq_root_iff (contains_iff.1 hlive)).1 htop, hne⟩
  · rw [kill_fst, decide_eq_true_iff] at hkill
    obtain ⟨n, rfl, hfind, htop, heq⟩ := h.kill_eq_remove hkill.1 hkill.2
    rw [heq]
    exact h.killed_remove (Sound.node?_of_find?_root hfind) htop
  · rw [kill_fst, decide_eq_false_iff_not] at hkill
    rw [kill_eq_self hkill]

/-- A node behind an equivalent one, which stays. -/
theorem kill_exact_colon :
    ((ofJson .empty (.object [("a", .null), (":a", .array [.null])])).kill ⟨2, 0⟩).2.document =
        .object [("a", .null)] ∧
      (ofJson .empty (.object [("a", .null), (":a", .array [.null])])).Killed
        ((ofJson .empty (.object [("a", .null), (":a", .array [.null])])).kill ⟨2, 0⟩).2 ⟨2, 0⟩ ∧
      (ofJson .empty (.object [("a", .null), (":a", .array [.null])])).killByKeys ⟨2, 0⟩ =
        (ofJson .empty (.object [("a", .null), (":a", .array [.null])])).kill ⟨2, 0⟩ := by
  have ht : (ofJson .empty (.object [("a", .null), (":a", .array [.null])])).Reachable :=
    .ofJson _ (by simp)
  obtain ⟨hsucceeds, hkilled, -, hkeys⟩ := kill_exact ht ⟨2, 0⟩
  refine ⟨rfl, hkilled (hsucceeds.2 ?_), hkeys ?_⟩
  · decide +kernel
  · decide +kernel

end Tree

end DocPath

import DocPath.Proofs.Node.Build
import DocPath.Proofs.Node.Forest
import DocPath.Tree.Basic

/-!
# Sound trees

A tree is sound when the handles of its nodes are exactly those that its slots hold, and no map in
it has a name twice. Every elementary change keeps a tree sound (`Sound.replaceWith`,
`Sound.remove`, `Sound.insertChild`, `Sound.adopt`, `Sound.releaseScratch`, and so on).

Changes in the middle of a tree all go through one lemma, `Sound.exchange`: a node found by its
handle is exchanged for another one, and all that has to be shown is what becomes of the slots of
the two.
-/

namespace DocPath.Tree

open Node (Context Frame)

/-- The handles of a tree are those its slots hold, and its maps have distinct names. -/
structure Sound (t : Tree) : Prop where
  handles : t.slots.Holds t.ids
  distinct : ∀ n ∈ t.tops, n.toJson.Distinct

variable {t : Tree} {id : NodeId} {n : Node}

@[simp] theorem tops_mapTops (t : Tree) (f : Node → Node) :
    (t.mapTops f).tops = t.tops.map f := by
  simp [tops, mapTops]

theorem root_mem_tops (t : Tree) : t.root ∈ t.tops :=
  List.mem_cons_self ..

theorem mem_ids_of_mem_root {t : Tree} {id : NodeId} (h : id ∈ t.root.ids) : id ∈ t.ids :=
  List.mem_flatMap.2 ⟨_, t.root_mem_tops, h⟩

theorem root_id_mem_ids (t : Tree) : t.root.id ∈ t.ids :=
  mem_ids_of_mem_root t.root.id_mem_ids

/-- Scratch nodes with a node to keep stay, and the handles of the others are released. -/
theorem releaseScratch_eq (t : Tree) (keep : List NodeId) :
    t.releaseScratch keep =
      { t with
        scratch := t.scratch.filter fun n ↦ keep.any n.has
        slots := t.slots.releaseAll
          ((t.scratch.filter fun n ↦ !keep.any n.has).flatMap Node.releaseOrder) } := by
  simp [releaseScratch, Function.comp_def]

/-- The scratch nodes that are dropped and the tops that stay are all the tops there were. -/
theorem tops_releaseScratch (t : Tree) (keep : List NodeId) :
    t.tops.Perm
      ((t.scratch.filter fun n ↦ !keep.any n.has) ++ (t.releaseScratch keep).tops) := by
  rw [releaseScratch_eq]
  have hscratch := List.filter_append_perm (fun n : Node ↦ keep.any n.has) t.scratch
  refine .trans ?_ List.perm_middle.symm
  refine .cons _ (((hscratch.symm.trans List.perm_append_comm).append_left _).trans ?_)
  exact List.perm_append_comm_assoc ..

/-- The tops of a tree and an adopted node. -/
theorem tops_adopt (t : Tree) (v : Json) :
    (t.adopt v).2.tops.Perm
      ((Node.build t.slots.allocate.1 v t.slots.allocate.2).1 :: t.tops) := by
  simp only [Tree.adopt, tops, List.append_assoc, List.singleton_append]
  exact (List.perm_middle.cons _).trans (.swap ..)

/-- The tops of a tree and a new scratch node. -/
theorem tops_adoptScratch (t : Tree) (v : Json) :
    (t.adoptScratch v).2.tops.Perm
      ((Node.build t.slots.allocate.1 v t.slots.allocate.2).1 :: t.tops) := by
  simp only [Tree.adoptScratch, tops]
  rw [← List.append_assoc, ← List.cons_append]
  exact List.perm_append_singleton _ _

/-! ### Live handles -/

theorem contains_iff : t.contains id ↔ id ∈ t.ids := by
  rw [contains, node?, List.findSome?_isSome_iff, ids, List.mem_flatMap]
  simp only [Node.find?_isSome]

theorem exists_node? (h : id ∈ t.ids) : ∃ n, t.node? id = some n :=
  Option.isSome_iff_exists.1 (contains_iff.2 h)

theorem mem_ids_of_node? (h : t.node? id = some n) : id ∈ t.ids :=
  contains_iff.1 (Option.isSome_iff_exists.2 ⟨n, h⟩)

theorem node?_eq_none : t.node? id = none ↔ id ∉ t.ids := by
  rw [← contains_iff, contains, Option.not_isSome_iff_eq_none]

theorem id_of_node? (h : t.node? id = some n) : n.id = id := by
  obtain ⟨m, -, hm⟩ := List.exists_of_findSome?_eq_some h
  exact Node.id_of_find? hm

theorem view_of_node? (h : t.node? id = some n) : t.view id = n := by
  rw [view, h, Option.getD_some]

theorem value_of_node? (h : t.node? id = some n) : t.value id = n.toJson := by
  rw [value, view_of_node? h]

theorem kind?_of_node? (h : t.node? id = some n) : t.kind? id = some n.kind := by
  rw [kind?, h, Option.map_some]

theorem child?_of_node? (h : t.node? id = some n) (key : Key) (exact : Bool) :
    t.child? id key exact = (n.child? key exact).map Node.id := by
  rw [child?, view_of_node? h]

@[simp] theorem id_view (t : Tree) (id : NodeId) : (t.view id).id = id := by
  cases hn : t.node? id with
  | none =>
    rw [view, hn]
    rfl
  | some n => rw [view_of_node? hn, id_of_node? hn]

/-- What is below a live node is live. -/
theorem mem_ids_of_mem_view {i : NodeId} (hid : id ∈ t.ids) (hi : i ∈ (t.view id).ids) :
    i ∈ t.ids := by
  obtain ⟨n, hn⟩ := exists_node? hid
  rw [view_of_node? hn] at hi
  obtain ⟨before, c, after, htops⟩ := Node.exists_split hn
  rw [Tree.ids, htops, List.mem_flatMap]
  exact ⟨_, List.mem_append_right _ (List.mem_cons_self ..), Context.mem_ids_fill.2 (.inr hi)⟩

/-- Killing erases a node of the document that is not its root, and nothing else. -/
theorem root_kill (t : Tree) (id : NodeId) :
    (t.kill id).2.root = if id ∈ t.root.ids ∧ id ≠ t.root.id then t.root.erase id else t.root := by
  unfold kill
  split
  · rename_i n hn
    have hid := Node.mem_ids_of_find? hn
    by_cases hroot : id = t.root.id
    · simp [hroot]
    · simp only [hid, ne_eq, hroot, not_false_eq_true, and_self, if_true]
      rw [← Node.id_of_find? hn]
      rfl
  · rename_i hnone
    rw [if_neg fun h ↦ Node.find?_eq_none.1 hnone h.1]

/-- Killing succeeds exactly at nodes of the document other than the root. -/
theorem kill_fst (t : Tree) (id : NodeId) :
    (t.kill id).1 = decide (id ∈ t.root.ids ∧ id ≠ t.root.id) := by
  unfold kill
  split
  · rename_i n hn
    have hid := Node.mem_ids_of_find? hn
    by_cases hroot : id = t.root.id <;> simp [hid, hroot]
  · rename_i hnone
    simp [Node.find?_eq_none.1 hnone]

theorem kill_eq_self (hid : ¬ (id ∈ t.root.ids ∧ id ≠ t.root.id)) : t.kill id = (false, t) := by
  unfold kill
  split
  · rename_i n hn
    exact if_pos (by_contra fun hroot ↦ hid ⟨Node.mem_ids_of_find? hn, hroot⟩)
  · rfl

namespace Sound

/-- A live handle splits the nodes of a sound tree at the place of its node. -/
theorem split (h : t.Sound) (hn : t.node? id = some n) :
    ∃ before c after, t.tops = before ++ Context.fill c n :: after ∧
      ∀ i ∈ n.ids, i ∉ Node.outsideIds before c after := by
  obtain ⟨before, c, after, htops⟩ := Node.exists_split hn
  refine ⟨before, c, after, htops, fun i hi ↦ Node.notMem_outsideIds ?_ hi⟩
  rw [← htops]
  exact h.handles.nodup

theorem nodup_ids_of_mem_tops (h : t.Sound) (hn : n ∈ t.tops) : n.ids.Nodup :=
  (List.nodup_flatMap.1 h.handles.nodup).1 n hn

theorem nodup_ids_root (h : t.Sound) : t.root.ids.Nodup :=
  h.nodup_ids_of_mem_tops t.root_mem_tops

theorem distinct_root (h : t.Sound) : t.root.toJson.Distinct :=
  h.distinct t.root t.root_mem_tops

/-- Around a node that is exchanged for another one nothing changes. -/
theorem split_replace (h : t.Sound) (hn : t.node? id = some n) (new : Node) :
    ∃ before c after, t.tops = before ++ Context.fill c n :: after ∧
      t.tops.map (Node.replace id new) = before ++ Context.fill c new :: after := by
  obtain rfl := id_of_node? hn
  obtain ⟨before, c, after, hsplit, houtside⟩ := h.split hn
  refine ⟨before, c, after, hsplit, ?_⟩
  rw [hsplit, Node.map_replace_split new (houtside n.id n.id_mem_ids), Node.replace_self]

/-- The handles of the new node take the place of those of the old one. -/
theorem ids_replace (h : t.Sound) (hn : t.node? id = some n) (new : Node) :
    ∃ others, t.ids.Perm (n.ids ++ others) ∧
      ((t.tops.map (Node.replace id new)).flatMap Node.ids).Perm (new.ids ++ others) := by
  obtain ⟨before, c, after, hsplit, hsplit'⟩ := h.split_replace hn new
  refine ⟨Node.outsideIds before c after, ?_, ?_⟩
  · rw [ids, hsplit]
    exact Node.ids_split before c n after
  · rw [hsplit']
    exact Node.ids_split before c new after

/-- Exchanging a node: only what becomes of the slots of the old and the new one is to be shown. -/
theorem exchange (h : t.Sound) (hn : t.node? id = some n) {t' : Tree} (new : Node)
    (htops : t'.tops = t.tops.map (Node.replace id new))
    (hslots : ∀ others, t.slots.Holds (n.ids ++ others) → t'.slots.Holds (new.ids ++ others))
    (hnew : n.toJson.Distinct → new.toJson.Distinct) : t'.Sound := by
  constructor
  · obtain ⟨others, hids, hids'⟩ := h.ids_replace hn new
    rw [← htops] at hids'
    exact (hslots others (h.handles.of_perm hids)).of_perm hids'.symm
  · obtain ⟨before, c, after, hsplit, hsplit'⟩ := h.split_replace hn new
    have hold : ∀ m ∈ before ++ Context.fill c n :: after, m.toJson.Distinct := by
      rw [← hsplit]
      exact h.distinct
    intro m hm
    rw [htops, hsplit', List.mem_append, List.mem_cons] at hm
    rcases hm with hm | rfl | hm
    · exact hold m (by simp [hm])
    · have hfill := hold (Context.fill c n) (by simp)
      exact Node.Context.distinct_fill hfill (hnew (Node.Context.distinct_of_fill hfill))
    · exact hold m (by simp [hm])

theorem distinct_of_node? (h : t.Sound) (hn : t.node? id = some n) : n.toJson.Distinct := by
  obtain ⟨before, c, after, hsplit, -⟩ := h.split hn
  have hfill := h.distinct (Context.fill c n) (by simp [hsplit])
  exact Node.Context.distinct_of_fill hfill

theorem distinct_view (h : t.Sound) (id : NodeId) : (t.view id).toJson.Distinct := by
  cases hn : t.node? id with
  | none => simp [view, hn]
  | some n =>
    rw [view_of_node? hn]
    exact h.distinct_of_node? hn

/-! ### Replacing -/

theorem replaceWith (h : t.Sound) (id : NodeId) {v : Json} (hv : v.Distinct) :
    (t.replaceWith id v).Sound := by
  unfold Tree.replaceWith
  split
  · exact h
  · rename_i n hn
    obtain rfl := id_of_node? hn
    refine h.exchange hn (Node.build n.id v _).1 (by rw [← tops_mapTops]; rfl) ?_ ?_
    · intro others hold
      have hreleased := Node.holds_releaseAll_below hold
      refine (Node.holds_build n.id v _ hreleased).of_perm ?_
      rw [Node.ids_eq (Node.build ..).1, Node.id_build, List.cons_append]
      exact List.perm_middle
    · exact fun _ ↦ by rwa [Node.toJson_build]

/-! ### Removing -/

/-- A node below the tops of a sound tree fills a context that has a frame. -/
theorem split_frame (h : t.Sound) (hn : t.node? n.id = some n)
    (htop : ∀ m ∈ t.tops, m.id ≠ n.id) :
    ∃ before c f after, t.tops = before ++ Context.fill (c ++ [f]) n :: after ∧
      ∀ i ∈ n.ids, i ∉ Node.outsideIds before (c ++ [f]) after := by
  obtain ⟨before, c, after, hsplit, houtside⟩ := h.split hn
  rcases List.eq_nil_or_concat c with rfl | ⟨c, f, rfl⟩
  · exact absurd rfl (htop n (by simp [hsplit]))
  · rw [List.concat_eq_append] at hsplit houtside
    exact ⟨before, c, f, after, hsplit, houtside⟩

/-- Around a node that is removed nothing changes. -/
theorem split_remove (h : t.Sound) (hn : t.node? n.id = some n)
    (htop : ∀ m ∈ t.tops, m.id ≠ n.id) :
    ∃ before c f after, t.tops = before ++ Context.fill (c ++ [f]) n :: after ∧
      (t.remove n).tops = before ++ Context.fill c f.close :: after := by
  obtain ⟨before, c, f, after, hsplit, houtside⟩ := h.split_frame hn htop
  refine ⟨before, c, f, after, hsplit, ?_⟩
  rw [← Node.map_erase_split (houtside n.id n.id_mem_ids), ← hsplit, ← tops_mapTops]
  rfl

/-- The handles at and below a removed node are gone, and the others are left. -/
theorem ids_remove (h : t.Sound) (hn : t.node? n.id = some n) (htop : ∀ m ∈ t.tops, m.id ≠ n.id) :
    t.ids.Perm (n.ids ++ (t.remove n).ids) := by
  obtain ⟨before, c, f, after, hsplit, hsplit'⟩ := h.split_remove hn htop
  have hleft := Node.ids_split before c f.close after
  rw [← hsplit'] at hleft
  rw [ids, hsplit]
  refine (Node.ids_split before (c ++ [f]) n after).trans (.append_left _ (.trans ?_ hleft.symm))
  rw [Node.outsideIds_concat]
  exact List.perm_append_comm

theorem remove (h : t.Sound) (hn : t.node? n.id = some n) (htop : ∀ m ∈ t.tops, m.id ≠ n.id) :
    (t.remove n).Sound := by
  constructor
  · refine Slots.holds_releaseAll n.releaseOrder (h.handles.of_perm ?_)
    exact (h.ids_remove hn htop).trans (n.releaseOrder_perm.symm.append_right _)
  · obtain ⟨before, c, f, after, hsplit, htops⟩ := h.split_remove hn htop
    intro m hm
    have hold : ∀ m ∈ before ++ Context.fill (c ++ [f]) n :: after, m.toJson.Distinct := by
      rw [← hsplit]
      exact h.distinct
    rw [htops, List.mem_append, List.mem_cons] at hm
    rcases hm with hm | rfl | hm
    · exact hold m (by simp [hm])
    · have hfill := hold (Context.fill (c ++ [f]) n) (by simp)
      rw [Context.fill_append] at hfill
      exact Node.Context.distinct_fill hfill
        (Frame.distinct_close (Node.Context.distinct_of_fill hfill))
    · exact hold m (by simp [hm])

/-- A child of a live node is live, and is none of the tops. -/
theorem node?_child (h : t.Sound) (hn : t.node? id = some n) {key : Key} {d : Node}
    (hd : (key, d) ∈ n.children) :
    t.node? d.id = some d ∧ ∀ m ∈ t.tops, m.id ≠ d.id := by
  obtain ⟨before, c, after, hsplit, -⟩ := h.split hn
  obtain ⟨f, rfl, rfl⟩ := Node.exists_frame hd
  have hsplit' : t.tops = before ++ Context.fill (c ++ [f]) d :: after := by
    rw [hsplit, Context.fill_append]
    rfl
  have hnodup := h.handles.nodup
  rw [ids, hsplit'] at hnodup
  have houtside := Node.notMem_outsideIds hnodup d.id_mem_ids
  constructor
  · rw [node?, hsplit', Node.findSome?_find?_split houtside, Node.find?_self]
  · rw [hsplit']
    exact fun m hm ↦ Node.id_ne_of_mem_split houtside hm

/-- What is found by a key below a handle is live, and is none of the tops. -/
theorem node?_of_child? (h : t.Sound) {key : Key} {exact : Bool} {d : Node}
    (hd : (t.view id).child? key exact = some d) :
    t.node? d.id = some d ∧ ∀ m ∈ t.tops, m.id ≠ d.id := by
  obtain ⟨k, hk⟩ := Node.mem_childNodes.1 (Node.mem_childNodes_of_child? hd)
  cases hn : t.node? id with
  | none => simp [view, hn, Node.children] at hk
  | some n =>
    rw [view_of_node? hn] at hk
    exact h.node?_child hn hk

theorem deleteChild (h : t.Sound) (id : NodeId) (key : Key) : (t.deleteChild id key).2.Sound := by
  unfold Tree.deleteChild
  split
  · rename_i n hn
    obtain ⟨hlive, htop⟩ := h.node?_of_child? hn
    exact h.remove hlive htop
  · exact h

/-- A node of the document is what the tree has at its handle. -/
theorem node?_of_find?_root (h : t.root.find? id = some n) : t.node? id = some n := by
  rw [node?, tops, List.findSome?_cons, h]

/-- Killing removes a node of the document that is not its root. -/
theorem kill_eq_remove (h : t.Sound) (hid : id ∈ t.root.ids) (hroot : id ≠ t.root.id) :
    ∃ n, n.id = id ∧ t.root.find? id = some n ∧ (∀ m ∈ t.tops, m.id ≠ id) ∧
      t.kill id = (true, t.remove n) := by
  obtain ⟨n, hn⟩ := Node.exists_find? hid
  refine ⟨n, Node.id_of_find? hn, hn, fun m hm heq ↦ ?_, by simp [Tree.kill, hn, hroot]⟩
  -- the other tops share no handle with the document
  have hnodup := h.handles.nodup
  rw [ids, tops, List.flatMap_cons] at hnodup
  rw [tops, List.mem_cons] at hm
  rcases hm with rfl | hm
  · exact hroot heq.symm
  · exact List.disjoint_of_nodup_append hnodup hid
      (List.mem_flatMap.2 ⟨m, hm, heq ▸ m.id_mem_ids⟩)

theorem kill (h : t.Sound) (id : NodeId) : (t.kill id).2.Sound := by
  by_cases hid : id ∈ t.root.ids ∧ id ≠ t.root.id
  · obtain ⟨n, rfl, hn, htop, hkill⟩ := h.kill_eq_remove hid.1 hid.2
    rw [hkill]
    exact h.remove (node?_of_find?_root hn) htop
  · rw [kill_eq_self hid]
    exact h

/-! ### Inserting -/

theorem appendItems (h : t.Sound) {items : List Node} (hn : t.node? id = some (.sequence id items))
    {values : List Json} (hv : ∀ v ∈ values, v.Distinct) :
    (t.appendItems id items values).2.Sound := by
  unfold Tree.appendItems
  refine h.exchange hn (.sequence id (items ++ (Node.buildItems values t.slots).1))
    (by rw [← tops_mapTops]; rfl) (fun others hold ↦ ?_) fun hd ↦ ?_
  · refine (Node.holds_buildItems values t.slots hold).of_perm ?_
    simp only [Node.ids_eq, Node.id, Node.childNodes_sequence, List.flatMap_append,
      List.cons_append, List.append_assoc]
    exact List.perm_middle.trans (.cons _ (List.perm_append_comm_assoc ..))
  · rw [Node.toJson_sequence, Json.distinct_array] at hd ⊢
    rw [List.map_append, Node.map_toJson_buildItems]
    exact List.forall_mem_append.2 ⟨hd, hv⟩

theorem appendEntry (h : t.Sound) {entries : List (String × Node)}
    (hn : t.node? id = some (.map id entries)) {name : String}
    (hname : name ∉ entries.map Prod.fst) {v : Json} (hv : v.Distinct) :
    (t.appendEntry id entries name v).2.Sound := by
  unfold Tree.appendEntry
  refine h.exchange hn (.map id (entries ++ (Node.buildEntries [(name, v)] t.slots).1))
    (by rw [← tops_mapTops]; rfl) (fun others hold ↦ ?_) fun hd ↦ ?_
  · refine (Node.holds_buildEntries [(name, v)] t.slots hold).of_perm ?_
    simp only [Node.ids_eq, Node.id, Node.childNodes_map, List.map_append, List.flatMap_append,
      List.flatMap_map, List.cons_append, List.append_assoc]
    exact List.perm_middle.trans (.cons _ (List.perm_append_comm_assoc ..))
  · rw [Node.toJson_map, Json.distinct_object] at hd ⊢
    rw [List.map_append, Node.map_toJson_buildEntries]
    refine ⟨?_, List.forall_mem_append.2 ⟨hd.2, by simpa using hv⟩⟩
    rw [List.map_append, List.map_map] at *
    exact hd.1.append (List.nodup_singleton name) (List.disjoint_singleton.2 hname)

theorem insertChild (h : t.Sound) (id : NodeId) (key : Key) {v : Json} (hv : v.Distinct) :
    (t.insertChild id key v).2.Sound := by
  unfold Tree.insertChild
  split
  · exact h.replaceWith _ hv
  · rename_i hnone
    split
    · rename_i i entries hn
      obtain rfl : i = id := id_of_node? hn
      rw [child?_of_node? hn, Option.map_eq_none_iff] at hnone
      exact h.appendEntry hn (Node.notMem_names_of_child?_eq_none hnone) hv
    · rename_i i items hn
      obtain rfl : i = id := id_of_node? hn
      split
      · split
        · exact h
        · refine h.appendItems hn (List.forall_mem_append.2 ⟨fun w hw ↦ ?_, by simpa using hv⟩)
          rw [(List.mem_replicate.1 hw).2]
          exact Json.distinct_scalar _
      · exact h
    · exact h

/-! ### Nodes outside the document -/

/-- A new top with handles of its own. -/
private theorem insertTop (h : t.Sound) {t' : Tree} {v : Json} (hv : v.Distinct)
    (htops : t'.tops.Perm
      ((Node.build t.slots.allocate.1 v t.slots.allocate.2).1 :: t.tops))
    (hslots : t'.slots = (Node.build t.slots.allocate.1 v t.slots.allocate.2).2) : t'.Sound := by
  constructor
  · rw [hslots]
    refine (Node.holds_build _ v _ (Slots.holds_allocate h.handles)).of_perm ?_
    refine .symm ((htops.flatMap_right Node.ids).trans ?_)
    rw [List.flatMap_cons, Node.ids_eq, Node.id_build, List.cons_append]
    exact List.perm_middle.symm
  · intro m hm
    rcases List.mem_cons.1 (htops.mem_iff.1 hm) with rfl | hm
    · rwa [Node.toJson_build]
    · exact h.distinct m hm

theorem adopt (h : t.Sound) {v : Json} (hv : v.Distinct) : (t.adopt v).2.Sound :=
  h.insertTop hv (t.tops_adopt v) rfl

theorem adoptScratch (h : t.Sound) {v : Json} (hv : v.Distinct) : (t.adoptScratch v).2.Sound :=
  h.insertTop hv (t.tops_adoptScratch v) rfl

theorem releaseScratch (h : t.Sound) (keep : List NodeId) : (t.releaseScratch keep).Sound := by
  have hperm := t.tops_releaseScratch keep
  constructor
  · rw [releaseScratch_eq]
    refine Slots.holds_releaseAll _ (h.handles.of_perm ?_)
    have hids := hperm.flatMap_right Node.ids
    rw [List.flatMap_append, releaseScratch_eq] at hids
    have hreleased := List.Perm.flatMap_left (t.scratch.filter fun n ↦ !keep.any n.has) fun n _ ↦
      n.releaseOrder_perm
    exact hids.trans (hreleased.symm.append_right _)
  · exact fun n hn ↦ h.distinct n (hperm.mem_iff.2 (List.mem_append_right _ hn))

/-! ### The log -/

theorem report (h : t.Sound) (segment : String) (fault : Fault) :
    (t.report segment fault).Sound :=
  ⟨h.handles, h.distinct⟩

theorem takeLog (h : t.Sound) : t.takeLog.2.Sound :=
  ⟨h.handles, h.distinct⟩

end Sound

/-- The tree of a document with distinct keys is sound. -/
theorem sound_ofJson (r : Registry) {v : Json} (hv : v.Distinct) : (ofJson r v).Sound := by
  constructor
  · have hold := Node.holds_build Slots.none.allocate.1 v _
      (Slots.holds_allocate Slots.holds_none)
    refine hold.of_perm ?_
    simp only [ids, tops, ofJson, List.append_nil, List.flatMap_cons, List.flatMap_nil]
    rw [Node.ids_eq, Node.id_build]
    exact List.perm_append_singleton _ _
  · intro n hn
    obtain rfl : n = (ofJson r v).root := by simpa [tops, ofJson] using hn
    have hroot : (ofJson r v).root.toJson = v := document_ofJson r v
    rwa [hroot]

end DocPath.Tree

import DocPath.Proofs.Tree.Change
import DocPath.Proofs.Tree.Trail

/-!
# Handles that were issued

A handle is `Seen` by a tree if it is live or spent. Seen handles stay seen (`Leads.seen`), and one
that is no longer live never comes back (`Leads.mem_ids_of_seen`): whatever is allocated later has
handles that were not seen before. This needs that generations have not come back at the end of the
run, which is `Slots.Unwrapped`.

The module also says where handles can be after a change of all tops: a handle that the change
takes away from its own top is nowhere else.
-/

namespace DocPath.Tree

variable {t t' : Tree} {id k : NodeId} {n m new : Node}

/-- The handle is live or spent. -/
def Seen (t : Tree) (id : NodeId) : Prop :=
  id ∈ t.ids ∨ t.slots.Spent id

namespace Leads

/-- A handle that is no longer live is spent. -/
theorem spent (h : t.Leads t') (ht : t.Sound) (hid : id ∈ t.ids) (hgone : id ∉ t'.ids) :
    t'.slots.Spent id :=
  ht.handles.spent (h.sound ht).handles h.le_slots hid hgone

theorem seen (h : t.Leads t') (ht : t.Sound) (hid : t.Seen id) : t'.Seen id := by
  by_cases hlive : id ∈ t'.ids
  · exact .inl hlive
  · exact .inr (hid.elim (fun hid ↦ h.spent ht hid hlive) h.le_slots.spent)

/-- A live handle that was seen before was live before. -/
theorem mem_ids_of_seen (h : t.Leads t') (ht : t.Sound) (hw : t'.slots.Unwrapped) (hid : t.Seen id)
    (hlive : id ∈ t'.ids) : id ∈ t.ids :=
  hid.resolve_right fun hspent ↦
    (h.sound ht).handles.not_spent hw hlive (h.le_slots.spent hspent)

end Leads

/-- The scratch node for a computed result. -/
def resultNode (t : Tree) (v : Json) : Node :=
  (Node.build t.slots.allocate.1 v t.slots.allocate.2).1

theorem ids_adoptScratch (t : Tree) (v : Json) :
    (t.adoptScratch v).2.ids = t.ids ++ (t.resultNode v).ids := by
  have htops : (t.adoptScratch v).2.tops = t.tops ++ [t.resultNode v] := by
    simp only [adoptScratch, tops, resultNode, List.append_assoc, List.cons_append]
  rw [ids, htops, List.flatMap_append, List.flatMap_singleton]
  rfl

theorem tops_replaceWith (hn : t.node? id = some n) (v : Json) :
    (t.replaceWith id v).tops = t.tops.map (Node.replace id
      (Node.build id v (t.slots.releaseAll n.releaseOrderBelow)).1) := by
  rw [replaceWith_of_node? hn, ← tops_mapTops]
  rfl

namespace Sound

/-- A spent handle names nothing. -/
theorem node?_of_spent (h : t.Sound) (hw : t.slots.Unwrapped) (hid : t.slots.Spent id) :
    t.node? id = none :=
  node?_eq_none.2 fun hlive ↦ h.handles.not_spent hw hlive hid

/-! ### Tops -/

/-- The place of a top among the others. -/
theorem exists_split_tops (h : t.Sound) (hn : n ∈ t.tops) (hid : id ∈ n.ids) :
    ∃ before after, t.tops = before ++ n :: after ∧ ∀ m ∈ before ++ after, id ∉ m.ids := by
  obtain ⟨before, after, htops⟩ := List.append_of_mem hn
  refine ⟨before, after, htops, fun m hm ↦ ?_⟩
  have hnodup := h.handles.nodup
  rw [ids, htops] at hnodup
  exact Node.notMem_ids_of_mem_outside (Node.notMem_outsideIds (c := []) hnodup hid) hm

/-- A handle is below one top only. -/
theorem eq_of_mem_ids (h : t.Sound) (hn : n ∈ t.tops) (hm : m ∈ t.tops) (hid : id ∈ n.ids)
    (hid' : id ∈ m.ids) : m = n := by
  obtain ⟨before, after, htops, hothers⟩ := h.exists_split_tops hn hid
  rw [htops, List.mem_append, List.mem_cons] at hm
  rcases hm with hm | rfl | hm
  · exact absurd hid' (hothers m (List.mem_append_left _ hm))
  · rfl
  · exact absurd hid' (hothers m (List.mem_append_right _ hm))

/-- A handle below a top names what it names there. -/
theorem node?_of_mem_ids (h : t.Sound) (hn : n ∈ t.tops) (hid : id ∈ n.ids) :
    t.node? id = n.find? id := by
  obtain ⟨before, after, htops, hothers⟩ := h.exists_split_tops hn hid
  have hnone : ∀ m ∈ before ++ after, m.find? id = none := fun m hm ↦
    Node.find?_eq_none.2 (hothers m hm)
  rw [node?, htops, List.findSome?_append, List.findSome?_cons,
    List.findSome?_eq_none_iff.2 fun m hm ↦ hnone m (List.mem_append_left _ hm),
    List.findSome?_eq_none_iff.2 fun m hm ↦ hnone m (List.mem_append_right _ hm)]
  cases n.find? id <;> rfl

/-- What a change by handle takes away from one top is in no other top. -/
theorem notMem_ids_mapTops (h : t.Sound) {f : Node → Node} (hf : ∀ m, k ∉ m.ids → f m = m)
    (hn : n ∈ t.tops) (hid : id ∈ n.ids) (hgone : id ∉ (f n).ids) : id ∉ (t.mapTops f).ids := by
  -- the top was changed, so it is the one that has `k`, and every other top stays as it was
  have hk : k ∈ n.ids := by
    by_contra hk
    exact hgone (by rwa [hf n hk])
  rw [ids, tops_mapTops, List.mem_flatMap]
  rintro ⟨_, hmem, hid'⟩
  obtain ⟨m, hm, rfl⟩ := List.mem_map.1 hmem
  by_cases hkm : k ∈ m.ids
  · exact hgone (h.eq_of_mem_ids hn hm hk hkm ▸ hid')
  · rw [hf m hkm] at hid'
    rw [h.eq_of_mem_ids hn hm hid hid'] at hkm
    exact hkm hk

/-- What is dropped with the scratch nodes is not live. -/
theorem notMem_ids_releaseScratch (h : t.Sound) {keep : List NodeId} (hn : n ∈ t.scratch)
    (hkeep : keep.any n.has = false) (hid : id ∈ n.ids) : id ∉ (t.releaseScratch keep).ids := by
  have hnodup := h.handles.nodup
  have hperm := (t.tops_releaseScratch keep).flatMap_right Node.ids
  rw [List.flatMap_append] at hperm
  refine List.disjoint_of_nodup_append (hperm.nodup_iff.1 hnodup) (List.mem_flatMap.2 ⟨n, ?_, hid⟩)
  exact List.mem_filter.2 ⟨hn, by simp [hkeep]⟩

/-! ### Handles of new nodes -/

/-- A handle in an exchanged node that was seen before is one of the node that was there. -/
theorem mem_ids_of_replace (h : t.Sound) (hn : t.node? id = some n)
    (htops : t'.tops = t.tops.map (Node.replace id new)) (hl : t.Leads t')
    (hw : t'.slots.Unwrapped) (hk : t.Seen k) (hmem : k ∈ new.ids) : k ∈ n.ids := by
  obtain ⟨others, hids, hids'⟩ := h.ids_replace hn new
  rw [← htops] at hids'
  have hnew : k ∈ t'.ids := hids'.mem_iff.2 (List.mem_append_left _ hmem)
  have hold := hids.mem_iff.1 (hl.mem_ids_of_seen h hw hk hnew)
  refine (List.mem_append.1 hold).resolve_right fun hothers ↦ ?_
  exact List.disjoint_of_nodup_append (hids'.nodup_iff.1 (hl.sound h).handles.nodup) hmem hothers

theorem nodup_ids_of_replace (h : t.Sound) (hn : t.node? id = some n)
    (htops : t'.tops = t.tops.map (Node.replace id new)) (hl : t.Leads t') : new.ids.Nodup := by
  obtain ⟨others, -, hids'⟩ := h.ids_replace hn new
  rw [← htops] at hids'
  exact (List.nodup_append.1 (hids'.nodup_iff.1 (hl.sound h).handles.nodup)).1

/-- The node that a value is put into has its own handle and new ones. -/
theorem eq_of_mem_build (h : t.Sound) (hn : t.node? id = some n) {v : Json} (hv : v.Distinct)
    (hw : (t.replaceWith id v).slots.Unwrapped) (hk : t.Seen k)
    (hmem : k ∈ (Node.build id v (t.slots.releaseAll n.releaseOrderBelow)).1.ids) :
    k = id := by
  have hl : t.Leads (t.replaceWith id v) := .single (.replaceWith t id hv)
  have htops : (t.replaceWith id v).tops = t.tops.map (Node.replace id
      (Node.build id v (t.slots.releaseAll n.releaseOrderBelow)).1) :=
    tops_replaceWith hn v
  have hold := h.mem_ids_of_replace hn htops hl hw hk hmem
  -- a handle other than the node's own would have been one of a node below it
  by_contra hne
  obtain ⟨others, hids, hids'⟩ := h.ids_replace hn
    (Node.build id v (t.slots.releaseAll n.releaseOrderBelow)).1
  rw [← htops] at hids'
  -- those were released before the new handles were allocated
  have hheld := h.handles.of_perm hids
  have hreleased := Node.holds_releaseAll_below hheld
  have hspent : (t.slots.releaseAll n.releaseOrderBelow).Spent k := by
    refine hheld.spent hreleased (Slots.le_releaseAll _ _) (List.mem_append_left _ hold) ?_
    rw [List.mem_cons, not_or, id_of_node? hn]
    exact ⟨hne, List.disjoint_of_nodup_append hheld.nodup hold⟩
  have hspent' : (t.replaceWith id v).slots.Spent k := by
    rw [replaceWith_of_node? hn]
    exact (Node.le_build _ _ _).spent hspent
  have hlive : k ∈ (t.replaceWith id v).ids := hids'.mem_iff.2 (List.mem_append_left _ hmem)
  exact (hl.sound h).handles.not_spent hw hlive hspent'

/-- Apart from the node's own handle, a value that is put into it brings in none that was in use at a
time since when no generations have come back. -/
theorem eq_of_mem_build_of_near (h : t.Sound) (hn : t.node? id = some n) {v : Json} (hv : v.Distinct)
    {s : Slots} {live : List NodeId} (hs : s.Holds live) (hle : s.LE t.slots)
    (hnear : s.Near (t.replaceWith id v).slots)
    (hmem : k ∈ (Node.build id v (t.slots.releaseAll n.releaseOrderBelow)).1.ids)
    (hlive : k ∈ live) : k = id := by
  by_contra hne
  obtain ⟨others, hids, hids'⟩ := h.ids_replace hn
    (Node.build id v (t.slots.releaseAll n.releaseOrderBelow)).1
  rw [← tops_replaceWith hn] at hids'
  have hsound := h.replaceWith id hv
  have hreleased := Node.holds_releaseAll_below (h.handles.of_perm hids)
  rw [id_of_node? hn] at hreleased
  -- between the release and the allocation the handle was not in use
  have hgone : k ∉ id :: others := by
    rw [List.mem_cons, not_or]
    exact ⟨hne, List.disjoint_of_nodup_append (hids'.nodup_iff.1 hsound.handles.nodup) hmem⟩
  have hbuild : (t.slots.releaseAll n.releaseOrderBelow).LE (t.replaceWith id v).slots := by
    rw [replaceWith_of_node? hn]
    exact Node.le_build _ _ _
  exact hs.notMem_of_near hreleased hsound.handles (hle.trans (Slots.le_releaseAll _ _)) hbuild hnear
    hlive hgone (hids'.mem_iff.2 (List.mem_append_left _ hmem))

/-- Putting a value into a node releases no slot twice. -/
theorem count_replaceWith_le (h : t.Sound) (hn : t.node? id = some n) (v : Json) (slot : Nat) :
    (t.replaceWith id v).slots.count slot ≤ t.slots.count slot + 1 := by
  obtain ⟨others, hids, -⟩ := h.ids_replace hn n
  have hheld := (h.handles.of_perm hids).of_perm (n.ids_append_perm others)
  rw [replaceWith_of_node? hn, Node.count_build]
  exact Slots.count_releaseAll_le _ hheld slot

/-- The handles of a computed result were not seen before. -/
theorem not_seen_resultNode (h : t.Sound) {v : Json} (hv : v.Distinct)
    (hw : (t.adoptScratch v).2.slots.Unwrapped) (hmem : k ∈ (t.resultNode v).ids) :
    ¬ t.Seen k := by
  intro hk
  have hl : t.Leads (t.adoptScratch v).2 := .single (.adoptScratch t hv)
  have hids := t.ids_adoptScratch v
  have hold := hl.mem_ids_of_seen h hw hk (hids ▸ List.mem_append_right _ hmem)
  exact List.disjoint_of_nodup_append (hids ▸ (hl.sound h).handles.nodup) hold hmem

theorem nodup_resultNode (h : t.Sound) {v : Json} (hv : v.Distinct) :
    (t.resultNode v).ids.Nodup := by
  have hnodup := (h.adoptScratch hv).handles.nodup
  rw [ids_adoptScratch] at hnodup
  exact (List.nodup_append.1 hnodup).2.1

end Sound

end DocPath.Tree

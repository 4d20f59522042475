import DocPath.Proofs.Node.Patch
import DocPath.Proofs.Tree.Reachable
import DocPath.Proofs.Tree.Set
import DocPath.Proofs.Tree.Stale

/-!
# Changes at two nodes

A node of the document is given a value or killed, and so is another one. If neither is above the
other, the order does not matter (`write_comm`).

Either change patches the document at its handle (`Patched`), and patches at two handles can be done
in either order. But slots are released and allocated in another order, so the new parts have other
handles. None of them was live before the two changes: a slot of a part that was released has another
generation afterwards, since each change releases a slot at most once. So the two documents are the
same up to the handles of new parts, and the trees show the same through every handle that was live.
-/

namespace DocPath.Tree

open Node (patch patchIds)

variable {t u : Tree} {a b id i : NodeId} {m : Node} {x y : Option Node}

/-- A change of a node of the document. -/
inductive Write
  | value (v : Json)
  | kill

namespace Write

/-- No object in the value has a key twice. -/
def Distinct : Write → Prop
  | value v => v.Distinct
  | kill => True

/-- The value that the node has afterwards. -/
def value? : Write → Option Json
  | value v => some v
  | kill => none

end Write

/-- Changes a node. -/
def write (t : Tree) (id : NodeId) : Write → Tree
  | .value v => t.replaceWith id v
  | .kill => (t.kill id).2

/-! ### One change -/

/-- A tree in which the document is patched at a handle, and nothing else is changed. -/
structure Patched (t : Tree) (id : NodeId) (w : Write) (new : Option Node) (t' : Tree) : Prop where
  root : t'.root = t.root.patch id new
  adopted : t'.adopted = t.adopted
  scratch : t'.scratch = t.scratch
  value : new.map Node.toJson = w.value?
  handle : ∀ m ∈ new, m.id = id
  /-- The handles that the patch brings in take the place of those of the node. -/
  ids : ∃ n others, t.node? id = some n ∧ t.ids.Perm (n.ids ++ others) ∧
    t'.ids.Perm (patchIds new ++ others)
  sound : t'.Sound
  le : t.slots.LE t'.slots
  /-- No slot is released twice. -/
  count : ∀ slot, t'.slots.count slot ≤ t.slots.count slot + 1
  /-- Apart from the node's own, the patch brings in no handle that was in use at a time since when
  no generations have come back. -/
  fresh : ∀ {s : Slots} {live : List NodeId}, s.Holds live → s.LE t.slots → s.Near t'.slots →
    ∀ i ∈ patchIds new, i ∈ live → i = id

namespace Sound

/-- The nodes beside the document have no handles of it. -/
theorem notMem_of_mem_root (h : t.Sound) (hid : id ∈ t.root.ids) (hm : m ∈ t.adopted ++ t.scratch) :
    id ∉ m.ids := by
  have hnodup := h.handles.nodup
  rw [ids, tops, List.flatMap_cons] at hnodup
  exact fun hmem ↦ List.disjoint_of_nodup_append hnodup hid (List.mem_flatMap.2 ⟨m, hm, hmem⟩)

/-- What a change by a handle of the document does not find is left as it is. -/
theorem map_of_mem_root (h : t.Sound) (hid : id ∈ t.root.ids) {f : Node → Node}
    (hf : ∀ m, id ∉ m.ids → f m = m) :
    t.adopted.map f = t.adopted ∧ t.scratch.map f = t.scratch := by
  constructor
  · refine (List.map_congr_left fun m hm ↦ ?_).trans (List.map_id _)
    exact hf m (h.notMem_of_mem_root hid (List.mem_append_left _ hm))
  · refine (List.map_congr_left fun m hm ↦ ?_).trans (List.map_id _)
    exact hf m (h.notMem_of_mem_root hid (List.mem_append_right _ hm))

theorem patched_value (h : t.Sound) (hid : id ∈ t.root.ids) {v : Json} (hv : v.Distinct) :
    ∃ new, Patched t id (.value v) new (t.replaceWith id v) := by
  obtain ⟨n, hn⟩ := exists_node? (mem_ids_of_mem_root hid)
  obtain ⟨others, hids, hids'⟩ := h.ids_replace hn
    (Node.build id v (t.slots.releaseAll n.releaseOrderBelow)).1
  rw [← tops_replaceWith hn] at hids'
  have hrest := h.map_of_mem_root hid fun m hm ↦ Node.replace_of_notMem
    (Node.build id v (t.slots.releaseAll n.releaseOrderBelow)).1 hm
  have hlist : ∀ m : Node, patchIds (some m) = m.ids := fun m ↦ List.flatMap_singleton Node.ids m
  refine ⟨some (Node.build id v (t.slots.releaseAll n.releaseOrderBelow)).1,
    root_replaceWith_of_node? hn v, ?_, ?_, congrArg some (Node.toJson_build ..), ?_,
    ⟨n, others, hn, hids, ?_⟩, h.replaceWith id hv, le_replaceWith t id v,
    h.count_replaceWith_le hn v, ?_⟩
  · rw [replaceWith_of_node? hn]
    exact hrest.1
  · rw [replaceWith_of_node? hn]
    exact hrest.2
  · rintro m ⟨⟩
    exact Node.id_build ..
  · rw [hlist]
    exact hids'
  · intro s live hs hle hnear i hi hlive
    rw [hlist] at hi
    exact h.eq_of_mem_build_of_near hn hv hs hle hnear hi hlive

theorem patched_kill (h : t.Sound) (hid : id ∈ t.root.ids) (hroot : id ≠ t.root.id) :
    Patched t id .kill none (t.kill id).2 := by
  obtain ⟨n, rfl, hfind, htop, hkill⟩ := h.kill_eq_remove hid hroot
  have hn := node?_of_find?_root hfind
  have hids := h.ids_remove hn htop
  have hrest := h.map_of_mem_root hid fun m hm ↦ Node.erase_of_notMem hm
  have hnone : ∀ i, i ∉ patchIds none := fun i ↦ List.not_mem_nil
  rw [hkill]
  exact {
    root := rfl
    adopted := hrest.1
    scratch := hrest.2
    value := rfl
    handle := fun m hm ↦ absurd hm (Option.not_mem_none m)
    ids := ⟨n, (t.remove n).ids, hn, hids, .refl _⟩
    sound := h.remove hn htop
    le := Slots.le_releaseAll _ _
    count := Slots.count_releaseAll_le n.releaseOrder
      ((h.handles.of_perm hids).of_perm (n.releaseOrder_perm.symm.append_right _))
    fresh := fun _ _ _ i hi ↦ absurd hi (hnone i) }

/-- A change of a node of the document other than the root is a patch. -/
theorem patched_write (h : t.Sound) (hid : id ∈ t.root.ids) (hroot : id ≠ t.root.id) {w : Write}
    (hw : w.Distinct) : ∃ new, Patched t id w new (t.write id w) := by
  cases w with
  | value v => exact h.patched_value hid hw
  | kill => exact ⟨none, h.patched_kill hid hroot⟩

end Sound

/-! ### Two changes -/

variable {v w : Write} {x' y' : Option Node} {t₁ t₂ : Tree}

namespace Patched

/-- A node of the document that is not below a patched one is still there. -/
theorem mem_root (hp : Patched t a v x t₁) (h : t.Sound) (hb : b ∈ t.root.ids) (hab : a ≠ b)
    (habove : a ∉ t.ancestors b) : b ∈ t₁.root.ids := by
  obtain ⟨n, others, hn, hids, hids'⟩ := hp.ids
  have hother : b ∈ others := by
    refine (List.mem_append.1 (hids.mem_iff.1 (mem_ids_of_mem_root hb))).resolve_left fun hbn ↦ ?_
    exact (h.eq_or_mem_ancestors hn hbn).elim hab habove
  obtain ⟨m, hm, hbm⟩ := List.mem_flatMap.1 (hids'.mem_iff.2 (List.mem_append_right _ hother))
  rw [tops, hp.adopted, hp.scratch, List.mem_cons] at hm
  rcases hm with rfl | hm
  · exact hbm
  · exact absurd hbm (h.notMem_of_mem_root hb hm)

theorem root_id (hp : Patched t a v x t₁) : t₁.root.id = t.root.id := by
  rw [hp.root, Node.id_patch hp.handle]

theorem nodup (hp : Patched t a v x t₁) : (patchIds x).Nodup := by
  obtain ⟨n, others, -, -, hids'⟩ := hp.ids
  exact (List.nodup_append.1 (hids'.nodup_iff.1 hp.sound.handles.nodup)).1

theorem subset (hp : Patched t a v x t₁) : patchIds x ⊆ t₁.ids := by
  obtain ⟨n, others, -, -, hids'⟩ := hp.ids
  exact fun i hi ↦ hids'.mem_iff.2 (List.mem_append_left _ hi)

/-- A patch brings in its own handle and such as were not live. -/
theorem eq_of_mem (hp : Patched t a v x t₁) (h : t.Sound) (hi : i ∈ patchIds x)
    (hlive : i ∈ t.ids) : i = a := by
  refine hp.fresh h.handles (.refl _) (fun slot ↦ ?_) i hi hlive
  have := hp.count slot
  omega

/-- A second patch brings in its own handle and such as were not live before the first one. -/
theorem eq_of_mem_second (hp : Patched t a v x t₁) (hq : Patched t₁ b w y t₂) (h : t.Sound)
    (hi : i ∈ patchIds y) (hlive : i ∈ t.ids) : i = b := by
  refine hq.fresh h.handles hp.le (fun slot ↦ ?_) i hi hlive
  have hfirst := hp.count slot
  have hsecond := hq.count slot
  omega

/-- Two patches bring in different handles. -/
theorem nodup_append (hp : Patched t a v x t₁) (hq : Patched t₁ b w y t₂) (h : t.Sound)
    (hab : a ≠ b) (hb : b ∈ t.ids) : (patchIds x ++ patchIds y).Nodup := by
  refine hp.nodup.append hq.nodup fun i hi hi' ↦ ?_
  obtain rfl := hq.eq_of_mem hp.sound hi' (hp.subset hi)
  exact hab (hp.eq_of_mem h hi hb).symm

theorem patchIds_append (x y : Option Node) :
    (x.toList ++ y.toList).flatMap Node.ids = patchIds x ++ patchIds y :=
  List.flatMap_append

/-- Renaming what one patch brings in to what another one does leaves their handle as it is. -/
theorem rename_handle {σ : Renaming} (hσ : x.map (Node.rename σ) = x') (hx : ∀ m ∈ x, m.id = a)
    (hx' : ∀ m ∈ x', m.id = a) (hi : i ∈ patchIds x ∨ i ∈ patchIds x') : σ a = a := by
  cases x with
  | none =>
    subst hσ
    exact absurd (hi.elim id id) List.not_mem_nil
  | some m =>
    have hm : (m.rename σ).id = a := hx' _ hσ.symm
    rwa [Node.id_rename, hx m rfl] at hm

/-- Patches of the same values at two handles give the same document in either order, up to the
handles of new parts. -/
theorem exists_rename {t₁₂ t₂₁ : Tree} (h : t.Sound) (hab : a ≠ b) (ha : a ∈ t.ids) (hb : b ∈ t.ids)
    (hp : Patched t a v x t₁) (hq : Patched t₁ b w y t₁₂) (hq' : Patched t b w y' t₂)
    (hp' : Patched t₂ a v x' t₂₁) :
    ∃ σ : Renaming, (∀ i ∈ t.ids, σ i = i) ∧ t₂₁.root = t₁₂.root.rename σ := by
  have hx := congrArg Option.toList (hp.value.trans hp'.value.symm)
  have hy := congrArg Option.toList (hq.value.trans hq'.value.symm)
  rw [Option.toList_map, Option.toList_map] at hx hy
  have hvalues : (x.toList ++ y.toList).map Node.toJson =
      (x'.toList ++ y'.toList).map Node.toJson := by
    rw [List.map_append, List.map_append, hx, hy]
  have hnodup := hp.nodup_append hq h hab hb
  have hnodup' := hq'.nodup_append hp' h hab.symm ha
  rw [← patchIds_append] at hnodup hnodup'
  obtain ⟨σ, hσ, hsame⟩ := Node.exists_rename (.refl _) _ _ hvalues hnodup
    ((List.perm_append_comm.flatMap_right Node.ids).nodup_iff.1 hnodup')
  rw [List.map_append] at hσ
  obtain ⟨hσx, hσy⟩ := List.append_inj hσ (by simpa using congrArg List.length hx)
  rw [← Option.toList_map] at hσx hσy
  replace hσx := congrArg List.head? hσx
  replace hσy := congrArg List.head? hσy
  rw [Option.head?_toList, Option.head?_toList] at hσx hσy
  have hfix : ∀ i ∈ t.ids, σ i = i := by
    intro i hi
    by_cases hx : i ∈ patchIds x ∨ i ∈ patchIds x'
    · obtain rfl : i = a := hx.elim (hp.eq_of_mem h · hi) (hq'.eq_of_mem_second hp' h · hi)
      exact rename_handle hσx hp.handle hp'.handle hx
    · by_cases hy : i ∈ patchIds y ∨ i ∈ patchIds y'
      · obtain rfl : i = b := hy.elim (hp.eq_of_mem_second hq h · hi) (hq'.eq_of_mem h · hi)
        exact rename_handle hσy hq.handle hq'.handle hy
      · rw [not_or] at hx hy
        refine hsame i ?_ ?_
        · rw [patchIds_append, List.mem_append, not_or]
          exact ⟨hx.1, hy.1⟩
        · rw [patchIds_append, List.mem_append, not_or]
          exact ⟨hx.2, hy.2⟩
  have hroot : t.root.rename σ = t.root := by
    refine Node.rename_of_ids rfl ((List.map_congr_left fun i hi ↦ ?_).trans (List.map_id _))
    exact hfix i (mem_ids_of_mem_root hi)
  refine ⟨σ, hfix, ?_⟩
  calc t₂₁.root = patch a x' (patch b y' t.root) := by rw [hp'.root, hq'.root]
    _ = patch b y' (patch a x' t.root) := by
      refine Node.patch_comm hab hp'.handle hq'.handle (fun hmem ↦ ?_) (fun hmem ↦ ?_) _
      · exact hab (hq'.eq_of_mem_second hp' h hmem hb).symm
      · exact hab (hq'.eq_of_mem h hmem ha)
    _ = (patch b y (patch a x t.root)).rename σ := by
      rw [← Node.patch_rename, ← Node.patch_rename, hroot, hfix a ha, hfix b hb, hσx, hσy]
    _ = t₁₂.root.rename σ := by rw [hq.root, hp.root]

end Patched

/-! ### What handles show -/

/-- The key of a node is the last one on the way down to it. -/
theorem key?_eq (t : Tree) (id : NodeId) :
    t.key? id = ((t.tops.findSome? (Node.keysTo? id)).getD []).getLast? := by
  have hkeys : t.tops.findSome? (Node.keysTo? id) =
      (t.tops.findSome? (Node.trail? id)).map fun steps ↦ steps.map Step.key := by
    rw [List.map_findSome?]
    rfl
  rw [key?, lastStep?, trail, hkeys]
  cases t.tops.findSome? (Node.trail? id) with
  | none => rfl
  | some steps => exact List.getLast?_map.symm

/-- Trees with the same nodes beside documents that are the same up to some handles show the same
through the others. -/
theorem eq_of_rename {σ : Renaming} (hroot : u.root = t.root.rename σ)
    (hadopted : u.adopted = t.adopted) (hscratch : u.scratch = t.scratch) (hi : σ i = i) :
    u.contains i = t.contains i ∧ u.key? i = t.key? i := by
  have hfind : (t.root.rename σ).find? i = (t.root.find? i).map (Node.rename σ) := by
    rw [← t.root.find?_rename σ i, hi]
  have hkeys : (t.root.rename σ).keysTo? i = t.root.keysTo? i := by
    rw [← t.root.keysTo?_rename σ i, hi]
  constructor
  · rw [contains, contains, node?, node?, tops, tops, hroot, hadopted, hscratch,
      List.findSome?_cons, List.findSome?_cons, hfind]
    cases t.root.find? i <;> rfl
  · rw [key?_eq, key?_eq, tops, tops, hroot, hadopted, hscratch, List.findSome?_cons,
      List.findSome?_cons, hkeys]

/-- Changes of two nodes of the document, neither of which is above the other, can be made in either
order: the document is the same, and of the handles that were live before the same ones still are,
with the same keys. -/
theorem write_comm (ht : t.Reachable) (ha : a ∈ t.root.ids) (hb : b ∈ t.root.ids)
    (haroot : a ≠ t.root.id) (hbroot : b ≠ t.root.id) (hab : a ≠ b) (habove : a ∉ t.ancestors b)
    (hbelow : b ∉ t.ancestors a) (hv : v.Distinct) (hw : w.Distinct) :
    ((t.write b w).write a v).document = ((t.write a v).write b w).document ∧
      ∀ i, t.contains i →
        ((t.write b w).write a v).contains i = ((t.write a v).write b w).contains i ∧
        ((t.write b w).write a v).key? i = ((t.write a v).write b w).key? i := by
  have h := ht.sound
  obtain ⟨x, hp⟩ := h.patched_write ha haroot hv
  obtain ⟨y', hq'⟩ := h.patched_write hb hbroot hw
  obtain ⟨y, hq⟩ := hp.sound.patched_write (hp.mem_root h hb hab habove)
    (hp.root_id ▸ hbroot) hw
  obtain ⟨x', hp'⟩ := hq'.sound.patched_write (hq'.mem_root h ha hab.symm hbelow)
    (hq'.root_id ▸ haroot) hv
  obtain ⟨σ, hfix, hroot⟩ := Patched.exists_rename h hab (mem_ids_of_mem_root ha)
    (mem_ids_of_mem_root hb) hp hq hq' hp'
  refine ⟨by rw [document, hroot, Node.toJson_rename, document], fun i hi ↦ ?_⟩
  refine eq_of_rename hroot ?_ ?_ (hfix i (contains_iff.1 hi))
  · rw [hp'.adopted, hq'.adopted, hq.adopted, hp.adopted]
  · rw [hp'.scratch, hq'.scratch, hq.scratch, hp.scratch]

/-- A node that gets other parts, and its neighbour, behind which the others move up. -/
theorem write_comm_neighbours :
    ((((ofJson .empty (.array [.array [.null], .null, .null])).write ⟨3, 0⟩ .kill).write ⟨1, 0⟩
          (.value (.array [.array []]))).document =
        (((ofJson .empty (.array [.array [.null], .null, .null])).write ⟨1, 0⟩
          (.value (.array [.array []]))).write ⟨3, 0⟩ .kill).document) ∧
      (((ofJson .empty (.array [.array [.null], .null, .null])).write ⟨1, 0⟩
          (.value (.array [.array []]))).write ⟨3, 0⟩ .kill).document =
        .array [.array [.array []], .null] ∧
      (((ofJson .empty (.array [.array [.null], .null, .null])).write ⟨3, 0⟩ .kill).write ⟨1, 0⟩
          (.value (.array [.array []]))).key? ⟨4, 0⟩ = some (.index 1) := by
  have ht : (ofJson .empty (.array [.array [.null], .null, .null])).Reachable :=
    .ofJson _ (by simp)
  have hcomm := write_comm (a := ⟨1, 0⟩) (b := ⟨3, 0⟩) (v := .value (.array [.array []]))
    (w := .kill) ht (by decide +kernel) (by decide +kernel) (by decide +kernel) (by decide +kernel)
    (by decide) (by decide +kernel) (by decide +kernel) (by simp [Write.Distinct]) trivial
  refine ⟨hcomm.1, rfl, (hcomm.2 ⟨4, 0⟩ (by decide +kernel)).2.trans rfl⟩

end DocPath.Tree

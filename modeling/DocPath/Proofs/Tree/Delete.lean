import DocPath.Proofs.Tree.Document
import DocPath.Proofs.Tree.Reachable
import Mathlib.Data.Finset.Card

/-!
# Deleting what a path leads to

Matches are removed one after the other, so every later one may have another position when its turn
comes, or be gone with a node above it. In the end the document is the old one without the matches
(`Node.prune`), and the matches that were still there when their turn came are those with no match
above them, each of them once (`delete_matched`). The second holds since no match is found before
the matches above it.
-/

namespace DocPath

namespace Node

/-! ### Pruning -/

mutual

/-- The node without those of some handles below it. What is left keeps its order. -/
def prune (ids : List NodeId) : Node → Node
  | scalar i s => scalar i s
  | sequence i items => sequence i (pruneItems ids items)
  | map i entries => map i (pruneEntries ids entries)

def pruneItems (ids : List NodeId) : List Node → List Node
  | [] => []
  | n :: rest => if n.id ∈ ids then pruneItems ids rest else n.prune ids :: pruneItems ids rest

def pruneEntries (ids : List NodeId) : List (String × Node) → List (String × Node)
  | [] => []
  | (k, n) :: rest =>
    if n.id ∈ ids then pruneEntries ids rest else (k, n.prune ids) :: pruneEntries ids rest

end

variable {n m x : Node} {ids : List NodeId} {id : NodeId}

theorem pruneItems_eq (ids : List NodeId) (items : List Node) :
    pruneItems ids items = (items.filter (·.id ∉ ids)).map (prune ids) := by
  induction items with
  | nil => rfl
  | cons n rest ih => by_cases h : n.id ∈ ids <;> simp [pruneItems, h, ih]

theorem pruneEntries_eq (ids : List NodeId) (entries : List (String × Node)) :
    pruneEntries ids entries =
      (entries.filter (·.2.id ∉ ids)).map fun entry ↦ (entry.1, prune ids entry.2) := by
  induction entries with
  | nil => rfl
  | cons entry rest ih => by_cases h : entry.2.id ∈ ids <;> simp [pruneEntries, h, ih]

@[simp] theorem id_prune (ids : List NodeId) (n : Node) : (n.prune ids).id = n.id := by
  cases n <;> rfl

@[simp] theorem childNodes_prune (ids : List NodeId) (n : Node) :
    (n.prune ids).childNodes = (n.childNodes.filter (·.id ∉ ids)).map (prune ids) := by
  cases n <;>
    simp [prune, pruneItems_eq, pruneEntries_eq, List.filter_map, Function.comp_def]

/-- Without handles nothing is pruned. -/
theorem prune_nil (n : Node) : n.prune [] = n := by
  induction n using induction_children with
  | step n ih =>
    refine Eq.trans ?_ (mapChildren_eq_self ih)
    cases n <;> simp [prune, pruneItems_eq, pruneEntries_eq, mapChildren]

/-- One more node is pruned by erasing it. -/
theorem erase_prune (id : NodeId) (ids : List NodeId) (n : Node) :
    (n.prune ids).erase id = n.prune (ids ++ [id]) := by
  induction n using induction_children with
  | step n ih =>
    cases n with
    | scalar i s => rfl
    | sequence i items =>
      simp only [childNodes_sequence] at ih
      simp only [prune, erase, pruneItems_eq, eraseItems_eq, List.filter_map, List.filter_filter,
        List.map_map, sequence.injEq, true_and]
      have hkept : ∀ c ∈ items, (decide (c.id ≠ id) && decide (c.id ∉ ids)) =
          decide (c.id ∉ ids ++ [id]) := fun c _ ↦ by simp [and_comm]
      simp only [Function.comp_def, id_prune]
      rw [List.filter_congr hkept]
      exact List.map_congr_left fun c hc ↦ ih c (List.mem_of_mem_filter hc)
    | map i entries =>
      simp only [childNodes_map] at ih
      simp only [prune, erase, pruneEntries_eq, eraseEntries_eq, List.filter_map,
        List.filter_filter, List.map_map, map.injEq, true_and]
      have hkept : ∀ e ∈ entries, (decide (e.2.id ≠ id) && decide (e.2.id ∉ ids)) =
          decide (e.2.id ∉ ids ++ [id]) := fun e _ ↦ by simp [and_comm]
      simp only [Function.comp_def, id_prune]
      rw [List.filter_congr hkept]
      exact List.map_congr_left fun e he ↦
        congrArg (Prod.mk e.1) (ih e.2 (List.mem_map_of_mem (List.mem_of_mem_filter he)))

theorem ids_prune_subset (ids : List NodeId) (n : Node) : (n.prune ids).ids ⊆ n.ids := by
  induction n using induction_children with
  | step n ih =>
    intro i hi
    rcases mem_ids.1 hi with rfl | ⟨d, hd, hid⟩
    · rw [id_prune]
      exact n.id_mem_ids
    · rw [childNodes_prune] at hd
      obtain ⟨c, hc, rfl⟩ := List.mem_map.1 hd
      exact ids_subset_of_mem_childNodes (List.mem_of_mem_filter hc)
        (ih c (List.mem_of_mem_filter hc) hid)

/-- A node is left exactly if neither it nor a node above it was pruned. -/
theorem mem_ids_prune_fill {c : Context} (hn : (Context.fill c m).ids.Nodup)
    (hroot : (Context.fill c m).id ∉ ids) :
    m.id ∈ ((Context.fill c m).prune ids).ids ↔ ∀ i ∈ Context.spine c ++ [m.id], i ∉ ids := by
  induction c with
  | nil =>
    have hself : m.id ∈ (m.prune ids).ids := m.id_prune ids ▸ id_mem_ids _
    simpa [hself] using hroot
  | cons f c ih =>
    rw [Context.fill_cons, Frame.id_fill] at hroot
    rw [Context.fill_cons] at hn ⊢
    have hm : m.id ∈ (Context.fill c m).ids := Context.mem_ids_fill.2 (.inr m.id_mem_ids)
    have hchild := mem_childNodes.2 ⟨f.key, f.key_mem_children_fill (Context.fill c m)⟩
    -- the node is below no other child of the outermost container
    have hbelow : m.id ∈ ((f.fill (Context.fill c m)).prune ids).ids ↔
        (Context.fill c m).id ∉ ids ∧ m.id ∈ ((Context.fill c m).prune ids).ids := by
      have hne : m.id ≠ f.close.id := fun heq ↦ List.disjoint_of_nodup_append
        ((f.ids_fill _).nodup_iff.1 hn) f.id_close_mem_ids (heq ▸ hm)
      rw [mem_ids, id_prune, Frame.id_fill, childNodes_prune]
      constructor
      · rintro (heq | ⟨d, hd, hid⟩)
        · exact absurd heq hne
        · obtain ⟨x, hx, rfl⟩ := List.mem_map.1 hd
          obtain rfl := eq_of_mem_ids_childNodes hn (List.mem_of_mem_filter hx) hchild
            (ids_prune_subset ids x hid) hm
          exact ⟨by simpa using (List.mem_filter.1 hx).2, hid⟩
      · rintro ⟨hkept, hid⟩
        exact .inr ⟨_, List.mem_map_of_mem (List.mem_filter.2 ⟨hchild, by simpa using hkept⟩), hid⟩
    rw [hbelow, Context.spine_cons, List.cons_append, List.forall_mem_cons]
    by_cases hkept : (Context.fill c m).id ∈ ids
    · refine iff_of_false (fun h ↦ h.1 hkept) fun h ↦ h.2 _ (Context.id_fill_mem c m) hkept
    · rw [ih (Context.nodup_of_nodup_fill (c := [f]) hn) hkept]
      exact and_congr_left fun _ ↦ iff_of_true hkept hroot

end Node

namespace Tree

variable {t : Tree} {id : NodeId} {ids : List NodeId} {m : Node}

/-! ### Killing matches -/

/-- The handles of nodes below the root among some handles. -/
def removable (t : Tree) (ids : List NodeId) : List NodeId :=
  ((t.attached ids).map Node.id).filter (· ≠ t.root.id)

theorem removable_append (t : Tree) (ids others : List NodeId) :
    t.removable (ids ++ others) = t.removable ids ++ t.removable others := by
  rw [removable, attached_append, List.map_append, List.filter_append]
  rfl

theorem removable_singleton (t : Tree) (id : NodeId) :
    t.removable [id] = if id ∈ t.root.ids ∧ id ≠ t.root.id then [id] else [] := by
  rw [removable, attached_cons]
  cases hfind : t.root.find? id with
  | none => simp [attached, Node.find?_eq_none.1 hfind]
  | some m =>
    have hid := Node.mem_ids_of_find? hfind
    obtain rfl := Node.id_of_find? hfind
    by_cases hroot : m.id = t.root.id <;> simp [attached, hid, hroot]

theorem killAll_concat (t : Tree) (ids : List NodeId) (id : NodeId) :
    t.killAll (ids ++ [id]) =
      ((t.killAll ids).1 + (if ((t.killAll ids).2.kill id).1 then 1 else 0),
        ((t.killAll ids).2.kill id).2) := by
  induction ids generalizing t with
  | nil => rfl
  | cons i rest ih =>
    rw [List.cons_append, killAll_cons, ih, killAll_cons]
    simp only [Prod.mk.injEq, and_true]
    omega

/-- What is killed is pruned. -/
theorem root_killAll (t : Tree) (ids : List NodeId) :
    (t.killAll ids).2.root = t.root.prune (t.removable ids) := by
  induction ids using List.reverseRecOn with
  | nil => exact t.root.prune_nil.symm
  | append_singleton ids id ih =>
    rw [killAll_concat, root_kill, ih, removable_append, removable_singleton, Node.id_prune]
    by_cases hid : id ∈ t.root.ids ∧ id ≠ t.root.id
    · rw [if_pos hid, ← Node.erase_prune]
      split
      · rfl
      · -- the node is gone with one above it
        rename_i hgone
        exact (Node.erase_of_notMem fun hmem ↦ hgone ⟨hmem, hid.2⟩).symm
    · rw [if_neg hid, List.append_nil, if_neg]
      exact fun h ↦ hid ⟨Node.ids_prune_subset _ _ h.1, h.2⟩

/-! ### Counting -/

theorem mem_outermost_concat {i : NodeId} (hself : id ∉ t.ancestors id)
    (habove : ∀ i ∈ ids, id ∈ t.ancestors i → id ∈ ids) :
    i ∈ t.outermost (ids ++ [id]) ↔
      i ∈ t.outermost ids ∨ i = id ∧ ∀ a ∈ t.ancestors id, a ∉ ids := by
  simp only [mem_outermost, List.mem_append, List.mem_singleton, not_or]
  constructor
  · rintro ⟨hi | rfl, hfree⟩
    · exact .inl ⟨hi, fun a ha ↦ (hfree a ha).1⟩
    · exact .inr ⟨rfl, fun a ha ↦ (hfree a ha).1⟩
  · rintro (⟨hi, hfree⟩ | ⟨rfl, hfree⟩)
    · refine ⟨.inl hi, fun a ha ↦ ⟨hfree a ha, ?_⟩⟩
      rintro rfl
      exact hfree a ha (habove i hi ha)
    · refine ⟨.inr rfl, fun a ha ↦ ⟨hfree a ha, ?_⟩⟩
      rintro rfl
      exact hself ha

/-- One more handle is one more outermost one if it is new and there is none above it. -/
theorem card_outermost_concat (hself : id ∉ t.ancestors id)
    (habove : ∀ i ∈ ids, id ∈ t.ancestors i → id ∈ ids) :
    (t.outermost (ids ++ [id])).toFinset.card =
      (t.outermost ids).toFinset.card +
        if ∀ i ∈ id :: t.ancestors id, i ∉ ids then 1 else 0 := by
  have hmem : ∀ i, i ∈ t.outermost (ids ++ [id]) ↔ _ := fun i ↦ mem_outermost_concat hself habove
  by_cases hfree : ∀ a ∈ t.ancestors id, a ∉ ids
  · have hinsert : (t.outermost (ids ++ [id])).toFinset =
        insert id (t.outermost ids).toFinset := by
      ext i
      rw [List.mem_toFinset, hmem, and_iff_left hfree, Finset.mem_insert, List.mem_toFinset, or_comm]
    rw [hinsert]
    by_cases hid : id ∈ ids
    · have hold : id ∈ (t.outermost ids).toFinset :=
        List.mem_toFinset.2 (mem_outermost.2 ⟨hid, hfree⟩)
      rw [Finset.insert_eq_of_mem hold, if_neg fun h ↦ h id (List.mem_cons_self ..) hid]
      rfl
    · have hnew : id ∉ (t.outermost ids).toFinset := fun h ↦
        hid (mem_outermost.1 (List.mem_toFinset.1 h)).1
      rw [Finset.card_insert_of_notMem hnew, if_pos fun i hi ↦
        (List.mem_cons.1 hi).elim (fun heq ↦ heq ▸ hid) (hfree i)]
  · have hsame : (t.outermost (ids ++ [id])).toFinset = (t.outermost ids).toFinset := by
      ext i
      rw [List.mem_toFinset, hmem, List.mem_toFinset, or_iff_left fun h ↦ hfree h.2]
    rw [hsame, if_neg fun h ↦ hfree (List.forall_mem_cons.1 h).2]
    rfl

/-- Of matches found from the top down those are killed that have no match above them, each of them
once. -/
theorem Sound.killAll_fst (h : t.Sound) (hids : Node.TopDown (t.attached ids)) :
    (t.killAll ids).1 = (t.outermost (t.removable ids)).toFinset.card := by
  have hn := h.nodup_ids_root
  induction ids using List.reverseRecOn with
  | nil => rfl
  | append_singleton ids id ih =>
    rw [attached_append] at hids
    rw [killAll_concat, ih hids.of_append, kill_fst, root_killAll, Node.id_prune, removable_append,
      removable_singleton]
    by_cases hid : id ∈ t.root.ids ∧ id ≠ t.root.id
    · obtain ⟨m, hfind⟩ := Node.exists_find? hid.1
      obtain rfl := Node.id_of_find? hfind
      have hm := Node.mem_of_find? hfind
      obtain ⟨c, hroot⟩ := Node.exists_fill_of_mem hm
      have hkilled : m.id ∈ (t.root.prune (t.removable ids)).ids ↔
          ∀ i ∈ m.id :: t.ancestors m.id, i ∉ t.removable ids := by
        have hkeep : t.root.id ∉ t.removable ids := by simp [removable]
        rw [hroot] at hn hkeep
        rw [h.ancestors_root hroot, hroot, Node.mem_ids_prune_fill hn hkeep]
        simp [or_imp, forall_and, and_comm]
      -- a match above another one has been found before
      have habove : ∀ i ∈ t.removable ids, m.id ∈ t.ancestors i → m.id ∈ t.removable ids := by
        intro i hi ha
        obtain ⟨x, hx, rfl⟩ := List.mem_map.1 (List.mem_of_mem_filter hi)
        have hbelow := h.mem_descendants_of_ancestors hm
          (Node.mem_of_find? (mem_attached.1 hx).2) ha
        have hbefore := hids _ m [] (by simp [attached, hfind]) x hx hbelow
        exact List.mem_filter.2 ⟨List.mem_map_of_mem hbefore, decide_eq_true hid.2⟩
      have hself : m.id ∉ t.ancestors m.id := fun ha ↦
        Node.notMem_descendants (Node.nodup_of_mem hn hm) (h.mem_descendants_of_ancestors hm hm ha)
      rw [if_pos hid, card_outermost_concat hself habove]
      simp only [hkilled, hid.2, ne_eq, not_false_eq_true, and_true, decide_eq_true_eq]
    · rw [if_neg hid, List.append_nil, if_neg]
      · rfl
      · rw [decide_eq_true_iff]
        exact fun hkill ↦ hid ⟨Node.ids_prune_subset _ _ hkill.1, hkill.2⟩

/-! ### One path -/

/-- Deleting what a path leads to removes the nodes of the document below the root that it leads to,
each with all that is below it, and nothing else. The count is that of the different nodes among
them that have none of them above. -/
theorem delete_matched (ht : t.Reachable) {raw : String} {p : Path}
    (hp : Path.parse raw = .ok p) :
    (t.delete [raw]).2.root = t.root.prune (t.removable (t.findPath p).1) ∧
      (t.delete [raw]).1 =
        .ok (t.outermost (t.removable (t.findPath p).1)).toFinset.card := by
  have h := ht.sound
  have hwf := Path.wellFormed_of_parse hp
  have hroot := t.root_findPath p
  have hfound := (leads_findPath hp h).sound h
  have hremovable : (t.findPath p).2.removable (t.findPath p).1 =
      t.removable (t.findPath p).1 := by
    rw [removable, removable, attached_eq_of_root hroot, hroot]
  have hdelete : t.delete [raw] =
      (.ok ((t.findPath p).2.killAll (t.findPath p).1).1,
        ((t.findPath p).2.killAll (t.findPath p).1).2) := by
    rw [delete, deleteFrom_cons, hp]
    simp [deleteFrom]
  have htop : Node.TopDown ((t.findPath p).2.attached (t.findPath p).1) := by
    rw [attached_eq_of_root hroot]
    exact h.topDown_attached_findPath hwf
  have hcount := hfound.killAll_fst htop
  rw [hdelete, root_killAll, hcount, hremovable, hroot, h.outermost_eq_of_root hfound hroot]
  · exact ⟨rfl, rfl⟩
  · exact fun i hi ↦ mem_root_of_attached (List.mem_of_mem_filter hi)

/-- A match inside another one, which goes with it and is not counted. -/
theorem delete_matched_nested :
    ((ofJson .builtin (.array [.object [("a", .object [("a", .null)])], .null])).delete
        ["..a"]).2.document = .array [.object [], .null] ∧
      ((ofJson .builtin (.array [.object [("a", .object [("a", .null)])], .null])).delete
        ["..a"]).1 = .ok 1 := by
  have hreachable : (ofJson .builtin
      (.array [.object [("a", .object [("a", .null)])], .null])).Reachable := .ofJson _ (by simp)
  have hparse : Path.parse "..a" = .ok ⟨"..a", [⟨"a", .key "a", none, true⟩]⟩ := rfl
  obtain ⟨hroot, hcount⟩ := delete_matched hreachable hparse
  rw [document, hroot, hcount]
  exact ⟨rfl, rfl⟩

end Tree

end DocPath

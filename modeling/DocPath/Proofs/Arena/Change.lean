import DocPath.Proofs.Arena.OfTree

/-!
# Elementary changes in arenas

Every elementary change of a tree is done in its arena by the operation of the same name: the
operation ends, gives the result that the change of the tree gives, and leaves the arena of the
changed tree behind.

A node in the middle is exchanged for another one (`Sound.exists_exchange`), so only its own cells
are looked at: those below it are released, and new ones are built (`Sound.replaceWith_arena`) or
pushed behind the others (`Sound.insertChild_arena`).
-/

namespace DocPath

open Arena (Cell)

/-- Only the handles of children matter when they are given positions. -/
theorem Arena.Cell.renumber_eq (children : List (Key × NodeId)) :
    renumber children = (children.map Prod.snd).zipIdx.map fun item ↦ (.index item.2, item.1) := by
  simp [renumber, List.zipIdx_map, Function.comp_def]

namespace Node

variable {n d : Node}

/-- A cell without a child is that of the closed frame. -/
theorem exists_frame_at {position : Nat} (h : n.childNodes[position]? = some d) :
    ∃ f : Frame, n = f.fill d ∧
      ∀ parent, (n.cell parent).without position = f.close.cell parent := by
  cases n with
  | scalar i s => cases h
  | sequence i items =>
    rw [childNodes_sequence] at h
    obtain ⟨hlt, rfl⟩ := List.getElem?_eq_some_iff.1 h
    refine ⟨.sequence i (items.take position) (items.drop (position + 1)), ?_, fun parent ↦ ?_⟩
    · rw [Frame.fill, List.getElem_cons_drop, List.take_append_drop]
    · have hlisting : (sequence i (items.eraseIdx position)).listing =
          Arena.Cell.renumber ((sequence i items).listing.eraseIdx position) := by
        rw [Arena.Cell.renumber_eq, ← List.eraseIdx_map, map_snd_listing]
        simp [listing_sequence, List.eraseIdx_map, List.zipIdx_map]
      rw [Frame.close, ← List.eraseIdx_eq_take_drop_succ]
      simp [cell, Arena.Cell.without, kind, leaf, hlisting]
  | map i entries =>
    rw [childNodes_map, List.getElem?_map, Option.map_eq_some_iff] at h
    obtain ⟨⟨name, d⟩, hentry, rfl⟩ := h
    obtain ⟨hlt, hentry⟩ := List.getElem?_eq_some_iff.1 hentry
    refine ⟨.map i (entries.take position) name (entries.drop (position + 1)), ?_, fun parent ↦ ?_⟩
    · rw [Frame.fill, ← hentry, List.getElem_cons_drop, List.take_append_drop]
    · rw [Frame.close, ← List.eraseIdx_eq_take_drop_succ]
      simp [cell, Arena.Cell.without, kind, leaf, listing_map, List.eraseIdx_map]

end Node

namespace Tree

open Node (Context cells)

variable {t : Tree} {id i p : NodeId} {n d : Node} {key : Key} {v : Json}

namespace Sound

/-! ### Replacing -/

theorem replaceWith_arena (h : t.Sound) (id : NodeId) (v : Json) :
    t.arena.replaceWith id v = some (t.replaceWith id v).arena := by
  cases hn : t.node? id with
  | none =>
    rw [Arena.replaceWith, h.cell?_arena, hn, replaceWith_of_none hn]
    rfl
  | some n =>
    obtain ⟨others, hothers, harena, hexchange⟩ := h.exists_exchange hn
    obtain rfl := id_of_node? hn
    have hids := hothers
    rw [List.map_append, Node.map_fst_cells] at hids
    have hbelow := Node.holds_releaseAll_below hids
    rw [replaceWith_of_node? hn, hexchange _ _ (Node.id_build ..) (Arena.holds_cells_build hbelow _ v),
      harena, Arena.replaceWith, Arena.cell?_withCells_self hothers]
    dsimp only [Node.cell]
    rw [Arena.foldlM_release_listing (fun c _ ↦ Arena.releases _ c) hothers]
    exact congrArg some (Arena.build_withCells n.id _ v _ others hbelow)

/-! ### Inserting -/

/-- A sequence is padded with nulls, and the value is pushed behind them. -/
theorem appendItems_arena (h : t.Sound) {items : List Node}
    (hn : t.node? id = some (.sequence id items)) (missing : Nat) (v : Json) :
    ∃ child A, t.arena.pad id (items.length + missing) = some A ∧
      (t.appendItems id items (List.replicate missing .null ++ [v])).1 = some child ∧
      A.pushChild id (.index (items.length + missing)) v =
        (child, (t.appendItems id items (List.replicate missing .null ++ [v])).2.arena) := by
  obtain ⟨others, hothers, harena, hexchange⟩ := h.exists_exchange hn
  have hpadded := Arena.holds_cells_append (List.replicate missing .null) hothers
  have hpushed := Arena.holds_cells_append [v] hpadded
  have hlength : (items ++ (Node.buildItems (List.replicate missing .null) t.slots).1).length =
      items.length + missing := by
    have hnulls := congrArg List.length
      (Node.map_toJson_buildItems (List.replicate missing .null) t.slots)
    rw [List.length_map, List.length_replicate] at hnulls
    rw [List.length_append, hnulls]
  have hpush := Arena.pushChild_sequence (A := t.frame) hpadded v
  rw [hlength] at hpush
  rw [harena]
  refine ⟨_, _, Arena.pad_withCells missing hothers, ?_, hpush.trans (congrArg _ ?_)⟩
  · simp [Tree.appendItems, Node.buildItems_append, Node.buildItems]
  · rw [Tree.appendItems, Node.buildItems_append]
    rw [List.append_assoc] at hpushed ⊢
    exact (hexchange _ _ rfl hpushed).symm

/-- A value is pushed behind the entries of a map. -/
theorem appendEntry_arena (h : t.Sound) {entries : List (String × Node)}
    (hn : t.node? id = some (.map id entries)) (name : String) (v : Json) :
    ∃ child, (t.appendEntry id entries name v).1 = some child ∧
      t.arena.pushChild id (.name name) v =
        (child, (t.appendEntry id entries name v).2.arena) := by
  obtain ⟨others, hothers, harena, hexchange⟩ := h.exists_exchange hn
  rw [harena, Arena.pushChild_map hothers]
  refine ⟨t.slots.allocate.1, ?_, congrArg _ (hexchange _ _ rfl ?_).symm⟩
  · simp [Tree.appendEntry, Node.buildEntries]
  · rw [List.map_append, Node.map_fst_cells] at hothers ⊢
    refine (Node.holds_buildEntries [(name, v)] t.slots hothers).of_perm ?_
    simp only [Node.ids_eq, Node.id, Node.childNodes_map, List.map_append, List.flatMap_append,
      List.flatMap_map, List.cons_append, List.append_assoc]
    exact List.perm_middle.trans (.cons _ (List.perm_append_comm_assoc ..))

theorem insertChild_arena (h : t.Sound) (id : NodeId) (key : Key) (v : Json) :
    t.arena.insertChild id key v =
      some ((t.insertChild id key v).1, (t.insertChild id key v).2.arena) := by
  rw [Arena.insertChild, h.child?_arena, h.kind?_arena, Tree.insertChild]
  cases hchild : t.child? id key true with
  | some child => simp only [h.replaceWith_arena]; rfl
  | none =>
    cases hn : t.node? id with
    | none => simp [kind?, hn]
    | some n =>
      rw [kind?_of_node? hn]
      cases n with
      | scalar i s => rfl
      | map i entries =>
        obtain rfl : i = id := id_of_node? hn
        obtain ⟨child, hfst, hpush⟩ := h.appendEntry_arena hn key.text v
        simp only [Node.kind, hpush, hfst]
      | sequence i items =>
        obtain rfl : i = id := id_of_node? hn
        rw [child?_of_node? hn, Node.child?_sequence] at hchild
        simp only [Node.kind, Key.position?]
        cases hint : key.int? with
        | none => rfl
        | some k =>
          by_cases hneg : k < 0
          · simp [hneg]
          · have hlength : items.length ≤ k.toNat := by simpa [hint, hneg] using hchild
            obtain ⟨missing, hk⟩ := Nat.exists_eq_add_of_le hlength
            obtain ⟨child, A, hpad, hfst, hpush⟩ := h.appendItems_arena hn missing v
            simp only [hneg, if_false, Option.bind_some, Option.bind_eq_bind, hk,
              Nat.add_sub_cancel_left, hpad, hfst, hpush]
            rfl

/-! ### Removing -/

theorem mapTops_congr {f g : Node → Node} (h : t.tops.map f = t.tops.map g) :
    t.mapTops f = t.mapTops g := by
  rw [List.map_inj_left] at h
  have hadopted : t.adopted.map f = t.adopted.map g :=
    List.map_congr_left fun m hm ↦ h m (by simp [tops, hm])
  have hscratch : t.scratch.map f = t.scratch.map g :=
    List.map_congr_left fun m hm ↦ h m (by simp [tops, hm])
  rw [mapTops, mapTops, h t.root t.root_mem_tops, hadopted, hscratch]

/-- To remove a child is to exchange its parent for one without it. -/
theorem mapTops_erase (h : t.Sound) {f : Node.Frame} (hn : t.node? id = some (f.fill d)) :
    t.mapTops (Node.erase d.id) = t.mapTops (Node.replace id f.close) := by
  obtain rfl := id_of_node? hn
  obtain ⟨before, c, after, hsplit, houtside⟩ := h.split hn
  have hsplit' : t.tops = before ++ Context.fill (c ++ [f]) d :: after := by
    rw [hsplit, Context.fill_append]
    rfl
  have hnodup := h.handles.nodup
  rw [ids, hsplit'] at hnodup
  refine mapTops_congr ?_
  rw [hsplit', Node.map_erase_split (Node.notMem_outsideIds hnodup d.id_mem_ids), ← hsplit',
    hsplit, Node.map_replace_split _ (houtside _ (f.fill d).id_mem_ids), Node.replace_self]

/-- A child that its parent does not list any more is released. -/
theorem remove_arena (h : t.Sound) {f : Node.Frame} (hn : t.node? id = some (f.fill d))
    (forget : Cell → Cell)
    (hforget : forget ((f.fill d).cell (t.parent? id)) = f.close.cell (t.parent? id)) :
    (t.arena.update id forget).value d.id = some d.toJson ∧
      (t.arena.update id forget).release d.id = some (t.remove d).arena := by
  obtain ⟨others, hothers, harena, hexchange⟩ := h.exists_exchange hn
  obtain ⟨rest, hfill, hclose⟩ := f.exists_cells
  have hdistinct := Node.Frame.distinct_of_fill (h.distinct_of_node? hn)
  have hid := id_of_node? hn
  rw [Node.Frame.id_fill] at hid
  subst hid
  have hperm := (hfill d (t.parent? f.close.id)).append_right others
  rw [List.cons_append, List.append_assoc] at hperm
  have hheld := hothers.of_perm (hperm.map Prod.fst)
  have hupdate : t.arena.update f.close.id forget = t.frame.withCells t.slots
      ((f.close.id, f.close.cell (t.parent? f.close.id)) ::
        (d.cells (some f.close.id) ++ (rest ++ others))) := by
    rw [harena, Arena.withCells_perm hothers.nodup hperm, Arena.update_withCells hheld, hforget]
  -- the cell of the parent goes behind those of the child
  have hmiddle := (@List.perm_middle _ (f.close.id, f.close.cell (t.parent? f.close.id))
    (d.cells (some f.close.id)) (rest ++ others)).symm
  have hforgot : t.slots.Holds (((f.close.id, f.close.cell (t.parent? f.close.id)) ::
      (d.cells (some f.close.id) ++ (rest ++ others))).map Prod.fst) := hheld
  rw [← @List.cons_append _ _ rest, ← hclose] at hmiddle
  have hdetached := hforgot.of_perm (hmiddle.map Prod.fst)
  rw [hupdate, Arena.withCells_perm hforgot.nodup hmiddle, Arena.value_withCells hdetached hdistinct,
    Arena.release_withCells hdetached]
  refine ⟨rfl, congrArg some ?_⟩
  rw [Tree.remove, h.mapTops_erase hn,
    hexchange f.close _ rfl (Arena.holds_releaseAll_cells hdetached)]

/-- What is to be deleted is the child that the cell finds, at its position. -/
theorem deleteChild_of_position (h : t.Sound) (hn : t.node? id = some n) {position : Nat}
    (hposition : (n.cell (t.parent? id)).position? key false = some position)
    (hd : n.childNodes[position]? = some d) :
    t.arena.deleteChild id key = (do
      let A := t.arena.update id (.without · position)
      let v ← A.value d.id
      return (some v, ← A.release d.id)) := by
  have hchild := n.getElem?_childNodes position
  rw [hd, Option.map_some, eq_comm, Option.map_eq_some_iff] at hchild
  obtain ⟨⟨k, i⟩, hentry, rfl⟩ := hchild
  rw [Arena.deleteChild, h.cell?_arena, h.children_arena, listing_of_node? hn, hn]
  simp only [Option.map_some, Option.bind_eq_bind, Option.bind_some, hposition, hentry]
  rfl

theorem deleteChild_arena (h : t.Sound) (id : NodeId) (key : Key) :
    t.arena.deleteChild id key =
      some ((t.deleteChild id key).1, (t.deleteChild id key).2.arena) := by
  cases hn : t.node? id with
  | none =>
    rw [Arena.deleteChild, h.cell?_arena, h.children_arena, Tree.deleteChild, listing, view, hn]
    rfl
  | some n =>
    rw [Tree.deleteChild, view_of_node? hn, n.child?_eq (t.parent? id)]
    cases hposition : (n.cell (t.parent? id)).position? key false with
    | none =>
      rw [Arena.deleteChild, h.cell?_arena, hn]
      simp only [Option.map_some, Option.bind_eq_bind, Option.bind_some, hposition]
      rfl
    | some position =>
      rw [Option.bind_some]
      cases hd : n.childNodes[position]? with
      | none =>
        have hchild := n.getElem?_childNodes position
        rw [hd, Option.map_none, eq_comm, Option.map_eq_none_iff] at hchild
        rw [Arena.deleteChild, h.cell?_arena, h.children_arena, listing_of_node? hn, hn]
        simp only [Option.map_some, Option.bind_eq_bind, Option.bind_some, hposition, hchild]
        rfl
      | some d =>
        rw [h.deleteChild_of_position hn hposition hd]
        obtain ⟨f, rfl, hclose⟩ := Node.exists_frame_at hd
        obtain ⟨hvalue, hrelease⟩ :=
          h.remove_arena hn (.without · position) (hclose (t.parent? id))
        simp only [hvalue, hrelease]
        rfl

/-- In the arena, a node is killed by its keys. -/
theorem killByKeys_arena (h : t.Sound) (id : NodeId) :
    t.arena.kill id = some ((t.killByKeys id).1, (t.killByKeys id).2.arena) := by
  have hclimb := h.climb_arena t.arena.key? Step.key h.key?_arena id
  have hroot : t.arena.root = t.root.id := rfl
  have hchild : (fun node key ↦ t.arena.child? node key true) =
      fun node key ↦ t.child? node key true :=
    funext fun node ↦ funext fun key ↦ h.child?_arena node key true
  rw [← h.keysUp_eq] at hclimb
  rw [Arena.kill, hclimb, killByKeys]
  cases t.keysUp id with
  | nil => split <;> rfl
  | cons last above =>
    simp only [Option.bind_eq_bind, Option.bind_some, hroot, hchild]
    split
    · cases above.reverse.foldlM (fun node key ↦ t.child? node key true) t.root.id with
      | none => rfl
      | some parent =>
        simp only [h.deleteChild_arena]
        rfl
    · rfl

/-- The keys of nodes are in range where an integer of 64 bits can count the slots. -/
theorem inRange_trail (h : t.Sound) (hsize : t.slots.size ≤ 0x8000000000000000) (id : NodeId) :
    ∀ step ∈ t.trail id, step.key.InRange := by
  induction id using h.wellFounded_parent.induction with
  | _ id ih =>
    rcases h.trail_eq_nil_or id with hnil | ⟨n, key, d, hn, hd, rfl⟩
    · simp [hnil]
    · rw [h.trail_child hn hd, List.forall_mem_append, List.forall_mem_singleton]
      have hentry := h.mem_listing_iff.2 ⟨h.parent?_child hn hd, h.key?_child hn hd⟩
      exact ⟨ih n.id (h.parent?_child hn hd), h.inRange_of_mem_listing hsize hentry⟩

theorem kill_arena (h : t.Sound) (hsize : t.slots.size ≤ 0x8000000000000000) (id : NodeId) :
    t.arena.kill id = some ((t.kill id).1, (t.kill id).2.arena) := by
  rw [h.killByKeys_arena, h.killByKeys_eq_kill (h.inRange_trail hsize id)]

/-! ### Nodes outside the document -/

/-- A new top in an arena, wherever the tree puts it. -/
private theorem adopt_withCells (h : t.Sound) (v : Json) {t' : Tree}
    (htops : t'.tops.Perm ((Node.build t.slots.allocate.1 v t.slots.allocate.2).1 :: t.tops)) :
    t.arena.adopt v = (t.slots.allocate.1,
      t.frame.withCells (Node.build t.slots.allocate.1 v t.slots.allocate.2).2 t'.cells) := by
  have hbuilt := Arena.holds_cells_build (Slots.holds_allocate h.holds_cells) none v
  have hcells := htops.symm.flatMap_right (Node.cells none)
  rw [Arena.adopt, arena, Arena.allocate_withCells h.holds_cells]
  dsimp only
  rw [Arena.build_allocate_withCells h.holds_cells]
  exact congrArg _ (Arena.withCells_perm hbuilt.nodup hcells)

theorem adopt_arena (h : t.Sound) (v : Json) :
    t.arena.adopt v = ((t.adopt v).1, (t.adopt v).2.arena) :=
  h.adopt_withCells v (t.tops_adopt v)

theorem adoptScratch_arena (h : t.Sound) (v : Json) :
    t.arena.adoptScratch v = ((t.adoptScratch v).1, (t.adoptScratch v).2.arena) := by
  have hframe : (t.adoptScratch v).2.frame =
      { t.frame with scratch := t.frame.scratch ++ [t.slots.allocate.1] } := by
    simp [frame, Tree.adoptScratch]
  rw [Arena.adoptScratch, h.adopt_withCells v (t.tops_adoptScratch v), arena, hframe]
  rfl

/-- Of nodes outside the document, those in a list are kept and the others released. -/
private theorem foldlM_releaseScratch {A : Arena} {s : Slots} (kept : List Node) {ns : List Node}
    {others : List (NodeId × Cell)} (held : List NodeId)
    (h : s.Holds ((kept.flatMap (Node.cells none) ++
      (ns.flatMap (Node.cells none) ++ others)).map Prod.fst)) :
    (ns.map Node.id).foldlM
        (fun A id ↦
          if id ∈ held then some { A with scratch := A.scratch ++ [id] } else A.release id)
        (A.withCells s (kept.flatMap (Node.cells none) ++
          (ns.flatMap (Node.cells none) ++ others))) =
      some (Arena.withCells
        { A with scratch := A.scratch ++ (ns.filter fun n : Node ↦ n.id ∈ held).map Node.id }
        (s.releaseAll ((ns.filter fun n : Node ↦ n.id ∉ held).flatMap Node.releaseOrder))
        ((kept ++ ns.filter fun n : Node ↦ n.id ∈ held).flatMap (Node.cells none) ++ others)) := by
  induction ns generalizing A s kept with
  | nil => simp [Slots.releaseAll]
  | cons n rest ih =>
    rw [List.flatMap_cons, List.append_assoc] at h ⊢
    rw [List.map_cons, List.foldlM_cons]
    by_cases hn : n.id ∈ held
    · have hkept : kept.flatMap (Node.cells none) ++ (n.cells none ++
          (rest.flatMap (Node.cells none) ++ others)) =
            (kept ++ [n]).flatMap (Node.cells none) ++
              (rest.flatMap (Node.cells none) ++ others) := by simp
      rw [hkept] at h ⊢
      simp only [hn, if_true]
      refine (ih (A := { A with scratch := A.scratch ++ [n.id] }) (kept ++ [n]) h).trans ?_
      simp [hn]
    · have hperm := List.perm_append_comm_assoc (kept.flatMap (Node.cells none)) (n.cells none)
        (rest.flatMap (Node.cells none) ++ others)
      have hfirst := h.of_perm (hperm.map Prod.fst)
      simp only [hn, if_false]
      rw [Arena.withCells_perm h.nodup hperm, Arena.release_withCells hfirst]
      refine (ih kept (Arena.holds_releaseAll_cells hfirst)).trans ?_
      simp [hn, Slots.releaseAll_append]

/-- A top is above one of some handles if it holds one of them. -/
private theorem mem_map_rootOf (h : t.Sound) (hn : n ∈ t.tops) (keep : List NodeId) :
    n.id ∈ keep.map t.rootOf ↔ keep.any n.has := by
  rw [List.mem_map, List.any_eq_true]
  refine exists_congr fun id ↦ and_congr_right fun _ ↦ ?_
  have hhas : n.has id = true ↔ id ∈ n.ids := Node.find?_isSome
  rw [hhas]
  by_cases hid : id ∈ t.ids
  · exact h.rootOf_eq_iff hn hid
  · -- a handle that is not live is its own top
    have hself : t.rootOf id = id := by rw [rootOf, trail_of_not_contains hid]
    rw [hself]
    refine iff_of_false ?_ fun hmem ↦ hid (List.mem_flatMap.2 ⟨n, hn, hmem⟩)
    rintro rfl
    exact hid (List.mem_flatMap.2 ⟨n, hn, n.id_mem_ids⟩)

theorem mapM_rootOf_arena (h : t.Sound) (keep : List NodeId) :
    keep.mapM t.arena.rootOf = some (keep.map t.rootOf) := by
  induction keep with
  | nil => rfl
  | cons id rest ih =>
    rw [List.mapM_cons, h.rootOf_arena, ih]
    rfl

/-- The cells of the scratch nodes apart from the others. -/
private theorem cells_perm_scratch (t : Tree) :
    t.cells.Perm (t.scratch.flatMap (Node.cells none) ++
      (t.root :: t.adopted).flatMap (Node.cells none)) := by
  rw [cells, tops, ← List.cons_append, List.flatMap_append]
  exact List.perm_append_comm

theorem releaseScratch_arena (h : t.Sound) (keep : List NodeId) :
    t.arena.releaseScratch keep = some (t.releaseScratch keep).arena := by
  have hscratch : t.arena.scratch = t.scratch.map Node.id := rfl
  have hmem : ∀ m ∈ t.scratch, m.id ∈ keep.map t.rootOf ↔ keep.any m.has := fun m hm ↦
    h.mem_map_rootOf (by simp [tops, hm]) keep
  have hkept : (t.scratch.filter fun m ↦ m.id ∈ keep.map t.rootOf) =
      t.scratch.filter fun m ↦ keep.any m.has :=
    List.filter_congr fun m hm ↦ by simp only [hmem m hm, Bool.decide_eq_true]
  have hdropped : (t.scratch.filter fun m ↦ m.id ∉ keep.map t.rootOf) =
      t.scratch.filter fun m ↦ !keep.any m.has :=
    List.filter_congr fun m hm ↦ by simp only [hmem m hm, decide_not, Bool.decide_eq_true]
  have hbefore := cells_perm_scratch t
  have hafter := cells_perm_scratch (t.releaseScratch keep)
  rw [Arena.releaseScratch, hscratch]
  split
  · rename_i hempty
    have hnil : t.scratch = [] := by simpa using hempty
    have hsame : t.releaseScratch keep = t := by
      cases t
      simp_all [releaseScratch_eq, Slots.releaseAll]
    rw [hsame]
  · rw [h.mapM_rootOf_arena, Option.bind_eq_bind, Option.bind_some, arena,
      Arena.withCells_perm h.holds_cells.nodup hbefore]
    refine (foldlM_releaseScratch (A := { t.frame with scratch := [] }) [] _
      (h.holds_cells.of_perm (hbefore.map Prod.fst))).trans ?_
    rw [hkept, hdropped, arena,
      Arena.withCells_perm (h.releaseScratch keep).holds_cells.nodup hafter, releaseScratch_eq]
    rfl

end Sound

/-! ### Documents -/

/-- The arena of a document is that of its tree. -/
theorem arena_ofJson (registry : Registry) (v : Json) :
    Arena.ofJson registry v = (ofJson registry v).arena := by
  have hempty : (⟨#[], [], ⟨0, 0⟩, [], registry, []⟩ : Arena) =
      Arena.withCells ⟨#[], [], ⟨0, 0⟩, [], registry, []⟩ .none [] := rfl
  have hroot : (ofJson registry v).root.id = Slots.none.allocate.1 := Node.id_build ..
  have hcells : (ofJson registry v).cells =
      (Node.build Slots.none.allocate.1 v Slots.none.allocate.2).1.cells none ++ [] := by
    simp [cells, tops, ofJson]
  rw [Arena.ofJson, hempty, @Arena.allocate_withCells _ _ [] Slots.holds_none]
  dsimp only
  rw [@Arena.build_allocate_withCells _ _ [] Slots.holds_none, arena, frame, hroot, hcells]
  rfl

end Tree

end DocPath

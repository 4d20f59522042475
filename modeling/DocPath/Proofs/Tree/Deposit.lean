import DocPath.Proofs.Node.Apart
import DocPath.Proofs.Tree.Bridge
import DocPath.Proofs.Tree.Search

/-!
# What a bridge gives its value to

A bridge gives its value to nodes by its last segment, one after the other: to children that are
there, to children that it makes, and to matches. `deposits` lists these nodes, each with the tree
right after it got the value.

A later one of them can undo an earlier one, by replacing a node above it, but only by putting the
value there in its place. So what a node got apart from a given handle is still somewhere apart from
that handle in the end (`Node.HasApart`, `hasApart_of_mem_deposits`).

* `Places` — what one deposit does to a tree
* `Spreads` — what several of them keep, and what each of them brings about
-/

namespace DocPath

open Node (Context Frame)

/-! ### Values apart from a handle -/

/-- Somewhere in the node there is a value, and the node of a handle is neither at or below that
place nor above it. -/
def Node.HasApart (n : Node) (source : NodeId) (v : Json) : Prop :=
  ∃ c m, n = Context.fill c m ∧ m.toJson = v ∧ source ∉ Context.spine c ∧ source ∉ m.ids

namespace Node.HasApart

variable {source : NodeId} {v : Json} {c : Context} {n new : Node}

theorem exists_mem (h : n.HasApart source v) : ∃ m ∈ n :: n.descendants, m.toJson = v := by
  obtain ⟨c, m, rfl, hm, -⟩ := h
  exact ⟨m, c.mem_fill m, hm⟩

/-- Erasing the node of the handle leaves what is apart from it. -/
theorem exists_mem_erase (h : n.HasApart source v) :
    ∃ m ∈ n.erase source :: (n.erase source).descendants, m.toJson = v := by
  obtain ⟨c, m, rfl, hm, hspine, hids⟩ := h
  obtain ⟨c', hc'⟩ := Context.exists_erase_fill hspine hids
  rw [hc']
  exact ⟨m, c'.mem_fill m, hm⟩

/-- Exchanging a node keeps a value apart from a handle, if the node was apart from it or the new
node has the value apart from the handle. -/
theorem exchange (h : (Context.fill c n).HasApart source v)
    (hnew : source ∉ Context.spine c → source ≠ n.id → (Context.fill c new).HasApart source v) :
    (Context.fill c new).HasApart source v := by
  obtain ⟨d, m, hfill, hm, hspine, hids⟩ := h
  rcases Context.fill_eq_fill hfill.symm with ⟨e, rfl, rfl⟩ | ⟨e, rfl, rfl⟩ | hapart
  · -- the exchanged node is at or above the place
    rw [Context.spine_append, List.mem_append, not_or] at hspine
    refine hnew hspine.1 fun heq ↦ ?_
    rcases List.mem_append.1 (Context.id_fill_mem e m) with hmem | hmem
    · exact hspine.2 (heq ▸ hmem)
    · exact hids (heq ▸ List.mem_singleton.1 hmem ▸ m.id_mem_ids)
  · -- the exchanged node is below the place
    refine hnew ?_ fun heq ↦ hids (heq ▸ Context.mem_ids_fill.2 (.inr n.id_mem_ids))
    rw [Context.spine_append, List.mem_append, not_or]
    exact ⟨hspine, fun hmem ↦ hids (Context.spine_subset_ids_fill e n hmem)⟩
  · obtain ⟨d', hd', hspine'⟩ := hapart new
    exact ⟨d', m, hd', hm, hspine' ▸ hspine, hids⟩

end Node.HasApart

namespace Tree

open DocPath.Path (Segment)

variable {t t' u w : Tree} {id source target : NodeId} {n m : Node} {v : Json} {e : Context}

/-! ### One deposit -/

/-- The node of a handle was exchanged for a context around a node of the value. The context has
no containers but the node of the handle, and all handles of the value are new, unless it is put in
the place of the node itself. -/
structure Places (t t' : Tree) (v : Json) (id : NodeId) (e : Context) (m : Node) : Prop where
  leads : t.Leads t'
  root : t'.root = Node.replace id (Context.fill e m) t.root
  id_fill : (Context.fill e m).id = id
  spine : ∀ i ∈ Context.spine e, i = id
  value : m.toJson = v
  fresh : ∀ i ∈ m.ids, t.Seen i → i = id

/-- A node of the document that got the value, in the tree right after that, is neither the node of
a handle nor below it. -/
def Outside (source : NodeId) (deposit : NodeId × Tree) : Prop :=
  deposit.1 ∈ deposit.2.root.ids ∧ deposit.1 ≠ source ∧
    source ∉ deposit.2.ancestors deposit.1

theorem seen_of_mem_root (h : id ∈ t.root.ids) : t.Seen id :=
  .inl (mem_ids_of_mem_root h)

/-- A handle of the document has its node in a context. -/
theorem exists_root_fill (hid : id ∈ t.root.ids) :
    ∃ c n, t.root = Context.fill c n ∧ n.id = id := by
  obtain ⟨n, hn⟩ := Node.exists_find? hid
  obtain ⟨c, hc⟩ := Node.exists_fill hn
  exact ⟨c, n, hc, Node.id_of_find? hn⟩

namespace Places

/-- In the document the node of the handle is exchanged in its place. -/
theorem root_eq (h : Places t t' v id e m) (ht : t.Sound) {c : Context}
    (hroot : t.root = Context.fill c n) (hn : n.id = id) :
    t'.root = Context.fill (c ++ e) m := by
  subst hn
  rw [h.root, hroot, Context.replace_id_fill _ (ht.notMem_context hroot), Context.fill_append]

/-- The value is apart from every handle that is not one of the containers above it nor the one it
was given. -/
theorem hasApart (h : Places t t' v id e m) (ht : t.Sound) (hseen : t.Seen source) {c : Context}
    (hroot : t.root = Context.fill c n) (hn : n.id = id) (hspine : source ∉ Context.spine c)
    (hne : source ≠ id) : t'.root.HasApart source v := by
  refine ⟨c ++ e, m, h.root_eq ht hroot hn, h.value, ?_, fun hmem ↦ hne (h.fresh _ hmem hseen)⟩
  rw [Context.spine_append, List.mem_append, not_or]
  exact ⟨hspine, fun hmem ↦ hne (h.spine _ hmem)⟩

/-- A value that was apart from a handle before is so after another one was placed. -/
theorem keeps (h : Places t t' v id e m) (ht : t.Sound) (hseen : t.Seen source)
    (hbefore : t.root.HasApart source v) : t'.root.HasApart source v := by
  by_cases hid : id ∈ t.root.ids
  · obtain ⟨c, n, hroot, hn⟩ := exists_root_fill hid
    have hroot' := h.root_eq ht hroot hn
    rw [hroot', Context.fill_append]
    rw [hroot] at hbefore
    refine hbefore.exchange fun hspine hne ↦ ?_
    rw [← Context.fill_append, ← hroot']
    exact h.hasApart ht hseen hroot hn hspine (hn ▸ hne)
  · rwa [h.root, Node.replace_of_notMem _ hid]

/-- A deposit outside of a handle is apart from it. -/
theorem hasApart_of_outside (h : Places t t' v id e m) (ht : t.Sound) (hseen : t.Seen source)
    (hout : Outside source (m.id, t')) : t'.root.HasApart source v := by
  obtain ⟨hmem, hne, habove⟩ := hout
  have hid : id ∈ t.root.ids := by
    by_contra hid
    -- the document did not change, so the node was in it with the handle
    have hsame : t'.root = t.root := by rw [h.root, Node.replace_of_notMem _ hid]
    dsimp only at hmem
    rw [hsame] at hmem
    exact hid (h.fresh _ m.id_mem_ids (seen_of_mem_root hmem) ▸ hmem)
  obtain ⟨c, n, hroot, hn⟩ := exists_root_fill hid
  have hspine : source ∉ Context.spine (c ++ e) := by
    have hsplit : t'.tops = [] ++ Context.fill (c ++ e) m :: (t'.adopted ++ t'.scratch) := by
      rw [tops, h.root_eq ht hroot hn, List.nil_append]
    have hancestors := (h.leads.sound ht).ancestors_split hsplit
    dsimp only at habove
    rwa [hancestors, List.mem_reverse] at habove
  rw [Context.spine_append, List.mem_append, not_or] at hspine
  refine h.hasApart ht hseen hroot hn hspine.1 ?_
  rintro rfl
  rcases List.mem_append.1 (h.id_fill ▸ Context.id_fill_mem e m) with hmem' | hmem'
  · exact hspine.2 hmem'
  · exact hne (List.mem_singleton.1 hmem').symm

end Places

namespace Sound

/-- A live node that gets the value is a deposit. -/
theorem places_replaceWith (h : t.Sound) (hv : v.Distinct) (hn : t.node? id = some n)
    (hw : (t.replaceWith id v).slots.Unwrapped) :
    ∃ m, Places t (t.replaceWith id v) v id [] m ∧ m.id = id := by
  refine ⟨(Node.build id v (t.slots.releaseAll n.releaseOrderBelow)).1, ?_,
    Node.id_build ..⟩
  exact
    { leads := .single (.replaceWith t id hv)
      root := by rw [replaceWith_of_node? hn]; rfl
      id_fill := Node.id_build ..
      spine := List.forall_mem_nil _
      value := Node.toJson_build ..
      fresh := fun i hi hseen ↦ h.eq_of_mem_build hn hv hw hseen hi }

/-- A child that is put at the end of a container is a deposit. -/
theorem places_of_frame (h : t.Sound) (hn : t.node? id = some n) {f : Frame}
    (htops : t'.tops = t.tops.map (Node.replace id (f.fill m))) (hl : t.Leads t')
    (hw : t'.slots.Unwrapped) (hid : f.close.id = id) (hids : n.ids ⊆ f.ids) (hm : m.toJson = v) :
    Places t t' v id [f] m where
  leads := hl
  root := (List.cons.inj htops).1
  id_fill := (f.id_fill m).trans hid
  spine := by simp [hid]
  value := hm
  fresh := by
    intro i hi hseen
    have hnodup := (f.ids_fill m).nodup_iff.1 (h.nodup_ids_of_replace hn htops hl)
    have hmem := (f.ids_fill m).mem_iff.2 (List.mem_append_right _ hi)
    have hold := h.mem_ids_of_replace hn htops hl hw hseen hmem
    exact absurd hi (List.disjoint_of_nodup_append hnodup (hids hold))

/-- A child that is inserted is a deposit. -/
theorem places_insertChild (h : t.Sound) (hv : v.Distinct) {key : Key}
    (hnone : t.child? id key true = none) (hw : (t.insertChild id key v).2.slots.Unwrapped) :
    t.insertChild id key v = (none, t) ∨
      ∃ e m, Places t (t.insertChild id key v).2 v id e m ∧
        (t.insertChild id key v).1 = some m.id := by
  have hl := t.leads_insertChild id key hv
  cases hn : t.node? id with
  | none => exact .inl (by rw [Tree.insertChild, hnone, hn])
  | some n =>
    obtain rfl := id_of_node? hn
    cases n with
    | scalar i s => exact .inl (by rw [Tree.insertChild, hnone, hn])
    | map i entries =>
      have heq := insertChild_map hnone hn v
      rw [heq] at hl hw ⊢
      refine .inr ⟨_, _, h.places_of_frame (f := .map i entries key.text []) hn ?_ hl hw rfl ?_
        (Node.toJson_build t.slots.allocate.1 v t.slots.allocate.2), rfl⟩
      · rw [appendEntry_eq, ← tops_mapTops]
        rfl
      · rw [Frame.ids, Frame.close, List.append_nil]
        exact List.Subset.refl _
    | sequence i items =>
      rcases insertChild_items hnone hn v with heq | ⟨k, -, heq⟩
      · exact .inl heq
      · -- the padding goes before the hole of the frame, the value into it
        obtain ⟨nodes, m, hnodes, -, hm⟩ := exists_buildItems_concat _ v t.slots
        rw [heq] at hl hw ⊢
        refine .inr ⟨_, m, h.places_of_frame (f := .sequence i (items ++ nodes) []) hn ?_ hl hw rfl
          ?_ hm, ?_⟩
        · rw [appendItems_eq, hnodes, ← List.append_assoc, ← tops_mapTops]
          rfl
        · rw [Frame.ids, Frame.close, Node.ids_eq, Node.ids_eq (Node.sequence ..)]
          simp [Node.id]
        · simp [appendItems_eq, hnodes]

end Sound

/-! ### Several deposits -/

/-- A run that makes deposits: a value that is apart from a handle stays so, and every deposit
outside of the handle brings that about. -/
structure Spreads (source : NodeId) (v : Json) (t : Tree) (deposits : List (NodeId × Tree))
    (u : Tree) : Prop where
  leads : t.Sound → t.Leads u
  apart : t.Sound → t.Seen source → u.slots.Unwrapped →
    (t.root.HasApart source v ∨ ∃ d ∈ deposits, Outside source d) → u.root.HasApart source v

namespace Spreads

variable {deposits others : List (NodeId × Tree)}

theorem of_root (hl : t.Sound → t.Leads u) (hroot : u.root = t.root) :
    Spreads source v t [] u where
  leads := hl
  apart _ _ _ h := hroot ▸ h.resolve_right fun ⟨_, hd, _⟩ ↦ List.not_mem_nil hd

theorem refl (t : Tree) : Spreads source v t [] t :=
  .of_root (fun _ ↦ .refl t) rfl

theorem trans (h : Spreads source v t deposits u) (h' : Spreads source v u others w) :
    Spreads source v t (deposits ++ others) w where
  leads ht := (h.leads ht).trans (h'.leads ((h.leads ht).sound ht))
  apart := by
    intro ht hseen hw hor
    have hl := h.leads ht
    have hu := hl.sound ht
    have hseen' := hl.seen ht hseen
    have hw' := (h'.leads hu).le_slots.unwrapped hw
    simp only [List.mem_append, or_and_right, exists_or] at hor
    rcases hor with hbefore | hdeposit | hother
    · exact h'.apart hu hseen' hw (.inl (h.apart ht hseen hw' (.inl hbefore)))
    · exact h'.apart hu hseen' hw (.inl (h.apart ht hseen hw' (.inr hdeposit)))
    · exact h'.apart hu hseen' hw (.inr hother)

/-- One deposit, which may not have taken place. -/
theorem of_places (hl : t.Leads u)
    (hplaces : t.Sound → u.slots.Unwrapped → (u = t ∧ target ∉ u.root.ids) ∨
      ∃ id e m, Places t u v id e m ∧ m.id = target) :
    Spreads source v t [(target, u)] u where
  leads _ := hl
  apart := by
    intro ht hseen hw hor
    rcases hplaces ht hw with ⟨rfl, hgone⟩ | ⟨id, e, m, hplaced, rfl⟩
    · refine hor.resolve_right fun ⟨d, hd, hout⟩ ↦ hgone ?_
      rw [List.mem_singleton.1 hd] at hout
      exact hout.1
    · rcases hor with hbefore | ⟨d, hd, hout⟩
      · exact hplaced.keeps ht hseen hbefore
      · rw [List.mem_singleton.1 hd] at hout
        exact hplaced.hasApart_of_outside ht hseen hout

end Spreads

/-- The nodes that get a value one after the other, each with the tree right after that. -/
def depositEach (t : Tree) (v : Json) : List NodeId → List (NodeId × Tree)
  | [] => []
  | id :: rest => (id, t.replaceWith id v) :: depositEach (t.replaceWith id v) v rest

theorem spreads_replaceWith (hv : v.Distinct) (t : Tree) (id : NodeId) :
    Spreads source v t [(id, t.replaceWith id v)] (t.replaceWith id v) := by
  refine .of_places (.single (.replaceWith t id hv)) fun ht hw ↦ ?_
  cases hn : t.node? id with
  | none =>
    refine .inl ⟨replaceWith_of_none hn v, ?_⟩
    rw [replaceWith_of_none hn v]
    exact fun hmem ↦ node?_eq_none.1 hn (mem_ids_of_mem_root hmem)
  | some n =>
    obtain ⟨m, hplaces, hm⟩ := ht.places_replaceWith hv hn hw
    exact .inr ⟨id, [], m, hplaces, hm⟩

theorem spreads_replaceEach (hv : v.Distinct) (t : Tree) (ids : List NodeId) :
    Spreads source v t (t.depositEach v ids) (t.replaceEach ids v) := by
  induction ids generalizing t with
  | nil => exact .refl t
  | cons id rest ih => exact (spreads_replaceWith hv t id).trans (ih _)

theorem spreads_insertChild (hv : v.Distinct) (t : Tree) (id : NodeId) (key : Key) :
    Spreads source v t ((t.insertChild id key v).1.toList.map (·, (t.insertChild id key v).2))
      (t.insertChild id key v).2 := by
  cases hchild : t.child? id key true with
  | some child =>
    rw [insertChild_of_child? hchild]
    exact spreads_replaceWith hv t child
  | none =>
    have hl := t.leads_insertChild id key hv
    cases hmade : (t.insertChild id key v).1 with
    | none =>
      refine ⟨fun _ ↦ hl, fun ht hseen hw hor ↦ ?_⟩
      rcases ht.places_insertChild hv hchild hw with heq | ⟨e, m, -, hm⟩
      · rw [heq]
        exact hor.resolve_right fun ⟨_, hd, _⟩ ↦ List.not_mem_nil hd
      · rw [hmade] at hm
        cases hm
    | some made =>
      refine .of_places hl fun ht hw ↦ ?_
      rcases ht.places_insertChild hv hchild hw with heq | ⟨e, m, hplaces, hm⟩
      · rw [heq] at hmade
        cases hmade
      · rw [hmade, Option.some.injEq] at hm
        exact .inr ⟨id, e, m, hplaces, hm.symm⟩

/-! ### The deposits of a bridge -/

/-- What the last segment of a bridge gives the value to at a node, and the tree after that. -/
def depositAt (t : Tree) (s : Segment) (v : Json) (id : NodeId) : List (NodeId × Tree) × Tree :=
  match (t.node? id).bind (literalKey? s) with
  | some key =>
    let inserted := t.insertChild id key v
    (inserted.1.toList.map (·, inserted.2), inserted.2)
  | none =>
    let found := t.segmentMatches s id
    (found.2.depositEach v found.1, found.2.replaceEach found.1 v)

/-- What the last segment of a bridge gives the value to at several nodes. -/
def depositAll (t : Tree) (s : Segment) (v : Json) : List NodeId → List (NodeId × Tree)
  | [] => []
  | id :: rest => (t.depositAt s v id).1 ++ depositAll (t.depositAt s v id).2 s v rest

/-- What the segments of a bridge give the value to, beginning at some nodes. -/
def depositFrom (t : Tree) (v : Json) (ids : List NodeId) : List Segment → List (NodeId × Tree)
  | [] => []
  | [s] => t.depositAll s v ids
  | s :: next :: rest =>
    let reached := t.bridgeSegment s (some (containerFor next)) v ids
    depositFrom reached.2 v reached.1 (next :: rest)

/-- The nodes that a bridge gives its value to, each with the tree right after that. -/
def deposits (t : Tree) (p : Path) (v : Json) : List (NodeId × Tree) :=
  match p.segments with
  | [] => t.depositEach v [t.root.id]
  | s :: rest => (t.prepareRoot s).depositFrom v [(t.prepareRoot s).root.id] (s :: rest)

variable {s : Segment}

/-- The deposits at a node are what the bridge does there. -/
theorem prepare_reachOrCreate (t : Tree) (s : Segment) (v : Json) (id : NodeId) :
    prepare none v (t.reachOrCreate s none v id).2 (t.reachOrCreate s none v id).1 =
      (t.depositAt s v id).2 := by
  unfold depositAt
  cases hkey : (t.node? id).bind (literalKey? s) with
  | none =>
    rw [reachOrCreate_of_none hkey, prepare_none]
  | some key =>
    rw [reachOrCreate_of_some hkey]
    cases hchild : t.child? id key true with
    | none => rfl
    | some child =>
      dsimp only
      rw [insertChild_of_child? hchild]
      rfl

theorem spreads_depositAt (hs : s.selector.WellFormed) (hv : v.Distinct) (t : Tree) (id : NodeId) :
    Spreads source v t (t.depositAt s v id).1 (t.depositAt s v id).2 := by
  unfold depositAt
  cases (t.node? id).bind (literalKey? s) with
  | none =>
    have hfound : Spreads source v t [] (t.segmentMatches s id).2 :=
      .of_root (fun ht ↦ leads_segmentMatches hs ht id) (t.root_segmentMatches s id)
    exact hfound.trans (spreads_replaceEach hv _ _)
  | some key => exact spreads_insertChild hv t id key

theorem spreads_bridgeSegment (hs : s.selector.WellFormed) (hv : v.Distinct) (t : Tree)
    (ids : List NodeId) :
    Spreads source v t (t.depositAll s v ids) (t.bridgeSegment s none v ids).2 := by
  induction ids generalizing t with
  | nil => exact .refl t
  | cons id rest ih =>
    rw [bridgeSegment_cons]
    dsimp only
    rw [prepare_reachOrCreate]
    exact (spreads_depositAt hs hv t id).trans (ih _)

/-- A value that the segments of a bridge give to a node outside of a handle is apart from the
handle in the end. -/
theorem hasApart_of_mem_depositFrom {segments : List Segment}
    (hs : ∀ s ∈ segments, s.selector.WellFormed) (hv : v.Distinct) (ht : t.Sound)
    (hseen : t.Seen source) {ids : List NodeId} (hw : (t.bridgeFrom v ids segments).slots.Unwrapped)
    {d : NodeId × Tree} (hd : d ∈ t.depositFrom v ids segments) (hout : Outside source d) :
    (t.bridgeFrom v ids segments).root.HasApart source v := by
  induction segments generalizing t ids with
  | nil => cases hd
  | cons s rest ih =>
    have hs' := hs s (List.mem_cons_self ..)
    cases rest with
    | nil =>
      rw [bridgeFrom_singleton] at hw ⊢
      exact (spreads_bridgeSegment hs' hv t ids).apart ht hseen hw (.inr ⟨d, hd, hout⟩)
    | cons next rest =>
      rw [bridgeFrom_cons_cons] at hw ⊢
      have hl := leads_bridgeSegment hs' hv ht (some (containerFor next)) ids
      exact ih (fun s hmem ↦ hs s (List.mem_cons_of_mem _ hmem)) (hl.sound ht) (hl.seen ht hseen)
        hw hd

/-- A value that a bridge gives to a node outside of a handle is apart from the handle in the
end. -/
theorem hasApart_of_mem_deposits {p : Path} (hp : ∀ s ∈ p.segments, s.selector.WellFormed)
    (hv : v.Distinct) (ht : t.Sound) (hseen : t.Seen source)
    (hw : (t.bridgePath p v).slots.Unwrapped) {d : NodeId × Tree} (hd : d ∈ t.deposits p v)
    (hout : Outside source d) : (t.bridgePath p v).root.HasApart source v := by
  have hreleased : (t.writeThrough p v).slots.LE (t.bridgePath p v).slots :=
    (Leads.single (.releaseScratch (t.writeThrough p v) [])).le_slots
  have hw' := hreleased.unwrapped hw
  rw [bridgePath, root_releaseScratch]
  unfold deposits at hd
  cases hsegments : p.segments with
  | nil =>
    rw [hsegments] at hd
    rw [writeThrough_nil t hsegments] at hw' ⊢
    exact (spreads_replaceEach hv t [t.root.id]).apart ht hseen hw' (.inr ⟨d, hd, hout⟩)
  | cons s rest =>
    rw [hsegments] at hd hp
    rw [writeThrough_cons t s hsegments] at hw' ⊢
    have hl := t.leads_prepareRoot s
    exact hasApart_of_mem_depositFrom hp hv (hl.sound ht) (hl.seen ht hseen) hw' hd hout

end Tree

end DocPath

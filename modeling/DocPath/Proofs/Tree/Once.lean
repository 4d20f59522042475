import DocPath.Proofs.Tree.Collect
import DocPath.Proofs.Tree.ReadOnly
import Mathlib.Data.List.Flatten

/-!
# Finding every node once

A path with at most one recursive segment leads to no node twice. Before the recursive segment the
nodes found so far have no node in common at or below them, so even a segment that reaches to any
depth finds nothing from two of them. After it they are merely different, and different nodes have
no children in common. The results of operations are new nodes, with handles that no live node has.

Both invariants say that some handles are listed once, those of the nodes themselves (`own`) or all
at or below them (`whole`), and both are kept for the same reason. So the argument is made once, for
what the two have in common as an `Extent`. `Yields` is what matching at some place gives: it does
not repeat itself, and stays in the place or is new. Two matchings are put together by
`Yields.append`.
-/

namespace DocPath

open DocPath.Path (Segment)

namespace Tree

variable {t t' : Tree} {s : Segment} {id : NodeId} {n m : Node} {ids found starts : List NodeId}
  {segments : List Segment}

/-! ### Extents -/

/-- Handles that belong to a live handle, for as long as that one is held. -/
structure Extent (e : Tree → NodeId → List NodeId) : Prop where
  self_mem : ∀ {t : Tree} {id : NodeId}, id ∈ t.ids → id ∈ e t id
  subset : ∀ {t : Tree} {id : NodeId}, id ∈ t.ids → e t id ⊆ t.ids
  grow : ∀ {t t' : Tree} {id : NodeId}, t.Grows t' → id ∈ t.ids → e t' id = e t id
  release : ∀ {t : Tree} {keep : List NodeId} {id : NodeId}, t.Sound → id ∈ keep → id ∈ t.ids →
    e (t.releaseScratch keep) id = e t id
  result : ∀ {t : Tree} {v : Json}, t.Sound → v.Distinct →
    (e (t.adoptScratch v).2 (t.adoptScratch v).1).Nodup ∧
      ∀ i ∈ e (t.adoptScratch v).2 (t.adoptScratch v).1, i ∉ t.ids

/-- The handle alone. -/
def own (_ : Tree) (id : NodeId) : List NodeId :=
  [id]

/-- All handles at the node and below. -/
def whole (t : Tree) (id : NodeId) : List NodeId :=
  (t.view id).ids

@[simp] theorem flatMap_own (t : Tree) (ids : List NodeId) : ids.flatMap (own t) = ids :=
  List.flatMap_singleton' ids

/-- The node of a computed result. -/
theorem Sound.node?_result (h : t.Sound) {v : Json} (hv : v.Distinct) :
    (t.adoptScratch v).2.node? (t.adoptScratch v).1 = some (t.resultNode v) := by
  have hid : (t.resultNode v).id = (t.adoptScratch v).1 := Node.id_build ..
  rw [← hid]
  refine (h.adoptScratch hv).node?_of_mem_tops ?_
  exact List.mem_append_right (lasting _) (List.mem_append_right _ (List.mem_singleton_self _))

/-- No handle of a computed result was live. -/
theorem Sound.notMem_ids_of_mem_resultNode (h : t.Sound) {v : Json} (hv : v.Distinct) {i : NodeId}
    (hi : i ∈ (t.resultNode v).ids) : i ∉ t.ids := by
  have hnodup := (h.adoptScratch hv).handles.nodup
  rw [ids_adoptScratch] at hnodup
  exact fun hold ↦ List.disjoint_of_nodup_append hnodup hold hi

theorem extent_own : Extent own where
  self_mem _ := List.mem_singleton_self _
  subset hid := List.cons_subset.2 ⟨hid, List.nil_subset _⟩
  grow _ _ := rfl
  release _ _ _ := rfl
  result {t v} h hv := by
    refine ⟨List.nodup_singleton _, fun i hi ↦ ?_⟩
    rw [List.mem_singleton.1 hi]
    exact h.notMem_ids_of_mem_resultNode hv (t.result_mem_ids v)

theorem extent_whole : Extent whole where
  self_mem {t id} _ := by
    have hmem := (t.view id).id_mem_ids
    rwa [id_view] at hmem
  subset hid _ hi := mem_ids_of_mem_view hid hi
  grow h hid := congrArg Node.ids (h.view_eq hid)
  release h hkeep hid := congrArg Node.ids (h.view_releaseScratch hkeep hid)
  result h hv := by
    rw [whole, view_of_node? (h.node?_result hv)]
    exact ⟨h.nodup_resultNode hv, fun i hi ↦ h.notMem_ids_of_mem_resultNode hv hi⟩

theorem sublist_whole (hlive : ∀ i ∈ ids, i ∈ t.ids) : ids.Sublist (ids.flatMap (whole t)) := by
  have hown : (ids.flatMap (own t)).Sublist (ids.flatMap (whole t)) :=
    List.Sublist.flatMap_right _ fun id hid ↦
      List.singleton_sublist.2 (extent_whole.self_mem (hlive id hid))
  rwa [flatMap_own] at hown

/-! ### What matching gives -/

variable {e : Tree → NodeId → List NodeId} {cover cover' : List NodeId}
  {r r' : List NodeId × Tree}

/-- The result of matching: the extents of what is found list no handle twice, and have only handles
of a given list and such as were not live before. -/
structure Yields (e : Tree → NodeId → List NodeId) (t : Tree) (cover : List NodeId)
    (r : List NodeId × Tree) : Prop where
  grows : t.Grows r.2
  live : ∀ i ∈ r.1, i ∈ r.2.ids
  nodup : (r.1.flatMap (e r.2)).Nodup
  within : ∀ i ∈ r.1.flatMap (e r.2), i ∈ cover ∨ i ∉ t.ids

namespace Yields

theorem nil (h : t.Grows t') : Yields e t cover ([], t') where
  grows := h
  live _ hi := by cases hi
  nodup := List.nodup_nil
  within _ hi := by cases hi

theorem mono (h : Yields e t cover r) (hcover : cover ⊆ cover') : Yields e t cover' r where
  grows := h.grows
  live := h.live
  nodup := h.nodup
  within i hi := (h.within i hi).imp_left fun hi ↦ hcover hi

/-- Matching once more, within other live handles, repeats nothing. -/
theorem append (he : Extent e) (h : Yields e t cover r) (h' : Yields e r.2 cover' r')
    (hcover : cover' ⊆ t.ids) (hdisjoint : cover.Disjoint cover') :
    Yields e t (cover ++ cover') (r.1 ++ r'.1, r'.2) := by
  have hfirst : r.1.flatMap (e r'.2) = r.1.flatMap (e r.2) :=
    List.flatMap_congr fun i hi ↦ he.grow h'.grows (h.live i hi)
  refine ⟨h.grows.trans h'.grows, fun i hi ↦ ?_, ?_, fun i hi ↦ ?_⟩
  · exact (List.mem_append.1 hi).elim (fun hi ↦ h'.grows.ids_subset (h.live i hi)) (h'.live i)
  · dsimp only
    rw [List.flatMap_append, hfirst]
    refine List.nodup_append'.2 ⟨h.nodup, h'.nodup, fun i hi hi' ↦ ?_⟩
    -- what is found first is live when the second matching begins
    obtain ⟨a, ha, hia⟩ := List.mem_flatMap.1 hi
    have hlive := he.subset (h.live a ha) hia
    have hold := (h'.within i hi').resolve_right fun hnew ↦ hnew hlive
    exact hdisjoint ((h.within i hi).resolve_right fun hnew ↦ hnew (hcover hold)) hold
  · dsimp only at hi
    rw [List.flatMap_append, hfirst, List.mem_append] at hi
    rcases hi with hi | hi
    · exact (h.within i hi).imp_left fun hi ↦ List.mem_append_left _ hi
    · exact (h'.within i hi).imp (fun hi ↦ List.mem_append_right _ hi)
        fun hnew hold ↦ hnew (h.grows.ids_subset hold)

/-- Some of the live nodes with different extents. -/
theorem of_sublist (he : Extent e) (hgrows : t.Grows t') (hfound : found.Sublist ids)
    (hlive : ∀ i ∈ ids, i ∈ t.ids) (hnodup : (ids.flatMap (e t)).Nodup) :
    Yields e t (ids.flatMap (e t)) (found, t') := by
  have hsame : found.flatMap (e t') = found.flatMap (e t) :=
    List.flatMap_congr fun i hi ↦ he.grow hgrows (hlive i (hfound.subset hi))
  have hsublist : (found.flatMap (e t')).Sublist (ids.flatMap (e t)) := by
    rw [hsame]
    exact hfound.flatMap (e t)
  exact ⟨hgrows, fun i hi ↦ hgrows.ids_subset (hlive i (hfound.subset hi)),
    hnodup.sublist hsublist, fun i hi ↦ .inl (hsublist.subset hi)⟩

/-- After the other results are dropped, what was found is still there, and is as it was. -/
theorem release (he : Extent e) (h : Yields e t cover r) (hsound : r.2.Sound) :
    (∀ i ∈ r.1, i ∈ (r.2.releaseScratch r.1).ids) ∧
      (r.1.flatMap (e (r.2.releaseScratch r.1))).Nodup := by
  have hsame : r.1.flatMap (e (r.2.releaseScratch r.1)) = r.1.flatMap (e r.2) :=
    List.flatMap_congr fun i hi ↦ he.release hsound hi (h.live i hi)
  exact ⟨fun i hi ↦ mem_ids_releaseScratch hi (h.live i hi), hsame ▸ h.nodup⟩

end Yields

/-! ### Matching at one place -/

/-- The extents of the children of a node. -/
def childExtents (e : Tree → NodeId → List NodeId) (t : Tree) (n : Node) : List NodeId :=
  n.childNodes.flatMap fun c ↦ e t c.id

theorem childExtents_eq (e : Tree → NodeId → List NodeId) (t : Tree) (n : Node) :
    childExtents e t n = (n.childNodes.map Node.id).flatMap (e t) :=
  (List.flatMap_map ..).symm

theorem filtered_sublist (t : Tree) (s : Segment) (i : NodeId) :
    (t.filtered s i).1.toList.Sublist [i] := by
  unfold filtered
  split
  · exact .refl _
  · exact List.nil_sublist _

namespace Yields

/-- A computed result is nothing that was there. -/
theorem result (he : Extent e) (h : t.Sound) {v : Json} (hv : v.Distinct)
    (hgrows : (t.adoptScratch v).2.Grows t') (hfound : found.Sublist [(t.adoptScratch v).1]) :
    Yields e t cover (found, t') := by
  obtain ⟨hnodup, hnew⟩ := he.result h hv
  have hlive : (t.adoptScratch v).1 ∈ (t.adoptScratch v).2.ids := by
    rw [ids_adoptScratch]
    exact List.mem_append_right _ (t.result_mem_ids v)
  have hafter := of_sublist he hgrows hfound (fun i hi ↦ List.mem_singleton.1 hi ▸ hlive)
    (by rwa [List.flatMap_singleton])
  rw [List.flatMap_singleton] at hafter
  refine ⟨(t.grows_adoptScratch v).trans hgrows, hafter.live, hafter.nodup, fun i hi ↦ .inr ?_⟩
  refine (hafter.within i hi).elim (hnew i) fun hi hold ↦ hi ?_
  exact (t.grows_adoptScratch v).ids_subset hold

/-- An operation gives a child of the node, or a new node. -/
theorem special (he : Extent e) (h : t.Sound) (s : Segment) (operation : String)
    {args : List Json} (hargs : ∀ arg ∈ args, arg.Distinct) (hn : n.toJson.Distinct)
    (hlive : ∀ c ∈ n.childNodes, c.id ∈ t.ids) (hnodup : (childExtents e t n).Nodup) :
    Yields e t (childExtents e t n)
      ((t.special s operation args n).1.toList, (t.special s operation args n).2) := by
  have hgrows := t.grows_special s operation args n
  rw [special_eq] at hgrows ⊢
  cases houtcome : outcome t.registry operation args n with
  | failed error =>
    rw [houtcome] at hgrows
    exact .nil hgrows
  | child c =>
    rw [houtcome] at hgrows
    have hc := mem_childNodes_of_outcome houtcome
    rw [childExtents_eq] at hnodup ⊢
    have hfound : (t.filtered s c.id).1.toList.Sublist (n.childNodes.map Node.id) :=
      (t.filtered_sublist s c.id).trans (List.singleton_sublist.2 (List.mem_map_of_mem hc))
    refine .of_sublist he hgrows hfound (fun i hi ↦ ?_) hnodup
    obtain ⟨d, hd, rfl⟩ := List.mem_map.1 hi
    exact hlive d hd
  | result v =>
    have hv := distinct_of_outcome houtcome hargs hn
    exact .result he h hv (grows_reportAll _ _ _) (filtered_sublist _ s _)

/-- An operation at several nodes that have no children in common. -/
theorem specials (he : Extent e) (h : t.Sound) (s : Segment) (operation : String)
    {args : List Json} (hargs : ∀ arg ∈ args, arg.Distinct) {nodes : List Node}
    (hn : ∀ n ∈ nodes, n.toJson.Distinct) (hlive : ∀ n ∈ nodes, ∀ c ∈ n.childNodes, c.id ∈ t.ids)
    (hnodup : (nodes.flatMap (childExtents e t)).Nodup) :
    Yields e t (nodes.flatMap (childExtents e t)) (t.specials s operation args nodes) := by
  induction nodes generalizing t with
  | nil => exact .nil (.refl t)
  | cons n rest ih =>
    obtain ⟨hfirst, hrest⟩ := List.forall_mem_cons.1 hn
    obtain ⟨hlive, hlive'⟩ := List.forall_mem_cons.1 hlive
    rw [List.flatMap_cons, List.nodup_append'] at hnodup
    have hyields := special he h s operation hargs hfirst hlive hnodup.1
    have hl : t.Leads (t.special s operation args n).2 := leads_special s hargs hfirst
    -- the children of the other nodes are what they were
    have hsame : rest.flatMap (childExtents e (t.special s operation args n).2) =
        rest.flatMap (childExtents e t) :=
      List.flatMap_congr fun m hm ↦ List.flatMap_congr fun c hc ↦
        he.grow hyields.grows (hlive' m hm c hc)
    have hothers := ih (hl.sound h) hrest
      (fun m hm c hc ↦ hyields.grows.ids_subset (hlive' m hm c hc)) (hsame ▸ hnodup.2.1)
    rw [hsame] at hothers
    rw [specials_cons, List.flatMap_cons]
    refine hyields.append he hothers (fun i hi ↦ ?_) hnodup.2.2
    obtain ⟨m, hm, hi⟩ := List.mem_flatMap.1 hi
    obtain ⟨c, hc, hi⟩ := List.mem_flatMap.1 hi
    exact he.subset (hlive' m hm c hc) hi

end Yields

theorem segmentMatches_of_special {operation : String} {args : List Json}
    (hs : s.selector = .special operation args) (t : Tree) (id : NodeId) :
    t.segmentMatches s id = t.specials s operation args (s.targets (t.view id)) := by
  rw [segmentMatches, hs]

namespace Sound

/-- The children of a node below a live one are live. -/
theorem child_mem_ids (h : t.Sound) (hm : m ∈ t.view id :: (t.view id).descendants) :
    ∀ c ∈ m.childNodes, c.id ∈ t.ids := by
  intro c hc
  exact mem_ids_of_node? (h.node?_of_mem_view
    (Node.descendants_subset_of_mem hm (Node.mem_descendants_of_mem_childNodes hc)))

/-- A segment without an operation matches some of the nodes that it looks at. -/
theorem yields_of_ne_special (h : t.Sound) (he : Extent e)
    (hs : ∀ operation args, s.selector ≠ .special operation args) (id : NodeId)
    (hnodup : ((t.reached s id).flatMap (e t)).Nodup) :
    Yields e t ((t.reached s id).flatMap (e t)) (t.segmentMatches s id) := by
  have hfound := t.accepted_sublist_reached s id
  rw [segmentMatches_of_ne_special hs]
  refine .of_sublist he ⟨rfl, [], (List.append_nil _).symm⟩ hfound (fun i hi ↦ ?_) hnodup
  rw [← map_id_reach] at hi
  obtain ⟨edge, hedge, rfl⟩ := List.mem_map.1 hi
  exact mem_ids_of_node? (h.node?_of_mem_view
    (Node.child_mem_descendants (s.reach_subset _ hedge)))

/-- A segment that is not recursive matches within the extents of the children. -/
theorem yields_segmentMatches (h : t.Sound) (he : Extent e) (hs : s.selector.WellFormed)
    (hrec : s.recursive = false) (id : NodeId) (hnodup : (childExtents e t (t.view id)).Nodup) :
    Yields e t (childExtents e t (t.view id)) (t.segmentMatches s id) := by
  by_cases hspecial : ∃ operation args, s.selector = .special operation args
  · obtain ⟨operation, args, hselector⟩ := hspecial
    have htargets : s.targets (t.view id) = [t.view id] := by simp [Segment.targets, hrec]
    rw [hselector] at hs
    rw [segmentMatches_of_special hselector, htargets]
    have hyields := Yields.specials he h s operation hs
      (List.forall_mem_singleton.2 (h.distinct_view id))
      (List.forall_mem_singleton.2 (h.child_mem_ids (List.mem_cons_self ..)))
      (by rwa [List.flatMap_singleton])
    rwa [List.flatMap_singleton] at hyields
  · rw [childExtents_eq, ← reached_of_not_recursive hrec] at hnodup ⊢
    exact h.yields_of_ne_special he (fun _ _ hselector ↦ hspecial ⟨_, _, hselector⟩) id hnodup

/-- A recursive segment matches different nodes below. -/
theorem yields_segmentMatches_recursive (h : t.Sound) (hs : s.selector.WellFormed)
    (hrec : s.recursive = true) (id : NodeId) :
    Yields own t (t.view id).ids (t.segmentMatches s id) := by
  by_cases hspecial : ∃ operation args, s.selector = .special operation args
  · obtain ⟨operation, args, hselector⟩ := hspecial
    have htargets : (s.targets (t.view id)).Sublist (t.view id :: (t.view id).descendants) := by
      rw [Segment.targets, hrec, if_pos rfl]
      exact .cons_cons _ List.filter_sublist
    have hextents : childExtents own t = fun n ↦ n.childNodes.map Node.id :=
      funext fun n ↦ by rw [childExtents_eq, flatMap_own]
    have hnodup : ((s.targets (t.view id)).flatMap (childExtents own t)).Nodup := by
      rw [hextents]
      exact (Node.nodup_flatMap_childNodes (h.nodup_ids_view id)).sublist (htargets.flatMap _)
    rw [hselector] at hs
    rw [segmentMatches_of_special hselector]
    refine (Yields.specials extent_own h s operation hs
      (fun m hm ↦ distinct_of_mem_targets s hm (h.distinct_view id))
      (fun m hm ↦ h.child_mem_ids (htargets.subset hm)) hnodup).mono fun i hi ↦ ?_
    rw [hextents] at hi
    obtain ⟨m, hm, hi⟩ := List.mem_flatMap.1 hi
    obtain ⟨c, hc, rfl⟩ := List.mem_map.1 hi
    exact Node.id_mem_ids_of_mem (List.mem_cons_of_mem _ (Node.descendants_subset_of_mem
      (htargets.subset hm) (Node.mem_descendants_of_mem_childNodes hc)))
  · have hyields := h.yields_of_ne_special extent_own
      (fun _ _ hselector ↦ hspecial ⟨_, _, hselector⟩) id
      ((flatMap_own _ _).symm ▸ h.nodup_reached s id)
    rw [flatMap_own, reached, hrec, if_pos rfl] at hyields
    exact hyields.mono (List.subset_cons_self ..)

/-! ### Matching at several places -/

/-- Matching at several places that have nothing in common. -/
theorem yields_segmentMatchesAll (h : t.Sound) (he : Extent e) (hs : s.selector.WellFormed)
    {cover : NodeId → List NodeId} (hcover : ∀ id ∈ starts, cover id ⊆ t.ids)
    (hnodup : (starts.flatMap cover).Nodup)
    (hstep : ∀ u : Tree, u.Sound → t.Grows u → ∀ id ∈ starts,
      Yields e u (cover id) (u.segmentMatches s id)) :
    Yields e t (starts.flatMap cover) (t.segmentMatchesAll s starts) := by
  induction starts generalizing t with
  | nil => exact .nil (.refl t)
  | cons id rest ih =>
    obtain ⟨-, hrest⟩ := List.forall_mem_cons.1 hcover
    rw [List.flatMap_cons, List.nodup_append'] at hnodup
    have hfirst := hstep t h (.refl t) id (List.mem_cons_self ..)
    have hothers := ih ((leads_segmentMatches hs h id).sound h)
      (fun i hi ↦ List.Subset.trans (hrest i hi) hfirst.grows.ids_subset) hnodup.2.1
      (fun u hu hgrows i hi ↦ hstep u hu (hfirst.grows.trans hgrows) i (List.mem_cons_of_mem id hi))
    rw [segmentMatchesAll_cons, List.flatMap_cons]
    refine hfirst.append he hothers (fun i hi ↦ ?_) hnodup.2.2
    obtain ⟨j, hj, hi⟩ := List.mem_flatMap.1 hi
    exact hrest j hj hi

theorem childExtents_subset (h : t.Sound) (he : Extent e) (id : NodeId) :
    childExtents e t (t.view id) ⊆ t.ids := by
  intro i hi
  obtain ⟨c, hc, hi⟩ := List.mem_flatMap.1 hi
  exact he.subset (h.child_mem_ids (List.mem_cons_self ..) c hc) hi

/-- A segment that is not recursive, at several nodes whose children have nothing in common. -/
theorem yields_of_not_recursive (h : t.Sound) (he : Extent e) (hs : s.selector.WellFormed)
    (hrec : s.recursive = false) (hlive : ∀ i ∈ starts, i ∈ t.ids)
    (hnodup : (starts.flatMap fun id ↦ childExtents e t (t.view id)).Nodup) :
    Yields e t (starts.flatMap fun id ↦ childExtents e t (t.view id))
      (t.segmentMatchesAll s starts) := by
  refine h.yields_segmentMatchesAll he hs (fun id _ ↦ h.childExtents_subset he id) hnodup
    fun u hu hgrows id hid ↦ ?_
  -- the children are what they were, though there may be more scratch nodes
  have hsame : childExtents e u (u.view id) = childExtents e t (t.view id) := by
    rw [hgrows.view_eq (hlive id hid)]
    exact List.flatMap_congr fun c hc ↦
      he.grow hgrows (h.child_mem_ids (List.mem_cons_self ..) c hc)
  rw [← hsame]
  exact hu.yields_segmentMatches he hs hrec id
    (hsame ▸ (List.nodup_flatMap.1 hnodup).1 id hid)

/-- A recursive segment, at several nodes that have no node in common at or below them. -/
theorem yields_of_recursive (h : t.Sound) (hs : s.selector.WellFormed)
    (hrec : s.recursive = true) (hlive : ∀ i ∈ starts, i ∈ t.ids)
    (hnodup : (starts.flatMap (whole t)).Nodup) :
    Yields own t (starts.flatMap (whole t)) (t.segmentMatchesAll s starts) := by
  refine h.yields_segmentMatchesAll extent_own hs (fun id hid ↦ extent_whole.subset (hlive id hid))
    hnodup fun u hu hgrows id hid ↦ ?_
  rw [← extent_whole.grow hgrows (hlive id hid)]
  exact hu.yields_segmentMatches_recursive hs hrec id

/-- Different nodes have no children in common. -/
theorem nodup_childExtents_own (h : t.Sound) (hlive : ∀ i ∈ starts, i ∈ t.ids)
    (hstarts : starts.Nodup) :
    (starts.flatMap fun id ↦ childExtents own t (t.view id)).Nodup := by
  have hparent : ∀ {id i}, id ∈ starts → i ∈ childExtents own t (t.view id) →
      t.parent? i = some id := by
    intro id i hid hi
    obtain ⟨n, hn⟩ := exists_node? (hlive id hid)
    rw [childExtents_eq, flatMap_own, view_of_node? hn] at hi
    exact h.parent?_eq_some_iff.2 ⟨n, hn, hi⟩
  refine List.nodup_flatMap.2 ⟨fun id _ ↦ ?_, hstarts.imp_of_mem fun ha hb hne i hia hib ↦ hne ?_⟩
  · have hnodup := Node.nodup_map_id_childNodes (h.nodup_ids_view id)
    rw [childExtents_eq]
    rwa [flatMap_own]
  · exact Option.some.inj ((hparent ha hia).symm.trans (hparent hb hib))

/-- What is at or below the children of a node is below that node, in the same order. -/
theorem childExtents_whole_sublist (h : t.Sound) (id : NodeId) :
    (childExtents whole t (t.view id)).Sublist (whole t id) := by
  have hchildren : childExtents whole t (t.view id) = (t.view id).childNodes.flatMap Node.ids :=
    List.flatMap_congr fun c hc ↦ by
      have hlive := h.node?_of_mem_view (Node.mem_descendants_of_mem_childNodes hc)
      rw [whole, view_of_node? hlive]
  rw [whole, hchildren, Node.ids_eq]
  exact List.sublist_cons_self ..

theorem nodup_childExtents_whole (h : t.Sound) (hstarts : (starts.flatMap (whole t)).Nodup) :
    (starts.flatMap fun id ↦ childExtents whole t (t.view id)).Nodup :=
  hstarts.sublist (List.Sublist.flatMap_right _ fun id _ ↦ h.childExtents_whole_sublist id)

/-! ### Along a path -/

/-- Segments none of which is recursive lead from different nodes to different nodes. -/
theorem nodup_walk_of_not_recursive (h : t.Sound) (hs : ∀ s ∈ segments, s.selector.WellFormed)
    (hrec : ∀ s ∈ segments, s.recursive = false) (hlive : ∀ i ∈ starts, i ∈ t.ids)
    (hstarts : starts.Nodup) : (t.walk starts segments).1.Nodup := by
  induction segments generalizing t starts with
  | nil => exact hstarts
  | cons s rest ih =>
    obtain ⟨hs, hs'⟩ := List.forall_mem_cons.1 hs
    obtain ⟨hrec, hrec'⟩ := List.forall_mem_cons.1 hrec
    have hsound := (leads_segmentMatchesAll hs h starts).sound h
    obtain ⟨hfound, hnodup⟩ := (h.yields_of_not_recursive extent_own hs hrec hlive
      (h.nodup_childExtents_own hlive hstarts)).release extent_own hsound
    rw [flatMap_own] at hnodup
    rw [walk_cons]
    split
    · exact List.nodup_nil
    · exact ih (hsound.releaseScratch _) hs' hrec' hfound hnodup

/-- Segments of which one at most is recursive lead to different nodes, from nodes that have no node
in common at or below them. -/
theorem nodup_walk (h : t.Sound) (hs : ∀ s ∈ segments, s.selector.WellFormed)
    (hrec : segments.countP (·.recursive) ≤ 1) (hlive : ∀ i ∈ starts, i ∈ t.ids)
    (hstarts : (starts.flatMap (whole t)).Nodup) : (t.walk starts segments).1.Nodup := by
  induction segments generalizing t starts with
  | nil => exact hstarts.sublist (sublist_whole hlive)
  | cons s rest ih =>
    obtain ⟨hs, hs'⟩ := List.forall_mem_cons.1 hs
    have hsound := (leads_segmentMatchesAll hs h starts).sound h
    rw [walk_cons]
    split
    · exact List.nodup_nil
    · cases hfirst : s.recursive with
      | true =>
        have hrest : ∀ s' ∈ rest, s'.recursive = false := by
          rw [List.countP_cons, hfirst, if_pos rfl] at hrec
          have hnone := List.countP_eq_zero.1 (Nat.le_zero.1 (Nat.le_of_succ_le_succ hrec))
          exact fun s' hs' ↦ Bool.eq_false_iff.2 (hnone s' hs')
        obtain ⟨hfound, hnodup⟩ :=
          (h.yields_of_recursive hs hfirst hlive hstarts).release extent_own hsound
        rw [flatMap_own] at hnodup
        exact (hsound.releaseScratch _).nodup_walk_of_not_recursive hs' hrest hfound hnodup
      | false =>
        obtain ⟨hfound, hnodup⟩ := (h.yields_of_not_recursive extent_whole hs hfirst hlive
          (h.nodup_childExtents_whole hstarts)).release extent_whole hsound
        rw [List.countP_cons, hfirst] at hrec
        exact ih (hsound.releaseScratch _) hs' hrec hfound hnodup

end Sound

/-! ### In document order -/

theorem reached_sublist (t : Tree) (s : Segment) (id : NodeId) :
    (t.reached s id).Sublist (t.descendants id) := by
  unfold reached descendants
  split
  · exact .refl _
  · rw [Node.map_id_descendants]
    have hchildren := Node.map_id_sublist (t.view id).childNodes
    rwa [Node.childNodes, List.map_map] at hchildren

theorem segmentMatchesAll_of_ne_special
    (hs : ∀ operation args, s.selector ≠ .special operation args) (t : Tree)
    (starts : List NodeId) :
    t.segmentMatchesAll s starts =
      (starts.flatMap fun id ↦ s.accepted (s.reach (t.view id)),
        t.logged (starts.flatMap fun id ↦ s.failures (s.reach (t.view id)))) := by
  induction starts generalizing t with
  | nil => exact Prod.ext rfl t.logged_nil.symm
  | cons id rest ih =>
    rw [segmentMatchesAll_cons, segmentMatches_of_ne_special hs, ih, List.flatMap_cons,
      List.flatMap_cons, ← logged_logged]
    rfl

/-- The nodes that a segment without an operation matches come in the order in which they stand
below the nodes at which it matches. -/
theorem accepted_sublist_descendants (t : Tree) (s : Segment) (id : NodeId) :
    (s.accepted (s.reach (t.view id))).Sublist (t.descendants id) :=
  (t.accepted_sublist_reached s id).trans (t.reached_sublist s id)

namespace Sound

/-- If the segment is not recursive, then so does all that is below those nodes. -/
theorem flatMap_accepted_sublist (h : t.Sound) (hrec : s.recursive = false) (id : NodeId) :
    ((s.accepted (s.reach (t.view id))).flatMap (whole t)).Sublist (whole t id) := by
  have hbelow := (t.accepted_sublist_reached s id).flatMap (whole t)
  rw [reached_of_not_recursive hrec, ← childExtents_eq] at hbelow
  exact hbelow.trans (h.childExtents_whole_sublist id)

/-- Segments without operations, all but the last of them not recursive, lead to nodes in the order
in which they stand at or below the nodes that the walk begins with. -/
theorem walk_sublist (h : t.Sound) (hwf : ∀ s ∈ segments, s.selector.WellFormed)
    (hs : ∀ s ∈ segments, ∀ operation args, s.selector ≠ .special operation args)
    (hrec : ∀ s ∈ segments.dropLast, s.recursive = false) (hlive : ∀ i ∈ starts, i ∈ t.ids) :
    (t.walk starts segments).1.Sublist (starts.flatMap (whole t)) := by
  induction segments generalizing t starts with
  | nil => exact sublist_whole hlive
  | cons s rest ih =>
    obtain ⟨hwf, hwf'⟩ := List.forall_mem_cons.1 hwf
    obtain ⟨hs, hs'⟩ := List.forall_mem_cons.1 hs
    have hsound := (leads_segmentMatchesAll hwf h starts).sound h
    have hfound : ∀ i ∈ (t.segmentMatchesAll s starts).1,
        i ∈ (t.segmentMatchesAll s starts).2.ids :=
      whileHeld_live.segmentMatchesAll h hwf starts
    have hmatches := segmentMatchesAll_of_ne_special hs t starts
    rw [walk_cons]
    split
    · exact List.nil_sublist _
    · cases rest with
      | nil =>
        rw [hmatches]
        exact List.Sublist.flatMap_right _ fun id _ ↦
          (t.accepted_sublist_descendants s id).trans (List.sublist_cons_self ..)
      | cons s' rest =>
        rw [List.dropLast_cons_cons] at hrec
        obtain ⟨hrec, hrec'⟩ := List.forall_mem_cons.1 hrec
        refine (ih (hsound.releaseScratch _) hwf' hs' hrec' fun i hi ↦
          mem_ids_releaseScratch hi (hfound i hi)).trans ?_
        have hsame : (t.segmentMatchesAll s starts).1.flatMap
            (whole ((t.segmentMatchesAll s starts).2.releaseScratch
              (t.segmentMatchesAll s starts).1)) =
            (t.segmentMatchesAll s starts).1.flatMap (whole (t.segmentMatchesAll s starts).2) :=
          List.flatMap_congr fun i hi ↦ extent_whole.release hsound hi (hfound i hi)
        rw [hsame, hmatches, List.flatMap_assoc]
        exact List.Sublist.flatMap_right _ fun id _ ↦ h.flatMap_accepted_sublist hrec id

end Sound

/-- A path with one recursive segment at most leads to no node twice. If it invokes no operation,
and there is no segment after the recursive one, then it leads to nodes in document order. -/
theorem findFrom_once (ht : t.Reachable) {raw : String} {p : Path} (hp : Path.parse raw = .ok p)
    (start : NodeId) :
    (p.segments.countP (·.recursive) ≤ 1 → (t.findFrom p start).1.Nodup) ∧
      ((∀ s ∈ p.segments, ∀ operation args, s.selector ≠ .special operation args) →
        (∀ s ∈ p.segments.dropLast, s.recursive = false) →
          (t.findFrom p start).1.Sublist (start :: t.descendants start)) := by
  have hwf := Path.wellFormed_of_parse hp
  have h := ht.sound.releaseScratch [start]
  unfold findFrom
  dsimp only
  split
  · rename_i hlive
    have hstarts := List.forall_mem_singleton.2 (contains_iff.1 hlive)
    constructor
    · intro hrec
      refine h.nodup_walk hwf hrec hstarts ?_
      rw [List.flatMap_singleton]
      exact h.nodup_ids_view start
    · intro hs hrec
      have hwalk := h.walk_sublist hwf hs hrec hstarts
      have hold := contains_iff.1 (contains_of_releaseScratch hlive)
      rw [List.flatMap_singleton, extent_whole.release ht.sound (List.mem_singleton_self _) hold]
        at hwalk
      rwa [whole, Node.ids, id_view] at hwalk
  · exact ⟨fun _ ↦ List.nodup_nil, fun _ _ ↦ List.nil_sublist _⟩

/-- The names that an operation gives at every depth are all different nodes. Without operations,
what is found below the items comes in the order of the document. -/
theorem findFrom_once_keys :
    ∃ p q, Path.parse "..{keys}.*" = .ok p ∧ Path.parse "*..*" = .ok q ∧
      ((ofJson .builtin (.array [.array [.null, .null], .object [("a", .array [.null])]])).findFrom
        p ⟨0, 0⟩).1.Nodup ∧
      ((ofJson .builtin (.array [.array [.null, .null], .object [("a", .array [.null])]])).findFrom
        p ⟨0, 0⟩).1.length = 6 ∧
      ((ofJson .builtin (.array [.array [.null, .null], .object [("a", .array [.null])]])).findFrom
        q ⟨0, 0⟩).1.Sublist [⟨0, 0⟩, ⟨1, 0⟩, ⟨2, 0⟩, ⟨3, 0⟩, ⟨4, 0⟩, ⟨5, 0⟩, ⟨6, 0⟩] ∧
      ((ofJson .builtin (.array [.array [.null, .null], .object [("a", .array [.null])]])).findFrom
        q ⟨0, 0⟩).1 = [⟨2, 0⟩, ⟨3, 0⟩, ⟨5, 0⟩, ⟨6, 0⟩] := by
  have hreachable : (ofJson .builtin
      (.array [.array [.null, .null], .object [("a", .array [.null])]])).Reachable :=
    .ofJson _ (by simp)
  have hkeys : Path.parse "..{keys}.*" = .ok ⟨"..{keys}.*",
      [⟨"{keys}", .special "keys" [], none, true⟩, ⟨"*", .any, none, false⟩]⟩ := rfl
  have hany : Path.parse "*..*" = .ok ⟨"*..*",
      [⟨"*", .any, none, false⟩, ⟨"*", .any, none, true⟩]⟩ := rfl
  refine ⟨_, _, hkeys, hany, (findFrom_once hreachable hkeys ⟨0, 0⟩).1 (by decide),
    by decide +kernel, (findFrom_once hreachable hany ⟨0, 0⟩).2 ?_ ?_, by decide +kernel⟩
  · simp
  · simp

end Tree

end DocPath

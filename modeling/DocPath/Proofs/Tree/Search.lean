import DocPath.Proofs.Node.Position
import DocPath.Proofs.Tree.Stale

/-!
# What searching leaves alone and what it finds

A search adds scratch nodes, drops them and logs failures, and leaves the other tops as they are
(`lasting_findFrom`), the document first among them (`root_findPath`). What a segment finds at a
node is below that node or a new scratch node, so a path with at least one segment does not lead to
the root (`Sound.ne_root_of_mem_findPath`).

* `Grows` — what matching makes of a tree: scratch nodes are added and none is dropped
* `WhileHeld` — the properties that hold of all that a search finds; between two segments scratch
  nodes are dropped, so such a property need only outlast that for the handles that are kept
* `OfFound` — those that no search takes away from any handle
-/

namespace DocPath.Tree

open DocPath.Path (Segment)
open Node (Context)

variable {t : Tree} {id : NodeId} {n m : Node}

/-! ### What is left alone -/

/-- The tops that no search touches: all but the scratch nodes. -/
def lasting (t : Tree) : List Node :=
  t.root :: t.adopted

theorem tops_eq_append (t : Tree) : t.tops = t.lasting ++ t.scratch :=
  rfl

theorem root_eq_of_lasting {t' : Tree} (h : t'.lasting = t.lasting) : t'.root = t.root :=
  (List.cons.inj h).1

/-- What matching makes of a tree: there are more scratch nodes, and more failures in the log. -/
structure Grows (t t' : Tree) : Prop where
  lasting : t'.lasting = t.lasting
  scratch : ∃ results, t'.scratch = t.scratch ++ results

namespace Grows

variable {t' t'' : Tree}

protected theorem refl (t : Tree) : t.Grows t :=
  ⟨rfl, [], (List.append_nil _).symm⟩

protected theorem trans (h : t.Grows t') (h' : t'.Grows t'') : t.Grows t'' := by
  obtain ⟨results, hscratch⟩ := h.scratch
  obtain ⟨others, hscratch'⟩ := h'.scratch
  refine ⟨h'.lasting.trans h.lasting, results ++ others, ?_⟩
  rw [hscratch', hscratch, List.append_assoc]

theorem root (h : t.Grows t') : t'.root = t.root :=
  root_eq_of_lasting h.lasting

theorem exists_tops_eq (h : t.Grows t') : ∃ results, t'.tops = t.tops ++ results := by
  obtain ⟨results, hscratch⟩ := h.scratch
  exact ⟨results, by
    rw [tops_eq_append, tops_eq_append, h.lasting, hscratch, List.append_assoc]⟩

/-- No handle is released. -/
theorem ids_subset (h : t.Grows t') : t.ids ⊆ t'.ids := by
  obtain ⟨results, htops⟩ := h.exists_tops_eq
  rw [ids, ids, htops, List.flatMap_append]
  exact List.subset_append_left _ _

/-- A live handle names the same node. -/
theorem node?_eq (h : t.Grows t') (hid : id ∈ t.ids) : t'.node? id = t.node? id := by
  obtain ⟨results, htops⟩ := h.exists_tops_eq
  obtain ⟨n, hn⟩ := exists_node? hid
  rw [hn, node?, htops, List.findSome?_append]
  exact congrArg (Option.or · _) hn

/-- Through a live handle the same is seen. -/
theorem view_eq (h : t.Grows t') (hid : id ∈ t.ids) : t'.view id = t.view id := by
  rw [view, view, h.node?_eq hid]

end Grows

section

variable (t : Tree) (s : Segment)

theorem grows_report (segment : String) (fault : Fault) : t.Grows (t.report segment fault) :=
  ⟨rfl, [], (List.append_nil _).symm⟩

theorem grows_reportAll (segment : String) (verdicts : List (NodeId × Except FormulaError Bool)) :
    t.Grows (t.reportAll segment verdicts) := by
  induction verdicts generalizing t with
  | nil => exact .refl t
  | cons entry rest ih =>
    obtain ⟨id, verdict⟩ := entry
    cases verdict with
    | ok b => exact ih t
    | error e => exact (t.grows_report segment _).trans (ih _)

theorem grows_adoptScratch (v : Json) : t.Grows (t.adoptScratch v).2 :=
  ⟨rfl, _, rfl⟩

theorem grows_special (operation : String) (args : List Json) (n : Node) :
    t.Grows (t.special s operation args n).2 := by
  rw [special_eq]
  cases outcome t.registry operation args n with
  | failed e => exact t.grows_report _ _
  | child c => exact t.grows_reportAll _ _
  | result v => exact (t.grows_adoptScratch v).trans (grows_reportAll _ _ _)

theorem grows_specials (operation : String) (args : List Json) (nodes : List Node) :
    t.Grows (t.specials s operation args nodes).2 := by
  induction nodes generalizing t with
  | nil => exact .refl t
  | cons n rest ih => exact (t.grows_special s operation args n).trans (ih _)

theorem grows_segmentMatches (id : NodeId) : t.Grows (t.segmentMatches s id).2 := by
  unfold segmentMatches
  split
  · exact t.grows_specials s _ _ _
  · exact t.grows_reportAll _ _

theorem grows_segmentMatchesAll (ids : List NodeId) :
    t.Grows (t.segmentMatchesAll s ids).2 := by
  induction ids generalizing t with
  | nil => exact .refl t
  | cons id rest ih => exact (t.grows_segmentMatches s id).trans (ih _)

@[simp] theorem lasting_releaseScratch (keep : List NodeId) :
    (t.releaseScratch keep).lasting = t.lasting :=
  rfl

theorem lasting_walk (ids : List NodeId) (segments : List Segment) :
    (t.walk ids segments).2.lasting = t.lasting := by
  induction segments generalizing t ids with
  | nil => rfl
  | cons s rest ih =>
    have hfirst := (t.grows_segmentMatchesAll s ids).lasting
    rw [walk_cons]
    split
    · exact hfirst
    · exact (ih _ _).trans hfirst

/-- A search leaves the document and the adopted nodes as they are. -/
@[simp] theorem lasting_findFrom (p : Path) (start : NodeId) :
    (t.findFrom p start).2.lasting = t.lasting := by
  unfold findFrom
  dsimp only
  split
  · rw [lasting_walk, lasting_releaseScratch]
  · rfl

/-! ### The document -/

@[simp] theorem root_releaseScratch (keep : List NodeId) :
    (t.releaseScratch keep).root = t.root :=
  rfl

@[simp] theorem root_reportAll (segment : String)
    (verdicts : List (NodeId × Except FormulaError Bool)) :
    (t.reportAll segment verdicts).root = t.root :=
  (t.grows_reportAll segment verdicts).root

theorem root_special (operation : String) (args : List Json) (n : Node) :
    (t.special s operation args n).2.root = t.root :=
  (t.grows_special s operation args n).root

@[simp] theorem root_segmentMatches (id : NodeId) :
    (t.segmentMatches s id).2.root = t.root :=
  (t.grows_segmentMatches s id).root

@[simp] theorem root_segmentMatchesAll (ids : List NodeId) :
    (t.segmentMatchesAll s ids).2.root = t.root :=
  (t.grows_segmentMatchesAll s ids).root

/-- A search from the root goes on from there, since the root is live. -/
theorem findPath_eq_walk (p : Path) :
    t.findPath p = (t.releaseScratch [t.root.id]).walk [t.root.id] p.segments :=
  if_pos (contains_iff.2 (t.releaseScratch [t.root.id]).root_id_mem_ids)

/-- A search leaves the document as it is. -/
@[simp] theorem root_findPath (p : Path) : (t.findPath p).2.root = t.root :=
  root_eq_of_lasting (t.lasting_findFrom p t.root.id)

end

theorem root_findValues {raw : String} {found : List Json × Tree}
    (h : t.findValues raw = .ok found) : found.2.root = t.root := by
  obtain ⟨p, -, rfl⟩ := exists_of_findValues h
  exact t.root_findPath p

/-! ### What is released -/

/-- Dropping scratch nodes brings no handle to life. -/
theorem contains_of_releaseScratch {keep : List NodeId} (h : (t.releaseScratch keep).contains id) :
    t.contains id := by
  rw [contains_iff] at h ⊢
  have hids := (t.tops_releaseScratch keep).flatMap_right Node.ids
  rw [List.flatMap_append] at hids
  exact hids.mem_iff.2 (List.mem_append_right _ h)

/-- A handle to keep stays live. -/
theorem mem_ids_releaseScratch {keep : List NodeId} (hkeep : id ∈ keep) (hid : id ∈ t.ids) :
    id ∈ (t.releaseScratch keep).ids := by
  rw [ids, tops_eq_append, List.flatMap_append, List.mem_append] at hid ⊢
  rw [lasting_releaseScratch, releaseScratch_eq]
  refine hid.imp_right fun hscratch ↦ ?_
  obtain ⟨n, hn, hid⟩ := List.mem_flatMap.1 hscratch
  have hheld : keep.any n.has = true := List.any_eq_true.2 ⟨id, hkeep, Node.find?_isSome.2 hid⟩
  exact List.mem_flatMap.2 ⟨n, List.mem_filter.2 ⟨hn, hheld⟩, hid⟩

/-- A handle to keep names the same node. -/
theorem Sound.node?_releaseScratch (h : t.Sound) {keep : List NodeId} (hkeep : id ∈ keep)
    (hid : id ∈ t.ids) : (t.releaseScratch keep).node? id = t.node? id := by
  have hkept := mem_ids_releaseScratch hkeep hid
  obtain ⟨n, hn, hmem⟩ := List.mem_flatMap.1 hkept
  have hold : n ∈ t.tops := (t.tops_releaseScratch keep).mem_iff.2 (List.mem_append_right _ hn)
  rw [(h.releaseScratch keep).node?_of_mem_ids hn hmem, h.node?_of_mem_ids hold hmem]

theorem Sound.view_releaseScratch (h : t.Sound) {keep : List NodeId} (hkeep : id ∈ keep)
    (hid : id ∈ t.ids) : (t.releaseScratch keep).view id = t.view id := by
  rw [view, view, h.node?_releaseScratch hkeep hid]

/-! ### What is found -/

namespace Sound

/-- A node below a live one is none of the tops. -/
theorem ne_of_mem_descendants (h : t.Sound) (hm : m ∈ (t.view id).descendants) {top : Node}
    (htop : top ∈ t.tops) : m.id ≠ top.id := by
  cases hn : t.node? id with
  | none => simp [view, hn, Node.descendants, Node.edges] at hm
  | some n =>
    rw [view_of_node? hn] at hm
    obtain ⟨before, c, after, hsplit, -⟩ := h.split hn
    obtain ⟨d, f, rfl⟩ := Node.exists_fill_of_mem_descendants hm
    have hsplit' : t.tops = before ++ Context.fill ((c ++ d) ++ [f]) m :: after := by
      rw [hsplit, List.append_assoc, Context.fill_append c]
    have hnodup := h.handles.nodup
    rw [ids, hsplit'] at hnodup
    rw [hsplit'] at htop
    exact (Node.id_ne_of_mem_split (Node.notMem_outsideIds hnodup m.id_mem_ids) htop).symm

end Sound

/-- What a segment looks at below a node is below it. -/
theorem mem_descendants_of_mem_candidates {s : Segment} {c : NodeId × Except FormulaError Bool}
    (hc : c ∈ s.candidates n) : ∃ m ∈ n.descendants, m.id = c.1 := by
  obtain ⟨e, he, rfl⟩ := List.mem_map.1 hc
  have hreach := List.mem_of_mem_filter he
  refine ⟨e.child, ?_, rfl⟩
  unfold Segment.reach at hreach
  split at hreach
  · exact List.mem_map_of_mem hreach
  · exact Node.mem_descendants_of_mem_childNodes (Node.mem_childNodes.2 ⟨e.key, by
      obtain ⟨child, hchild, rfl⟩ := List.mem_map.1 hreach
      exact hchild⟩)

theorem mem_of_mem_targets {s : Segment} (h : m ∈ s.targets n) : m ∈ n :: n.descendants := by
  refine (List.mem_cons.1 h).elim (fun heq ↦ heq ▸ List.mem_cons_self ..) fun h ↦ ?_
  split at h
  · exact List.mem_cons_of_mem n (List.mem_of_mem_filter h)
  · cases h

theorem eq_of_mem_filtered {s : Segment} {i : NodeId} (h : id ∈ (t.filtered s i).1) : id = i := by
  unfold filtered at h
  split at h
  · exact (Option.some.inj h).symm
  · cases h

theorem mem_childNodes_of_outcome {r : Registry} {operation : String} {args : List Json} {c : Node}
    (h : outcome r operation args n = .child c) : c ∈ n.childNodes := by
  unfold outcome at h
  split at h
  · cases h
  · split at h
    · rename_i hpick
      cases h
      obtain ⟨key, -, hc⟩ := Option.bind_eq_some_iff.1 hpick
      exact Node.mem_childNodes_of_child? hc
    · split at h <;> cases h

/-- A handle with a node below it is in one of the tops, together with that node. -/
theorem exists_top_of_view (hm : m ∈ (t.view id).descendants) :
    ∃ top ∈ t.tops, top.find? id = some (t.view id) ∧ m.id ∈ top.ids := by
  cases hn : t.node? id with
  | none => simp [view, hn, Node.descendants, Node.edges] at hm
  | some n =>
    rw [view_of_node? hn] at hm ⊢
    obtain ⟨top, htop, hfind⟩ := List.exists_of_findSome?_eq_some hn
    have hbelow := Node.descendants_subset_of_mem (Node.mem_of_find? hfind) hm
    exact ⟨top, htop, hfind, Node.id_mem_ids_of_mem (List.mem_cons_of_mem top hbelow)⟩

/-- A property of handles that is true of every handle when it is found, whether its node is below a
live one or is a new scratch node, and that stays true as long as the search holds on to the
handle: while scratch nodes are added, and when those are dropped that have no handle to keep. -/
structure WhileHeld (P : Tree → NodeId → Prop) : Prop where
  grow : ∀ {t t' : Tree} {id : NodeId}, t.Sound → t.Leads t' → t.Grows t' → P t id → P t' id
  release : ∀ {t : Tree} {keep : List NodeId} {id : NodeId}, t.Sound → id ∈ keep → P t id →
    P (t.releaseScratch keep) id
  below : ∀ {t : Tree} {id : NodeId} {m : Node}, t.Sound → m ∈ (t.view id).descendants → P t m.id
  result : ∀ {t : Tree} {v : Json}, t.Sound → v.Distinct →
    P (t.adoptScratch v).2 (t.adoptScratch v).1

namespace WhileHeld

variable {P : Tree → NodeId → Prop} {s : Segment} {operation : String} {args : List Json}

theorem special (hP : WhileHeld P) (h : t.Sound) (hargs : ∀ arg ∈ args, arg.Distinct)
    (hn : n.toJson.Distinct) (hbelow : ∀ c ∈ n.childNodes, P t c.id) :
    ∀ i ∈ (t.special s operation args n).1, P (t.special s operation args n).2 i := by
  intro i hi
  rw [special_eq] at hi ⊢
  cases houtcome : outcome t.registry operation args n with
  | failed e => rw [houtcome] at hi; cases hi
  | child c =>
    rw [houtcome] at hi
    rw [eq_of_mem_filtered hi]
    exact hP.grow h (leads_evaluates s t c.id) (t.grows_reportAll _ _)
      (hbelow c (mem_childNodes_of_outcome houtcome))
  | result v =>
    rw [houtcome] at hi
    rw [eq_of_mem_filtered hi]
    have hv := distinct_of_outcome houtcome hargs hn
    exact hP.grow (h.adoptScratch hv) (leads_evaluates s _ _) (grows_reportAll _ _ _)
      (hP.result h hv)

theorem specials (hP : WhileHeld P) (h : t.Sound) {nodes : List Node}
    (hargs : ∀ arg ∈ args, arg.Distinct) (hn : ∀ n ∈ nodes, n.toJson.Distinct)
    (hbelow : ∀ n ∈ nodes, ∀ c ∈ n.childNodes, P t c.id) :
    ∀ i ∈ (t.specials s operation args nodes).1, P (t.specials s operation args nodes).2 i := by
  induction nodes generalizing t with
  | nil =>
    intro i hi
    cases hi
  | cons n rest ih =>
    obtain ⟨hfirst, hrest⟩ := List.forall_mem_cons.1 hn
    obtain ⟨hbelow, hbelow'⟩ := List.forall_mem_cons.1 hbelow
    have hgrows := t.grows_special s operation args n
    have hl : t.Leads (t.special s operation args n).2 := leads_special s hargs hfirst
    intro i hi
    rw [specials_cons] at hi ⊢
    rw [List.mem_append, Option.mem_toList] at hi
    rcases hi with hi | hi
    · exact hP.grow (hl.sound h) (leads_specials s hargs hrest)
        (grows_specials _ s operation args rest) (hP.special h hargs hfirst hbelow i hi)
    · exact ih (hl.sound h) hrest (fun m hm c hc ↦ hP.grow h hl hgrows (hbelow' m hm c hc)) i hi

theorem segmentMatches (hP : WhileHeld P) (h : t.Sound) (hs : s.selector.WellFormed)
    (start : NodeId) : ∀ i ∈ (t.segmentMatches s start).1, P (t.segmentMatches s start).2 i := by
  intro i hi
  unfold Tree.segmentMatches at hi ⊢
  split at hi
  · rename_i operation args hselector
    rw [hselector] at hs
    have hdistinct : ∀ m ∈ s.targets (t.view start), m.toJson.Distinct := fun m hm ↦
      distinct_of_mem_targets s hm (h.distinct_view start)
    refine hP.specials h hs hdistinct (fun m hm c hc ↦ ?_) i hi
    have hbelow : c ∈ (t.view start).descendants :=
      Node.descendants_subset_of_mem (mem_of_mem_targets hm)
        (Node.mem_descendants_of_mem_childNodes hc)
    exact hP.below h hbelow
  · obtain ⟨c, hc, rfl⟩ := List.mem_map.1 hi
    obtain ⟨m, hm, hmid⟩ := mem_descendants_of_mem_candidates (List.mem_of_mem_filter hc)
    rw [← hmid]
    exact hP.grow h (t.leads_reportAll _ _) (t.grows_reportAll _ _) (hP.below h hm)

theorem segmentMatchesAll (hP : WhileHeld P) (h : t.Sound) (hs : s.selector.WellFormed)
    (starts : List NodeId) :
    ∀ i ∈ (t.segmentMatchesAll s starts).1, P (t.segmentMatchesAll s starts).2 i := by
  induction starts generalizing t with
  | nil =>
    intro i hi
    cases hi
  | cons start rest ih =>
    have hl := leads_segmentMatches hs h start
    intro i hi
    rw [segmentMatchesAll_cons] at hi ⊢
    rcases List.mem_append.1 hi with hi | hi
    · exact hP.grow (hl.sound h) (leads_segmentMatchesAll hs (hl.sound h) rest)
        (grows_segmentMatchesAll _ s rest) (hP.segmentMatches h hs start i hi)
    · exact ih (hl.sound h) i hi

/-- What holds of all that is found holds of what several segments lead to, and without segments of
what the search begins with. -/
theorem walk (hP : WhileHeld P) (h : t.Sound) {starts : List NodeId} {segments : List Segment}
    (hs : ∀ s ∈ segments, s.selector.WellFormed)
    (hstarts : segments = [] → ∀ i ∈ starts, P t i) :
    ∀ i ∈ (t.walk starts segments).1, P (t.walk starts segments).2 i := by
  induction segments generalizing t starts with
  | nil => exact hstarts rfl
  | cons s rest ih =>
    obtain ⟨hfirst, hrest⟩ := List.forall_mem_cons.1 hs
    have hsound := (leads_segmentMatchesAll hfirst h starts).sound h
    intro i hi
    rw [walk_cons] at hi ⊢
    split at hi
    · cases hi
    · rename_i hne
      rw [if_neg hne]
      exact ih (hsound.releaseScratch _) hrest (fun _ j hj ↦ hP.release hsound hj
        (hP.segmentMatchesAll h hfirst starts j hj)) i hi

theorem findFrom (hP : WhileHeld P) (h : t.Sound) {p : Path}
    (hp : ∀ s ∈ p.segments, s.selector.WellFormed) {start : NodeId}
    (hstart : p.segments = [] → t.contains start → P t start) :
    ∀ i ∈ (t.findFrom p start).1, P (t.findFrom p start).2 i := by
  intro i hi
  unfold Tree.findFrom at hi ⊢
  dsimp only at hi ⊢
  split at hi
  · rename_i hlive
    rw [if_pos hlive]
    refine hP.walk (h.releaseScratch _) hp (fun hnil j hj ↦ ?_) i hi
    obtain rfl := List.mem_singleton.1 hj
    exact hP.release h hj (hstart hnil (contains_of_releaseScratch hlive))
  · cases hi

end WhileHeld

/-- A property of handles that is true of every handle when it is found, and that a search takes
away from no handle, whether it holds on to it or not. -/
structure OfFound (P : Tree → NodeId → Prop) : Prop where
  keep : ∀ {t t' : Tree} {id : NodeId}, t.Sound → t.Leads t' → t'.root = t.root → P t id → P t' id
  below : ∀ {t : Tree} {id : NodeId} {m : Node}, t.Sound → m ∈ (t.view id).descendants → P t m.id
  result : ∀ {t : Tree} {v : Json}, t.Sound → v.Distinct →
    P (t.adoptScratch v).2 (t.adoptScratch v).1

namespace OfFound

variable {P : Tree → NodeId → Prop}

theorem whileHeld (hP : OfFound P) : WhileHeld P where
  grow h hl hgrows := hP.keep h hl hgrows.root
  release {t keep} _ h _ := hP.keep h (.single (.releaseScratch t keep)) rfl
  below := hP.below
  result := hP.result

theorem findPath (hP : OfFound P) (h : t.Sound) {p : Path}
    (hp : ∀ s ∈ p.segments, s.selector.WellFormed) (hroot : p.segments = [] → P t t.root.id) :
    ∀ i ∈ (t.findPath p).1, P (t.findPath p).2 i :=
  hP.whileHeld.findFrom h hp fun hnil _ ↦ hroot hnil

end OfFound

theorem result_mem_ids (t : Tree) (v : Json) : (t.adoptScratch v).1 ∈ (t.resultNode v).ids := by
  rw [Node.ids_eq, resultNode, Node.id_build]
  exact List.mem_cons_self ..

/-- A new scratch node is not in the document. -/
theorem Sound.result_notMem_root (h : t.Sound) {v : Json} (hv : v.Distinct) :
    (t.adoptScratch v).1 ∉ t.root.ids := by
  have hnodup := (h.adoptScratch hv).handles.nodup
  rw [ids_adoptScratch] at hnodup
  exact fun hmem ↦ List.disjoint_of_nodup_append hnodup (mem_ids_of_mem_root hmem)
    (t.result_mem_ids v)

theorem ofFound_ne_root : OfFound fun t id ↦ id ≠ t.root.id where
  keep _ _ hroot hne := hroot ▸ hne
  below h hm := h.ne_of_mem_descendants hm (root_mem_tops _)
  result h hv heq := h.result_notMem_root hv (heq ▸ Node.id_mem_ids _)

theorem ofFound_seen : OfFound Seen where
  keep h hl _ hseen := hl.seen h hseen
  below _ hm := by
    obtain ⟨top, htop, -, hmem⟩ := exists_top_of_view hm
    exact .inl (List.mem_flatMap.2 ⟨top, htop, hmem⟩)
  result {t v} _ _ := by
    refine .inl ?_
    rw [ids_adoptScratch]
    exact List.mem_append_right _ (t.result_mem_ids v)

namespace Sound

/-- Only the path without segments leads to the root. -/
theorem ne_root_of_mem_findPath (h : t.Sound) {p : Path}
    (hp : ∀ s ∈ p.segments, s.selector.WellFormed) (hne : p.segments ≠ []) :
    ∀ id ∈ (t.findPath p).1, id ≠ t.root.id := by
  rw [← t.root_findPath p]
  exact ofFound_ne_root.findPath h hp fun hnil ↦ absurd hnil hne

/-- The handles that a search finds were live when it found them. -/
theorem seen_of_mem_findPath (h : t.Sound) {p : Path}
    (hp : ∀ s ∈ p.segments, s.selector.WellFormed) :
    ∀ id ∈ (t.findPath p).1, (t.findPath p).2.Seen id :=
  ofFound_seen.findPath h hp fun _ ↦ .inl t.root_id_mem_ids

end Sound

end DocPath.Tree

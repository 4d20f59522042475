import DocPath.Proofs.Node.Order
import DocPath.Proofs.Path.Literal
import DocPath.Proofs.Tree.Search

/-!
# Searching the document

A search can find nodes outside the document: scratch nodes with the results of operations, and what
is below them. The nodes of the document among those that it finds (`attached`) can be told from the
document alone, segment by segment: `Segment.hits` are those that a segment matches at one node, and
`Path.hitsAlong` those that several segments lead to (`Sound.attached_findPath`).

A recursive segment leads to nodes below each other, and after another segment it can lead to a node
twice. But no node is new when one below it was found before (`Sound.topDown_attached_findPath`).
-/

namespace DocPath

namespace Path

open DocPath.Tree (accepts outcome)

namespace Segment

/-- The child that an operation picks at a node, if the formula accepts it. -/
def picked (s : Segment) (r : Registry) (operation : String) (args : List Json) (n : Node) :
    Option Node :=
  match outcome r operation args n with
  | .child c => if accepts (s.verdict c.toJson) then some c else none
  | _ => none

/-- What a segment matches at a node, apart from results that operations compute. -/
def hits (s : Segment) (r : Registry) (n : Node) : List Node :=
  match s.selector with
  | .special operation args => (s.targets n).filterMap (s.picked r operation args)
  | _ =>
    ((s.reach n).filter fun e ↦
      s.selector.matchesKey e.siblings e.key && accepts (s.verdict e.child.toJson)).map Edge.child

end Segment

/-- What segments lead to from some nodes, one after the other, apart from computed results. -/
def hitsAlong (r : Registry) (ns : List Node) : List Segment → List Node
  | [] => ns
  | s :: rest => hitsAlong r (ns.flatMap (s.hits r)) rest

end Path

/-- The nodes of the document among those of some handles. -/
def Tree.attached (t : Tree) (ids : List NodeId) : List Node :=
  ids.filterMap fun id ↦ t.root.find? id

namespace Path

open DocPath.Tree (accepts outcome)

variable {s : Segment} {r : Registry} {operation : String} {args : List Json} {n m a x y : Node}

/-! ### What a segment matches -/

namespace Segment

theorem hits_special (h : s.selector = .special operation args) (r : Registry) (n : Node) :
    s.hits r n = (s.targets n).filterMap (s.picked r operation args) := by
  rw [hits, h]

theorem hits_of_ne_special (h : ∀ operation args, s.selector ≠ .special operation args)
    (r : Registry) (n : Node) :
    s.hits r n = ((s.reach n).filter fun e ↦
      s.selector.matchesKey e.siblings e.key && accepts (s.verdict e.child.toJson)).map
        Edge.child := by
  unfold hits
  split
  · rename_i hselector
    exact absurd hselector (h _ _)
  · rfl

/-- A plain segment matches the children whose keys its selector takes. -/
theorem hits_of_plain (h : s.Plain) (r : Registry) (n : Node) :
    s.hits r n = (n.children.filter fun child ↦
      s.selector.matchesKey n.children.length child.1).map Prod.snd := by
  have haccepts : ∀ v, accepts (s.verdict v) = true := fun v ↦ by
    rw [verdict, h.formula_eq]
    rfl
  simp [hits_of_ne_special h.ne_special, reach, h.recursive_eq, Node.childEdges, haccepts,
    List.filter_map, Function.comp_def]

theorem mem_childNodes_of_picked (h : s.picked r operation args n = some m) :
    m ∈ n.childNodes := by
  unfold picked at h
  split at h
  · rename_i c houtcome
    split at h
    · obtain rfl := Option.some.inj h
      exact Tree.mem_childNodes_of_outcome houtcome
    · cases h
  · cases h

theorem child_mem_of_reach {e : Edge} (h : e ∈ s.reach n) : e.child ∈ n.descendants := by
  unfold reach at h
  split at h
  · exact List.mem_map_of_mem h
  · exact Node.mem_descendants_of_mem_childNodes (Node.child_mem_childNodes h)

/-- Matches at a node are below it. -/
theorem mem_descendants_of_hits (h : m ∈ s.hits r n) : m ∈ n.descendants := by
  unfold hits at h
  split at h
  · obtain ⟨z, hz, hm⟩ := List.mem_filterMap.1 h
    exact Node.descendants_subset_of_mem (Tree.mem_of_mem_targets hz)
      (Node.mem_descendants_of_mem_childNodes (mem_childNodes_of_picked hm))
  · obtain ⟨e, he, rfl⟩ := List.mem_map.1 h
    exact child_mem_of_reach (List.mem_of_mem_filter he)

/-- A segment that is not recursive matches children. -/
theorem mem_childNodes_of_hits (hrec : s.recursive = false) (h : m ∈ s.hits r n) :
    m ∈ n.childNodes := by
  unfold hits at h
  split at h
  · obtain ⟨z, hz, hm⟩ := List.mem_filterMap.1 h
    rw [targets, hrec] at hz
    obtain rfl := List.mem_singleton.1 hz
    exact mem_childNodes_of_picked hm
  · obtain ⟨e, he, rfl⟩ := List.mem_map.1 h
    have hreach := List.mem_of_mem_filter he
    rw [reach, hrec] at hreach
    exact Node.child_mem_childNodes hreach

/-- Whatever a recursive segment matches below a node, it matches at the node too. -/
theorem hits_subset (hrec : s.recursive = true) (hy : y ∈ x :: x.descendants) :
    s.hits r y ⊆ s.hits r x := by
  intro m hm
  unfold hits at hm ⊢
  split at hm
  · obtain ⟨z, hz, hm⟩ := List.mem_filterMap.1 hm
    have hzy := Tree.mem_of_mem_targets hz
    refine List.mem_filterMap.2 ⟨z, ?_, hm⟩
    rw [targets, hrec, if_pos rfl]
    rcases List.mem_cons.1 hy with rfl | hy
    · simpa [targets, hrec] using hz
    · -- the target below has a child, so it is a target at the node too
      have hchild : z.hasChildren := by
        obtain ⟨key, hkey⟩ := Node.mem_childNodes.1 (mem_childNodes_of_picked hm)
        rw [Node.hasChildren, Bool.not_eq_true', List.isEmpty_eq_false_iff_exists_mem]
        exact ⟨_, hkey⟩
      have hzx : z ∈ x.descendants := (List.mem_cons.1 hzy).elim (fun heq ↦ heq ▸ hy)
        fun hzy ↦ Node.descendants_subset_of_mem (List.mem_cons_of_mem x hy) hzy
      exact List.mem_cons_of_mem x (List.mem_filter.2 ⟨hzx, hchild⟩)
  · obtain ⟨e, he, rfl⟩ := List.mem_map.1 hm
    rw [reach, hrec] at he ⊢
    exact List.mem_map_of_mem (List.mem_filter.2
      ⟨Node.edges_subset_of_mem hy (List.mem_of_mem_filter he), (List.mem_filter.1 he).2⟩)

/-- At one node nothing is matched after what is below it. -/
theorem pairwise_hits (hn : n.ids.Nodup) :
    (s.hits r n).Pairwise fun a b ↦ a ∉ b.descendants := by
  unfold hits
  split
  · -- a pick below another one would be made at or below that one
    have htargets : (s.targets n).Pairwise fun y z ↦ y ∉ z.descendants := by
      refine (Node.pairwise_descendants hn).sublist (.cons_cons n ?_)
      split
      · exact List.filter_sublist
      · exact List.nil_sublist _
    refine List.pairwise_filterMap.2 (htargets.imp_of_mem fun hy hz hyz b hb c hc hbc ↦ hyz ?_)
    have hcz := Node.mem_descendants_of_mem_childNodes (mem_childNodes_of_picked hc)
    have hcn := Node.descendants_subset_of_mem (Tree.mem_of_mem_targets hz) hcz
    have hyc := Node.mem_of_childNodes hn (Tree.mem_of_mem_targets hy)
      (List.mem_cons_of_mem n hcn) (mem_childNodes_of_picked hb) hbc
    exact (List.mem_cons.1 hyc).elim (fun heq ↦ heq ▸ hcz)
      fun hyc ↦ Node.descendants_subset_of_mem (List.mem_cons_of_mem _ hcz) hyc
  · refine List.pairwise_map.2 (List.Pairwise.filter _ ?_)
    unfold reach
    split
    · exact Node.pairwise_edges hn
    · exact Node.pairwise_childEdges hn

end Segment

/-! ### The order of matches -/

/-- The place of an element in the lists that belong to the elements of another list. -/
theorem exists_of_flatMap_eq_append_cons {α β : Type} {f : α → List β} {l : List α}
    {before after : List β} {b : β} (h : l.flatMap f = before ++ b :: after) :
    ∃ left a right before' after', l = left ++ a :: right ∧ f a = before' ++ b :: after' ∧
      before = left.flatMap f ++ before' := by
  induction l generalizing before with
  | nil => simp at h
  | cons a l ih =>
    rw [List.flatMap_cons] at h
    rcases List.append_eq_append_iff.1 h with ⟨between, hbefore, hafter⟩ | ⟨between, hfirst, hafter⟩
    · obtain ⟨left, c, right, before', after', rfl, hc, rfl⟩ := ih hafter
      exact ⟨a :: left, c, right, before', after', rfl, hc, by simp [hbefore]⟩
    · cases between with
      | nil =>
        have hl : l.flatMap f = [] ++ b :: after := hafter.symm
        obtain ⟨left, c, right, before', after', rfl, hc, hnil⟩ := ih hl
        refine ⟨a :: left, c, right, before', after', rfl, hc, ?_⟩
        simpa [← hnil] using hfirst.symm
      | cons c between =>
        obtain ⟨rfl, -⟩ := List.cons.inj hafter
        exact ⟨[], a, l, before, between, rfl, hfirst, rfl⟩

/-- Matching at several nodes in turn keeps the order from the top down. -/
theorem topDown_flatMap_hits (hn : n.ids.Nodup) {ns : List Node}
    (hns : ∀ m ∈ ns, m ∈ n :: n.descendants) (h : Node.TopDown ns) (s : Segment) (r : Registry) :
    Node.TopDown (ns.flatMap (s.hits r)) := by
  intro before a after hsplit m hm hbelow
  obtain ⟨left, y, right, before', after', rfl, hy, rfl⟩ := exists_of_flatMap_eq_append_cons hsplit
  have hyn := hns y (List.mem_append_right left (List.mem_cons_self ..))
  have hay : a ∈ s.hits r y := hy ▸ List.mem_append_right _ (List.mem_cons_self ..)
  have hya := Segment.mem_descendants_of_hits hay
  rcases List.mem_append.1 hm with hm | hm
  · obtain ⟨x, hx, hmx⟩ := List.mem_flatMap.1 hm
    have hxn := hns x (List.mem_append_left _ hx)
    have hxm := Segment.mem_descendants_of_hits hmx
    have han := List.mem_cons_of_mem n (Node.descendants_subset_of_mem hyn hya)
    -- it is enough that the node at which `a` was matched comes before too
    have hleft : x ∈ y.descendants → a ∈ left.flatMap (s.hits r) ++ before' := fun hxy ↦
      List.mem_append_left _ (List.mem_flatMap.2 ⟨y, h left y right rfl x hx hxy, hay⟩)
    rcases Node.eq_or_below hn hxn han hxm hbelow with rfl | hxa | hax
    · exact hleft hya
    · exact hleft (Node.descendants_subset_of_mem (List.mem_cons_of_mem y hya) hxa)
    · -- or else that it lies below the node at which `m` was matched
      have hyx : y ∈ x :: x.descendants → a ∈ left.flatMap (s.hits r) ++ before' := fun hyx ↦ by
        cases hrec : s.recursive with
        | true =>
          exact List.mem_append_left _ (List.mem_flatMap.2
            ⟨x, hx, Segment.hits_subset hrec hyx hay⟩)
        | false =>
          exact absurd hbelow (Node.notMem_descendants_of_mem_childNodes (Node.nodup_of_mem hn hxn)
            (Segment.mem_childNodes_of_hits hrec hmx) hax)
      rcases Node.eq_or_below hn hxn hyn hax hya with rfl | hxy | hyx'
      · exact hyx (List.mem_cons_self ..)
      · exact hleft hxy
      · exact hyx (List.mem_cons_of_mem x hyx')
  · have hpairs := Segment.pairwise_hits (s := s) (r := r) (Node.nodup_of_mem hn hyn)
    rw [hy] at hpairs
    exact absurd hbelow ((List.pairwise_append.1 hpairs).2.2 m hm a (List.mem_cons_self ..))

end Path

namespace Path

variable {r : Registry} {n m : Node} {ns : List Node} {segments : List Segment}

@[simp] theorem hitsAlong_nil (r : Registry) (segments : List Segment) :
    hitsAlong r [] segments = [] := by
  induction segments with
  | nil => rfl
  | cons s rest ih => exact ih

theorem mem_flatMap_hits (hns : ∀ m ∈ ns, m ∈ n :: n.descendants) (s : Segment) (r : Registry) :
    ∀ m ∈ ns.flatMap (s.hits r), m ∈ n :: n.descendants := by
  intro m hm
  obtain ⟨x, hx, hmx⟩ := List.mem_flatMap.1 hm
  exact List.mem_cons_of_mem n
    (Node.descendants_subset_of_mem (hns x hx) (Segment.mem_descendants_of_hits hmx))

theorem topDown_hitsAlong (hn : n.ids.Nodup) (hns : ∀ m ∈ ns, m ∈ n :: n.descendants)
    (h : Node.TopDown ns) : Node.TopDown (hitsAlong r ns segments) := by
  induction segments generalizing ns with
  | nil => exact h
  | cons s rest ih => exact ih (mem_flatMap_hits hns s r) (topDown_flatMap_hits hn hns h s r)

end Path

namespace Tree

open DocPath.Path (Segment hitsAlong)

variable {t u : Tree} {s : Segment} {id : NodeId} {n m : Node} {ns : List Node}

/-! ### Nodes of the document -/

theorem attached_append (t : Tree) (ids others : List NodeId) :
    t.attached (ids ++ others) = t.attached ids ++ t.attached others :=
  List.filterMap_append

theorem attached_cons (t : Tree) (id : NodeId) (rest : List NodeId) :
    t.attached (id :: rest) = (t.root.find? id).toList ++ t.attached rest := by
  rw [attached, List.filterMap_cons]
  cases t.root.find? id <;> rfl

theorem attached_eq_of_root (h : u.root = t.root) (ids : List NodeId) :
    u.attached ids = t.attached ids := by
  rw [attached, attached, h]

theorem mem_attached {ids : List NodeId} :
    m ∈ t.attached ids ↔ m.id ∈ ids ∧ t.root.find? m.id = some m := by
  rw [attached, List.mem_filterMap]
  constructor
  · rintro ⟨id, hid, hm⟩
    obtain rfl := Node.id_of_find? hm
    exact ⟨hid, hm⟩
  · exact fun h ↦ ⟨m.id, h⟩

theorem mem_root_of_attached {ids : List NodeId} (h : id ∈ (t.attached ids).map Node.id) :
    id ∈ t.root.ids := by
  obtain ⟨m, hm, rfl⟩ := List.mem_map.1 h
  exact Node.mem_ids_of_find? (mem_attached.1 hm).2

theorem attached_eq_nil {ids : List NodeId} (h : ∀ i ∈ ids, i ∉ t.root.ids) :
    t.attached ids = [] :=
  List.filterMap_eq_nil_iff.2 fun i hi ↦ Node.find?_eq_none.2 (h i hi)

namespace Sound

/-- Nodes of the document are the nodes of their handles. -/
theorem attached_map_id (h : t.Sound) (hns : ∀ m ∈ ns, m ∈ t.root :: t.root.descendants) :
    t.attached (ns.map Node.id) = ns := by
  have hfind : ∀ m ∈ ns, t.root.find? m.id = some m := fun m hm ↦
    Node.find?_of_mem h.nodup_ids_root (hns m hm)
  rw [attached, List.filterMap_map]
  induction ns with
  | nil => rfl
  | cons m rest ih =>
    rw [List.filterMap_cons, Function.comp_apply, hfind m (List.mem_cons_self ..)]
    exact congrArg (m :: ·) (ih (fun m' hm' ↦ hns m' (List.mem_cons_of_mem m hm'))
      fun m' hm' ↦ hfind m' (List.mem_cons_of_mem m hm'))

/-- If a node below a handle is in the document, then so is the node of the handle. -/
theorem find?_root_of_view (h : t.Sound) (hm : m ∈ (t.view id).descendants)
    (hid : m.id ∈ t.root.ids) : t.root.find? id = some (t.view id) := by
  obtain ⟨top, htop, hfind, hmem⟩ := exists_top_of_view hm
  rw [h.eq_of_mem_ids htop t.root_mem_tops hmem hid]
  exact hfind

/-! ### What a search finds in the document -/

/-- The match that an operation gives at a node: if it is in the document, it is a child that the
operation picks. -/
theorem attached_special (h : t.Sound) {operation : String} {args : List Json}
    (hargs : ∀ arg ∈ args, arg.Distinct) (hn : n.toJson.Distinct)
    (hroot : ∀ c ∈ n.childNodes, c.id ∈ t.root.ids → c ∈ t.root.descendants) :
    t.attached (t.special s operation args n).1.toList =
      t.attached ((s.picked t.registry operation args n).toList.map Node.id) := by
  have hfiltered : ∀ (u : Tree) (i : NodeId), (u.filtered s i).1 =
      if accepts (s.verdict (u.value i)) then some i else none := fun _ _ ↦ rfl
  rw [special_eq, Segment.picked]
  cases houtcome : outcome t.registry operation args n with
  | failed e => rfl
  | child c =>
    by_cases hc : c.id ∈ t.root.ids
    · have hmem := hroot c (mem_childNodes_of_outcome houtcome) hc
      have hfind := Node.find?_of_mem h.nodup_ids_root (List.mem_cons_of_mem t.root hmem)
      dsimp only
      rw [hfiltered, value_of_node? (node?_of_find?_root hfind)]
      split <;> rfl
    · dsimp only
      rw [hfiltered]
      split <;> split <;> simp [attached, Node.find?_eq_none.2 hc]
  | result v =>
    have hnew := h.result_notMem_root (distinct_of_outcome houtcome hargs hn)
    dsimp only
    rw [hfiltered]
    split <;> simp [attached, Node.find?_eq_none.2 hnew]

theorem attached_specials (h : t.Sound) {operation : String} {args : List Json} {nodes : List Node}
    (hargs : ∀ arg ∈ args, arg.Distinct) (hn : ∀ n ∈ nodes, n.toJson.Distinct)
    (hroot : ∀ n ∈ nodes, ∀ c ∈ n.childNodes, c.id ∈ t.root.ids → c ∈ t.root.descendants) :
    t.attached (t.specials s operation args nodes).1 =
      t.attached ((nodes.filterMap (s.picked t.registry operation args)).map Node.id) := by
  induction nodes generalizing t with
  | nil => rfl
  | cons n rest ih =>
    obtain ⟨hfirst, hrest⟩ := List.forall_mem_cons.1 hn
    obtain ⟨hroot, hroot'⟩ := List.forall_mem_cons.1 hroot
    have hl : t.Leads (t.special s operation args n).2 := leads_special s hargs hfirst
    have heq := t.root_special s operation args n
    have hothers := ih (hl.sound h) hrest (by rwa [heq])
    rw [attached_eq_of_root heq, attached_eq_of_root heq, hl.registry_eq] at hothers
    rw [specials_cons, attached_append, h.attached_special hargs hfirst hroot, hothers,
      ← attached_append, ← List.map_append, List.filterMap_eq_flatMap_toList,
      List.filterMap_eq_flatMap_toList, List.flatMap_cons]

/-- What a segment matches at a node of the document are its hits there, and what it matches at
other nodes is not in the document. -/
theorem attached_segmentMatches (h : t.Sound) (hs : s.selector.WellFormed) (id : NodeId) :
    t.attached (t.segmentMatches s id).1 =
      (t.root.find? id).toList.flatMap (s.hits t.registry) := by
  have hhits : t.attached (t.segmentMatches s id).1 =
      t.attached ((s.hits t.registry (t.view id)).map Node.id) := by
    unfold segmentMatches
    split
    · rename_i operation args hselector
      rw [hselector] at hs
      rw [Segment.hits_special hselector]
      refine h.attached_specials hs
        (fun m hm ↦ distinct_of_mem_targets s hm (h.distinct_view id)) fun m hm c hc hid ↦ ?_
      have hbelow := Node.descendants_subset_of_mem (mem_of_mem_targets hm)
        (Node.mem_descendants_of_mem_childNodes hc)
      exact Node.descendants_subset_of_mem (Node.mem_of_find? (h.find?_root_of_view hbelow hid))
        hbelow
    · rename_i hselector
      rw [Segment.hits_of_ne_special hselector]
      simp [Segment.candidates, List.filter_map, List.filter_filter, Function.comp_def,
        Bool.and_comm]
  rw [hhits]
  cases hfind : t.root.find? id with
  | none =>
    refine attached_eq_nil fun i hi hid ↦ ?_
    obtain ⟨m, hm, rfl⟩ := List.mem_map.1 hi
    rw [h.find?_root_of_view (Segment.mem_descendants_of_hits hm) hid] at hfind
    cases hfind
  | some n =>
    rw [view_of_node? (node?_of_find?_root hfind), h.attached_map_id fun m hm ↦
      List.mem_cons_of_mem _ (Node.descendants_subset_of_mem (Node.mem_of_find? hfind)
        (Segment.mem_descendants_of_hits hm))]
    simp

theorem attached_segmentMatchesAll (h : t.Sound) (hs : s.selector.WellFormed) (ids : List NodeId) :
    t.attached (t.segmentMatchesAll s ids).1 = (t.attached ids).flatMap (s.hits t.registry) := by
  induction ids generalizing t with
  | nil => rfl
  | cons id rest ih =>
    have hl := leads_segmentMatches hs h id
    have hothers := ih (hl.sound h)
    have heq := t.root_segmentMatches s id
    rw [attached_eq_of_root heq, attached_eq_of_root heq, hl.registry_eq] at hothers
    rw [segmentMatchesAll_cons, attached_append, h.attached_segmentMatches hs, hothers,
      attached_cons, List.flatMap_append]

theorem attached_walk (h : t.Sound) {segments : List Segment}
    (hs : ∀ s ∈ segments, s.selector.WellFormed) (ids : List NodeId) :
    t.attached (t.walk ids segments).1 = hitsAlong t.registry (t.attached ids) segments := by
  induction segments generalizing t ids with
  | nil => rfl
  | cons s rest ih =>
    obtain ⟨hfirst, hrest⟩ := List.forall_mem_cons.1 hs
    have hl := leads_segmentMatchesAll hfirst h ids
    have hfound := h.attached_segmentMatchesAll hfirst ids
    rw [walk_cons, hitsAlong]
    split
    · rename_i hnil
      rw [List.isEmpty_iff.1 hnil] at hfound
      rw [← hfound]
      exact (Path.hitsAlong_nil _ rest).symm
    · have heq := t.root_segmentMatchesAll s ids
      have hwalk := ih ((hl.sound h).releaseScratch (t.segmentMatchesAll s ids).1) hrest
        (t.segmentMatchesAll s ids).1
      have hroot : ((t.segmentMatchesAll s ids).2.releaseScratch
          (t.segmentMatchesAll s ids).1).root = t.root := heq
      rw [attached_eq_of_root hroot, attached_eq_of_root hroot, hfound] at hwalk
      rw [hwalk, ← hl.registry_eq]
      rfl

/-- The nodes of the document that a path leads to. -/
theorem attached_findPath (h : t.Sound) {p : Path} (hp : ∀ s ∈ p.segments, s.selector.WellFormed) :
    t.attached (t.findPath p).1 = hitsAlong t.registry [t.root] p.segments := by
  have hwalk := (h.releaseScratch [t.root.id]).attached_walk hp [t.root.id]
  rw [attached_cons, root_releaseScratch, Node.find?_self] at hwalk
  rw [findPath_eq_walk]
  exact hwalk

/-- A path leads to no node of the document after one below it, unless it led there before. -/
theorem topDown_attached_findPath (h : t.Sound) {p : Path}
    (hp : ∀ s ∈ p.segments, s.selector.WellFormed) :
    Node.TopDown (t.attached (t.findPath p).1) := by
  rw [h.attached_findPath hp]
  refine Path.topDown_hitsAlong h.nodup_ids_root (fun m hm ↦ ?_) (Node.topDown_singleton t.root)
  exact List.mem_singleton.1 hm ▸ List.mem_cons_self ..

end Sound

/-! ### The outermost matches -/

/-- Those of some handles above which there are none of them. -/
def outermost (t : Tree) (ids : List NodeId) : List NodeId :=
  ids.filter fun id ↦ ∀ a ∈ t.ancestors id, a ∉ ids

theorem mem_outermost {ids : List NodeId} :
    id ∈ t.outermost ids ↔ id ∈ ids ∧ ∀ a ∈ t.ancestors id, a ∉ ids := by
  rw [outermost, List.mem_filter, decide_eq_true_iff]

namespace Sound

/-- The ancestors of a node of the document depend on the document only. -/
theorem ancestors_eq_of_root (h : t.Sound) (h' : u.Sound) (hroot : u.root = t.root)
    (hid : id ∈ t.root.ids) : u.ancestors id = t.ancestors id := by
  obtain ⟨m, hm, rfl⟩ := Node.mem_ids_iff_eq_or_mem_descendants.1 hid
  obtain ⟨c, hc⟩ := Node.exists_fill_of_mem hm
  rw [h.ancestors_root hc, h'.ancestors_root (hroot.trans hc)]

/-- Which of some nodes of the document are the outermost depends on the document only. -/
theorem outermost_eq_of_root (h : t.Sound) (h' : u.Sound) (hroot : u.root = t.root)
    {ids : List NodeId} (hids : ∀ i ∈ ids, i ∈ t.root.ids) :
    u.outermost ids = t.outermost ids :=
  List.filter_congr fun i hi ↦ by rw [h.ancestors_eq_of_root h' hroot (hids i hi)]

/-- The ancestors of a node of the document are nodes above it. -/
theorem mem_descendants_of_ancestors (h : t.Sound) (hn : n ∈ t.root :: t.root.descendants)
    (hm : m ∈ t.root :: t.root.descendants) (ha : n.id ∈ t.ancestors m.id) :
    m ∈ n.descendants := by
  obtain ⟨c, hroot⟩ := Node.exists_fill_of_mem hm
  rw [h.ancestors_root hroot, List.mem_reverse] at ha
  obtain ⟨x, hx, hid, hmx⟩ := Node.Context.exists_of_mem_spine (m := m) ha
  rw [← hroot] at hx
  rwa [← Node.eq_of_id_eq h.nodup_ids_root hx hn hid]

end Sound

end Tree

end DocPath

import DocPath.Proofs.Tree.Filter

/-!
# The values that a path leads to

A segment can be read as a function of values, and so can a path: what a segment selects are parts
of a value, and what a coherent operation gives at a value is its result, whether the tree shows a
child of the node for it or a new one (`value?_outcome`). The tree, its handles and slots, the results
of earlier queries and the log do not come up in this.

A search in a tree leads to nodes with exactly these values, in this order (`shown_findPath`). So
what a query gives is told by the document and the operations that there are, and by nothing else
(`findValues_eq_values`).
-/

namespace DocPath

namespace Json

/-- A part of a container, with its key and the number of parts that the container has. -/
structure Part where
  siblings : Nat
  key : Key
  value : Json

/-- The parts of a container itself. -/
def ownParts (v : Json) : List Part :=
  let children := v.children?.getD []
  children.map fun child ↦ ⟨children.length, child.1, child.2⟩

mutual

/-- Every part at any depth, each before its own parts. -/
def parts : Json → List Part
  | .scalar _ => []
  | .array items => partsOfItems items.length 0 items
  | .object entries => partsOfEntries entries.length entries

def partsOfItems (siblings position : Nat) : List Json → List Part
  | [] => []
  | v :: rest =>
    ⟨siblings, .index position, v⟩ :: (v.parts ++ partsOfItems siblings (position + 1) rest)

def partsOfEntries (siblings : Nat) : List (String × Json) → List Part
  | [] => []
  | (k, v) :: rest => ⟨siblings, .name k, v⟩ :: (v.parts ++ partsOfEntries siblings rest)

end

theorem partsOfItems_eq (siblings position : Nat) (items : List Json) :
    partsOfItems siblings position items =
      (items.zipIdx position).flatMap fun item ↦
        ⟨siblings, .index item.2, item.1⟩ :: item.1.parts := by
  induction items generalizing position with
  | nil => rfl
  | cons v rest ih => simp [partsOfItems, ih]

theorem partsOfEntries_eq (siblings : Nat) (entries : List (String × Json)) :
    partsOfEntries siblings entries =
      entries.flatMap fun entry ↦ ⟨siblings, .name entry.1, entry.2⟩ :: entry.2.parts := by
  induction entries with
  | nil => rfl
  | cons entry rest ih => simp [partsOfEntries, ih]

/-- The parts of a value are its own parts, each followed by its parts. -/
theorem parts_eq (v : Json) : v.parts = v.ownParts.flatMap fun part ↦ part :: part.value.parts := by
  cases v <;>
    simp [parts, ownParts, children?, partsOfItems_eq, partsOfEntries_eq, List.flatMap_map]

end Json

/-- What the value of a container shows of an edge. -/
def Edge.part (e : Edge) : Json.Part :=
  ⟨e.siblings, e.key, e.child.toJson⟩

namespace Node

theorem map_part_childEdges (n : Node) : n.childEdges.map Edge.part = n.toJson.ownParts := by
  by_cases hkind : n.kind = .scalar
  · cases n with
    | scalar i s => rfl
    | sequence i items => cases hkind
    | map i entries => cases hkind
  · simp [Json.ownParts, children?_toJson hkind, childEdges, Edge.part, Function.comp_def]

theorem map_part_edges (n : Node) : n.edges.map Edge.part = n.toJson.parts := by
  induction n using induction_children with
  | step n ih =>
    rw [edges_eq, Json.parts_eq, ← map_part_childEdges, List.map_flatMap, List.flatMap_map]
    refine List.flatMap_congr fun e he ↦ ?_
    rw [List.map_cons, ih e.child (child_mem_childNodes he)]
    rfl

theorem map_toJson_descendants (n : Node) :
    n.descendants.map toJson = n.toJson.parts.map Json.Part.value := by
  rw [descendants, ← map_part_edges, List.map_map, List.map_map]
  rfl

theorem hasChildren_eq (n : Node) : n.hasChildren = !n.toJson.ownParts.isEmpty := by
  rw [← map_part_childEdges, childEdges, List.isEmpty_map, List.isEmpty_map, hasChildren]

end Node

/-! ### Paths as functions of values -/

namespace Path

open DocPath.Tree (accepts)

namespace Segment

/-- The parts of a value that the segment looks at. -/
def reachIn (s : Segment) (v : Json) : List Json.Part :=
  if s.recursive then v.parts else v.ownParts

/-- The values that an operation is invoked on. -/
def targetsIn (s : Segment) (v : Json) : List Json :=
  v :: if s.recursive then (v.parts.map Json.Part.value).filter fun w ↦ !w.ownParts.isEmpty else []

/-- Whether the formula accepts a value. -/
def passes (s : Segment) (v : Json) : Bool :=
  accepts (s.verdict v)

/-- The values that the segment leads to from a value, with the operations of a registry. -/
def values (r : Registry) (s : Segment) (v : Json) : List Json :=
  match s.selector with
  | .special operation args =>
    ((s.targetsIn v).filterMap fun w ↦ (r.call operation w args).toOption).filter s.passes
  | selector =>
    (((s.reachIn v).filter fun part ↦ selector.matchesKey part.siblings part.key).map
      Json.Part.value).filter s.passes

theorem values_of_special {s : Segment} {operation : String} {args : List Json}
    (hs : s.selector = .special operation args) (r : Registry) (v : Json) :
    s.values r v =
      ((s.targetsIn v).filterMap fun w ↦ (r.call operation w args).toOption).filter s.passes := by
  rw [values, hs]

theorem values_of_ne_special {s : Segment}
    (hs : ∀ operation args, s.selector ≠ .special operation args) (r : Registry) (v : Json) :
    s.values r v =
      (((s.reachIn v).filter fun part ↦ s.selector.matchesKey part.siblings part.key).map
        Json.Part.value).filter s.passes := by
  unfold values
  split
  · rename_i hselector
    exact absurd hselector (hs _ _)
  · rfl

theorem map_part_reach (s : Segment) (n : Node) :
    (s.reach n).map Edge.part = s.reachIn n.toJson := by
  unfold reach reachIn
  split
  · exact n.map_part_edges
  · exact n.map_part_childEdges

theorem map_toJson_targets (s : Segment) (n : Node) :
    (s.targets n).map Node.toJson = s.targetsIn n.toJson := by
  unfold targets targetsIn
  rw [List.map_cons]
  split
  · have hchildren : Node.hasChildren = (fun w ↦ !w.ownParts.isEmpty) ∘ Node.toJson :=
      funext Node.hasChildren_eq
    rw [← n.map_toJson_descendants, List.filter_map, hchildren]
  · rfl

end Segment

/-- The values that a path leads to from a value, with the operations of a registry. -/
def values (r : Registry) (p : Path) (v : Json) : List Json :=
  p.segments.foldl (fun found s ↦ found.flatMap (s.values r)) [v]

end Path

namespace Tree

open DocPath.Path (Segment)

variable {t : Tree} {s : Segment} {id : NodeId} {n : Node} {operation : String} {args : List Json}

/-! ### What is shown at a node -/

/-- The value that an outcome shows, if it is no failure. -/
def Outcome.value? : Outcome → Option Json
  | failed _ => none
  | child c => some c.toJson
  | result v => some v

/-- Whether a child is picked or not, what is shown is the result of the operation. -/
theorem value?_outcome {r : Registry} (hr : r.Agrees operation args n) :
    (outcome r operation args n).value? = (r.call operation n.toJson args).toOption := by
  cases hcall : r.call operation n.toJson args with
  | error e =>
    rw [outcome_of_call_error hr hcall]
    rfl
  | ok result =>
    by_cases hpicked : ∃ key : Key, key.InRange ∧
        r.select operation n.toJson args = .ok (some key)
    · obtain ⟨key, hkey, hselect⟩ := hpicked
      obtain ⟨c, -, hc, hresult⟩ := Registry.exists_of_select hr hselect
      obtain rfl : c.toJson = result := Except.ok.inj (hresult.symm.trans hcall)
      rw [outcome_of_select hselect (hc hkey)]
      rfl
    · rw [outcome_of_call hr hcall fun key hkey hselect ↦ hpicked ⟨key, hkey, hselect⟩]
      rfl

/-- The values of what was found. -/
def shown (found : List NodeId × Tree) : List Json :=
  found.1.map found.2.value

/-- What is found later does not change the values of what was found before. -/
theorem shown_append {found : List NodeId} (hlive : ∀ i ∈ found, i ∈ t.ids)
    {others : List NodeId × Tree} (hgrows : t.Grows others.2) :
    shown (found ++ others.1, others.2) = shown (found, t) ++ shown others := by
  have hkept : found.map others.2.value = found.map t.value :=
    List.map_congr_left fun i hi ↦ congrArg Node.toJson (hgrows.view_eq (hlive i hi))
  rw [shown, List.map_append, hkept]
  rfl

theorem shown_filtered (t : Tree) (s : Segment) (id : NodeId) :
    shown ((t.filtered s id).1.toList, (t.filtered s id).2) = [t.value id].filter s.passes := by
  have hverdict : (t.evaluates s id).1 = s.passes (t.value id) := rfl
  obtain ⟨log, hlog⟩ := t.exists_log_evaluates s id
  rw [filtered, hverdict, hlog]
  cases hpasses : s.passes (t.value id) with
  | true =>
    rw [List.filter_cons_of_pos hpasses]
    rfl
  | false =>
    rw [List.filter_cons_of_neg (ne_true_of_eq_false hpasses)]
    rfl

/-- An operation leads from a node to its result. -/
theorem shown_special (h : t.Sound) (hr : t.registry.Coherent) (s : Segment) (operation : String)
    (hargs : ∀ arg ∈ args, arg.Distinct) (hn : n.toJson.Distinct)
    (hlive : ∀ c ∈ n.childNodes, t.node? c.id = some c) :
    shown ((t.special s operation args n).1.toList, (t.special s operation args n).2) =
      (t.registry.call operation n.toJson args).toOption.toList.filter s.passes := by
  rw [special_eq, ← value?_outcome (hr hn)]
  cases houtcome : outcome t.registry operation args n with
  | failed e => rfl
  | child c =>
    have hvalue : t.value c.id = c.toJson :=
      value_of_node? (hlive c (mem_childNodes_of_outcome houtcome))
    exact (shown_filtered t s c.id).trans (by rw [hvalue]; rfl)
  | result v =>
    have hv := distinct_of_outcome houtcome hargs hn
    have hvalue : (t.adoptScratch v).2.value (t.adoptScratch v).1 = v := by
      rw [value_of_node? (h.node?_result hv), resultNode, Node.toJson_build]
    exact (shown_filtered _ s _).trans (by rw [hvalue]; rfl)

theorem shown_specials (h : t.Sound) (hr : t.registry.Coherent) (s : Segment) (operation : String)
    (hargs : ∀ arg ∈ args, arg.Distinct) {nodes : List Node}
    (hn : ∀ n ∈ nodes, n.toJson.Distinct)
    (hlive : ∀ n ∈ nodes, ∀ c ∈ n.childNodes, t.node? c.id = some c) :
    shown (t.specials s operation args nodes) =
      ((nodes.map Node.toJson).filterMap fun w ↦
        (t.registry.call operation w args).toOption).filter s.passes := by
  induction nodes generalizing t with
  | nil => rfl
  | cons n rest ih =>
    rw [List.forall_mem_cons] at hn hlive
    have hleads : t.Leads (t.special s operation args n).2 := leads_special s hargs hn.1
    have hgrows := t.grows_special s operation args n
    have hfound : ∀ i ∈ (t.special s operation args n).1.toList,
        i ∈ (t.special s operation args n).2.ids := fun i hi ↦
      whileHeld_live.special h hargs hn.1 (fun c hc ↦ mem_ids_of_node? (hlive.1 c hc)) i
        (Option.mem_toList.1 hi)
    have hfirst := shown_special h hr s operation hargs hn.1 hlive.1
    have hrest := ih (hleads.sound h) (hleads.registry_eq ▸ hr) hn.2 fun m hm c hc ↦
      (hgrows.node?_eq (mem_ids_of_node? (hlive.2 m hm c hc))).trans (hlive.2 m hm c hc)
    rw [hleads.registry_eq] at hrest
    rw [specials_cons, shown_append hfound (grows_specials _ s operation args rest), hfirst, hrest,
      ← List.filter_append, List.map_cons, List.filterMap_cons]
    cases (t.registry.call operation n.toJson args).toOption <;> rfl

/-- What a segment matches at a node shows the values that it leads to from the value there. -/
theorem shown_segmentMatches (h : t.Sound) (hr : t.registry.Coherent) (hs : s.selector.WellFormed)
    (id : NodeId) :
    shown (t.segmentMatches s id) = s.values t.registry (t.value id) := by
  by_cases hspecial : ∃ operation args, s.selector = .special operation args
  · obtain ⟨operation, args, hselector⟩ := hspecial
    rw [hselector] at hs
    rw [segmentMatches_of_special hselector, Segment.values_of_special hselector, value,
      ← Segment.map_toJson_targets]
    refine shown_specials h hr s operation hs
      (fun m hm ↦ distinct_of_mem_targets s hm (h.distinct_view id)) fun m hm c hc ↦ ?_
    exact h.node?_of_mem_view (Node.descendants_subset_of_mem (mem_of_mem_targets hm)
      (Node.mem_descendants_of_mem_childNodes hc))
  · have hplain : ∀ operation args, s.selector ≠ .special operation args :=
      fun operation args hselector ↦ hspecial ⟨operation, args, hselector⟩
    have hshown : shown (t.segmentMatches s id) =
        (((s.reach (t.view id)).filter s.takes).filter fun e ↦ s.passes e.child.toJson).map
          fun e ↦ e.child.toJson := by
      rw [segmentMatches_of_ne_special hplain, shown, Segment.accepted, List.map_map]
      refine List.map_congr_left fun e he ↦ ?_
      exact (h.of_mem_reach (List.mem_of_mem_filter (List.mem_of_mem_filter he))).1
    rw [hshown, Segment.values_of_ne_special hplain, value, ← Segment.map_part_reach,
      List.filter_map (f := Edge.part), List.map_map, List.filter_map]
    rfl

theorem shown_segmentMatchesAll (h : t.Sound) (hr : t.registry.Coherent)
    (hs : s.selector.WellFormed) (ids : List NodeId) (hlive : ∀ i ∈ ids, i ∈ t.ids) :
    shown (t.segmentMatchesAll s ids) = (ids.map t.value).flatMap (s.values t.registry) := by
  induction ids generalizing t with
  | nil => rfl
  | cons id rest ih =>
    rw [List.forall_mem_cons] at hlive
    have hleads := leads_segmentMatches hs h id
    have hgrows := t.grows_segmentMatches s id
    have hrest := ih (hleads.sound h) (hleads.registry_eq ▸ hr) fun i hi ↦ hgrows.ids_subset (hlive.2 i hi)
    have hvalue : rest.map (t.segmentMatches s id).2.value = rest.map t.value :=
      List.map_congr_left fun i hi ↦ congrArg Node.toJson (hgrows.view_eq (hlive.2 i hi))
    rw [hleads.registry_eq, hvalue] at hrest
    rw [segmentMatchesAll_cons,
      shown_append (whileHeld_live.segmentMatches h hs id) (grows_segmentMatchesAll _ s rest),
      shown_segmentMatches h hr hs id, hrest]
    rfl

/-! ### What is shown in the end -/

/-- From no values segments lead nowhere. -/
theorem foldl_flatMap_nil (r : Registry) (segments : List Segment) :
    segments.foldl (fun found s ↦ found.flatMap (s.values r)) [] = [] := by
  induction segments with
  | nil => rfl
  | cons s rest ih => exact ih

/-- What a search shows in the end is what its segments lead to, one after the other. -/
theorem shown_walk (h : t.Sound) (hr : t.registry.Coherent) {segments : List Segment}
    (hs : ∀ s ∈ segments, s.selector.WellFormed) {ids : List NodeId}
    (hlive : ∀ i ∈ ids, i ∈ t.ids) :
    shown (t.walk ids segments) =
      segments.foldl (fun found s ↦ found.flatMap (s.values t.registry)) (ids.map t.value) := by
  induction segments generalizing t ids with
  | nil => rfl
  | cons s rest ih =>
    rw [List.forall_mem_cons] at hs
    have hleads := leads_segmentMatchesAll hs.1 h ids
    have hsound := hleads.sound h
    have hfound := whileHeld_live.segmentMatchesAll h hs.1 ids
    rw [walk_cons, List.foldl_cons, ← shown_segmentMatchesAll h hr hs.1 ids hlive]
    split
    · rename_i hempty
      have hnone : shown (t.segmentMatchesAll s ids) = [] := by
        rw [shown, List.isEmpty_iff.1 hempty]
        rfl
      rw [hnone, foldl_flatMap_nil]
      rfl
    · have hregistry : ((t.segmentMatchesAll s ids).2.releaseScratch
          (t.segmentMatchesAll s ids).1).registry = t.registry := hleads.registry_eq
      have hrest := ih (hsound.releaseScratch (t.segmentMatchesAll s ids).1) (hregistry ▸ hr) hs.2
        fun i hi ↦ mem_ids_releaseScratch hi (hfound i hi)
      rw [hrest, hsound.map_value_releaseScratch hfound, hregistry]
      rfl

theorem Sound.value_root (h : t.Sound) : t.value t.root.id = t.document :=
  value_of_node? (h.node?_of_mem_tops t.root_mem_tops)

/-- A search from the root shows what the path leads to from the document. -/
theorem shown_findPath (h : t.Sound) (hr : t.registry.Coherent) {p : Path}
    (hp : ∀ s ∈ p.segments, s.selector.WellFormed) :
    shown (t.findPath p) = p.values t.registry t.document := by
  have hroot := t.root_id_mem_ids
  have hlive : ∀ i ∈ [t.root.id], i ∈ (t.releaseScratch [t.root.id]).ids :=
    List.forall_mem_singleton.2 (mem_ids_releaseScratch (List.mem_singleton_self _) hroot)
  rw [findPath_eq_walk, shown_walk (h.releaseScratch _) hr hp hlive,
    h.map_value_releaseScratch (List.forall_mem_singleton.2 hroot), List.map_singleton,
    h.value_root]
  rfl

/-- The values of a query are those that its path leads to from the document. -/
theorem findValues_eq_values (h : t.Sound) (hr : t.registry.Coherent) (raw : String) :
    (t.findValues raw).map Prod.fst =
      (Path.parse raw).map fun p ↦ p.values t.registry t.document := by
  rw [findValues_eq]
  cases hp : Path.parse raw with
  | error e => rfl
  | ok p => exact congrArg Except.ok (shown_findPath h hr (Path.wellFormed_of_parse hp))

end Tree

end DocPath

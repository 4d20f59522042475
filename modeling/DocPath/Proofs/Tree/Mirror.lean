import DocPath.Proofs.Tree.Lockstep
import DocPath.Proofs.Tree.Once

/-!
# Queries put a second time

A query leaves slots behind that no node has. When it is put a second time, its results come into
these slots, in another order and in other generations, so they have other handles. Apart from this
the second run is the first one: after the same part of the query the trees are the same up to a
renaming of all handles (`Mirrors`), and between two segments the same results are dropped.

New slots are added only while no slot is free (`Slots.Fills`). So how many there are after the
query is how many nodes were live at once, or what there was before. Both runs have as many nodes
live at once, and therefore the second one adds no slot (`size_findValues_again`).

This needs nothing to be known about handles that are not live, and so it holds even when
generations come back.
-/

namespace DocPath

/-! ### Slots that are filled up -/

namespace Slots

/-- What becomes of slots while nothing is released: slots are added only when none is free. -/
structure Fills (s s' : Slots) : Prop where
  le : s.size ≤ s'.size
  full : s'.size = s.size ∨ s'.free = []
  stays : s.free = [] → s'.free = []

namespace Fills

variable {s s' s'' : Slots} {live : List NodeId}

protected theorem refl (s : Slots) : s.Fills s :=
  ⟨Nat.le_refl _, .inl rfl, id⟩

protected theorem trans (h : s.Fills s') (h' : s'.Fills s'') : s.Fills s'' where
  le := h.le.trans h'.le
  full := h'.full.elim (fun hsize ↦ h.full.imp hsize.trans h'.stays) .inr
  stays hfree := h'.stays (h.stays hfree)

/-- In the end there are as many slots as before, or as many as nodes. -/
theorem size_eq (h : s.Fills s') (hlive : s'.Holds live) : s'.size = max s.size live.length := by
  have hlength := hlive.perm.length_eq
  rw [List.length_append, List.length_map, List.length_range] at hlength
  have hle := h.le
  obtain hsize | hfree := h.full
  · omega
  · rw [hfree, List.length_nil] at hlength
    omega

end Fills

theorem fills_allocate (s : Slots) : s.Fills s.allocate.2 := by
  unfold allocate
  split
  · rename_i slot free hfree
    exact ⟨Nat.le_refl _, .inl rfl, fun hnil ↦ by rw [hfree] at hnil; cases hnil⟩
  · rename_i hfree
    exact ⟨by simp [size], .inr hfree, fun _ ↦ hfree⟩

end Slots

namespace Node

mutual

/-- Building releases nothing. -/
theorem fills_build (i : NodeId) : (v : Json) → (s : Slots) → s.Fills (build i v s).2
  | .scalar _, s => .refl s
  | .array items, s => fills_buildItems items s
  | .object entries, s => fills_buildEntries entries s

theorem fills_buildItems : (items : List Json) → (s : Slots) → s.Fills (buildItems items s).2
  | [], s => .refl s
  | v :: rest, s =>
    (s.fills_allocate.trans (fills_build s.allocate.1 v _)).trans (fills_buildItems rest _)

theorem fills_buildEntries :
    (entries : List (String × Json)) → (s : Slots) → s.Fills (buildEntries entries s).2
  | [], s => .refl s
  | (_, v) :: rest, s =>
    (s.fills_allocate.trans (fills_build s.allocate.1 v _)).trans (fills_buildEntries rest _)

end

end Node

namespace Tree

open DocPath.Path (Segment)

variable {least : Nat} {σ : Renaming} {t u : Tree} {id : NodeId} {n : Node} {s : Segment}

theorem Sound.size_adoptScratch (h : t.Sound) {v : Json} (hv : v.Distinct) :
    (t.adoptScratch v).2.slots.size =
      max t.slots.size (t.ids ++ (t.resultNode v).ids).length := by
  have hfills : t.slots.Fills (t.adoptScratch v).2.slots :=
    t.slots.fills_allocate.trans (Node.fills_build t.slots.allocate.1 v _)
  rw [← ids_adoptScratch]
  exact hfills.size_eq (h.adoptScratch hv).handles

/-! ### Trees under other handles -/

/-- A tree that is another one under other handles. It has as many slots as the other one, if these
are not fewer than a number that it has at least. -/
structure Mirrors (least : Nat) (σ : Renaming) (t u : Tree) : Prop where
  left : t.Sound
  right : u.Sound
  registry : u.registry = t.registry
  lasting : u.lasting = t.lasting.map (Node.rename σ)
  scratch : u.scratch = t.scratch.map (Node.rename σ)
  size : u.slots.size = max least t.slots.size

/-- What is found in two trees: the same up to a renaming of handles, which agrees with the one
before on all that was live. -/
def Matched (least : Nat) (σ : Renaming) (t : Tree) (found found' : List NodeId × Tree) : Prop :=
  ∃ τ, Mirrors least τ found.2 found'.2 ∧ (∀ id ∈ t.ids, τ id = σ id) ∧
    found'.1 = found.1.map τ

/-- What is found first, and what is found after it. -/
theorem Matched.append {first first' rest rest' : List NodeId × Tree}
    (h : Matched least σ t first first') (hgrows : t.Grows first.2)
    (hlive : ∀ id ∈ first.1, id ∈ first.2.ids)
    (hrest : ∀ τ, Mirrors least τ first.2 first'.2 → (∀ id ∈ t.ids, τ id = σ id) →
      Matched least τ first.2 rest rest') :
    Matched least σ t (first.1 ++ rest.1, rest.2) (first'.1 ++ rest'.1, rest'.2) := by
  obtain ⟨τ, hfirst, hagree, hfound⟩ := h
  obtain ⟨ρ, hlast, hagree', hothers⟩ := hrest τ hfirst hagree
  refine ⟨ρ, hlast, fun id hid ↦ ?_, ?_⟩
  · rw [hagree' id (hgrows.ids_subset hid), hagree id hid]
  · rw [hfound, hothers, List.map_append]
    exact congrArg (· ++ _) (List.map_congr_left fun id hid ↦ (hagree' id (hlive id hid)).symm)

namespace Mirrors

theorem tops (h : Mirrors least σ t u) : u.tops = t.tops.map (Node.rename σ) := by
  rw [tops_eq_append, tops_eq_append, h.lasting, h.scratch, List.map_append]

theorem root (h : Mirrors least σ t u) : u.root = t.root.rename σ :=
  (List.cons.inj h.lasting).1

theorem ids (h : Mirrors least σ t u) : u.ids = t.ids.map σ := by
  rw [Tree.ids, Tree.ids, h.tops, List.flatMap_map, List.map_flatMap]
  simp only [Node.ids_rename]

theorem node? (h : Mirrors least σ t u) (id : NodeId) :
    u.node? (σ id) = (t.node? id).map (Node.rename σ) := by
  rw [Tree.node?, Tree.node?, h.tops, List.findSome?_map, List.map_findSome?]
  congr 1
  funext n
  exact Node.find?_rename σ n id

theorem view (h : Mirrors least σ t u) (id : NodeId) : u.view (σ id) = (t.view id).rename σ := by
  rw [Tree.view, Tree.view, h.node? id]
  cases t.node? id with
  | none => exact (Node.rename_scalar σ id .null).symm
  | some n => rfl

theorem value (h : Mirrors least σ t u) (id : NodeId) : u.value (σ id) = t.value id := by
  rw [Tree.value, h.view id, Node.toJson_rename]
  rfl

/-! ### Results and failures -/

theorem report (h : Mirrors least σ t u) (segment : String) (fault : Fault) :
    Mirrors least σ (t.report segment fault) (u.report segment fault) :=
  ⟨⟨h.left.handles, h.left.distinct⟩, ⟨h.right.handles, h.right.distinct⟩, h.registry, h.lasting,
    h.scratch, h.size⟩

/-- The same verdicts are logged, whatever handles they are about. -/
theorem reportAll (h : Mirrors least σ t u) (segment : String)
    {verdicts verdicts' : List (NodeId × Except FormulaError Bool)}
    (hsame : verdicts'.map Prod.snd = verdicts.map Prod.snd) :
    Mirrors least σ (t.reportAll segment verdicts) (u.reportAll segment verdicts') := by
  induction verdicts generalizing t u verdicts' with
  | nil =>
    obtain rfl : verdicts' = [] := by simpa using hsame
    exact h
  | cons entry rest ih =>
    obtain ⟨id, verdict⟩ := entry
    obtain ⟨⟨id', verdict'⟩, rest', rfl, hverdict, hrest⟩ := List.map_eq_cons_iff.1 hsame
    obtain rfl : verdict' = verdict := hverdict
    cases verdict' with
    | ok b => exact (ih h hrest :)
    | error e => exact (ih (h.report segment (.formula e)) hrest :)

/-- A new result has new handles on both sides, which the renaming can take to each other. -/
theorem adoptScratch (h : Mirrors least σ t u) {v : Json} (hv : v.Distinct) :
    ∃ τ, Mirrors least τ (t.adoptScratch v).2 (u.adoptScratch v).2 ∧
      (∀ id ∈ t.ids, τ id = σ id) ∧ (u.adoptScratch v).1 = τ (t.adoptScratch v).1 := by
  obtain ⟨τ, hτ, hsame⟩ := Node.exists_rename σ [t.resultNode v] [u.resultNode v]
    (by simp [resultNode]) (by simpa using h.left.nodup_resultNode hv)
    (by simpa using h.right.nodup_resultNode hv)
  have hrename : (t.resultNode v).rename τ = u.resultNode v := by simpa using hτ
  have hagree : ∀ id ∈ t.ids, τ id = σ id := by
    refine fun id hid ↦ hsame id (fun hmem ↦ ?_) fun hmem ↦ ?_
    · exact h.left.notMem_ids_of_mem_resultNode hv (by simpa using hmem) hid
    · refine h.right.notMem_ids_of_mem_resultNode hv (by simpa using hmem) ?_
      rw [h.ids]
      exact List.mem_map_of_mem hid
  have hold : ∀ nodes : List Node, (∀ n ∈ nodes, n ∈ t.tops) →
      nodes.map (Node.rename σ) = nodes.map (Node.rename τ) := fun nodes hnodes ↦
    List.map_congr_left fun n hn ↦ Node.rename_congr fun id hid ↦
      (hagree id (List.mem_flatMap.2 ⟨n, hnodes n hn, hid⟩)).symm
  refine ⟨τ, ⟨h.left.adoptScratch hv, h.right.adoptScratch hv, h.registry, ?_, ?_, ?_⟩, hagree, ?_⟩
  · exact h.lasting.trans (hold t.lasting fun n hn ↦ List.mem_append_left _ hn)
  · show u.scratch ++ [u.resultNode v] = (t.scratch ++ [t.resultNode v]).map (Node.rename τ)
    rw [h.scratch, hold t.scratch fun n hn ↦ List.mem_append_right t.lasting hn,
      List.map_append, List.map_singleton, hrename]
  · rw [h.left.size_adoptScratch hv, h.right.size_adoptScratch hv, h.size, ← hrename, h.ids,
      List.length_append, List.length_append, Node.ids_rename, List.length_map, List.length_map]
    exact Nat.max_assoc ..
  · have hid := congrArg Node.id hrename
    rw [Node.id_rename, resultNode, resultNode, Node.id_build, Node.id_build] at hid
    exact hid.symm

/-- The same results are dropped. -/
theorem releaseScratch (h : Mirrors least σ t u) (keep : List NodeId) :
    Mirrors least σ (t.releaseScratch keep) (u.releaseScratch (keep.map σ)) := by
  have hany : ∀ n : Node, (keep.map σ).any (n.rename σ).has = keep.any n.has := by
    intro n
    rw [List.any_map]
    exact congrArg keep.any (funext fun i ↦ Node.has_rename σ n i)
  refine ⟨h.left.releaseScratch keep, h.right.releaseScratch _, h.registry, h.lasting, ?_, ?_⟩
  · simp only [releaseScratch_eq, h.scratch, List.filter_map, Function.comp_def, hany]
  · simp only [releaseScratch_eq, Slots.size_releaseAll, h.size]

/-! ### Matching -/

theorem filtered (h : Mirrors least σ t u) (s : Segment) (id : NodeId) :
    Matched least σ t ((t.filtered s id).1.toList, (t.filtered s id).2)
      ((u.filtered s (σ id)).1.toList, (u.filtered s (σ id)).2) := by
  unfold Tree.filtered Tree.evaluates
  rw [h.value id]
  refine ⟨σ, h.reportAll s.raw rfl, fun _ _ ↦ rfl, ?_⟩
  dsimp only
  split <;> rfl

theorem special (h : Mirrors least σ t u) {operation : String} {args : List Json}
    (hargs : ∀ arg ∈ args, arg.Distinct) (hn : n.toJson.Distinct) :
    Matched least σ t ((t.special s operation args n).1.toList, (t.special s operation args n).2)
      ((u.special s operation args (n.rename σ)).1.toList,
        (u.special s operation args (n.rename σ)).2) := by
  rw [special_eq, special_eq, Twins.outcome_rename, h.registry]
  cases houtcome : outcome t.registry operation args n with
  | failed e => exact ⟨σ, h.report s.raw (.operation e), fun _ _ ↦ rfl, rfl⟩
  | child c =>
    dsimp only
    rw [Node.id_rename]
    exact h.filtered s c.id
  | result v =>
    obtain ⟨τ, hadopt, hagree, hid⟩ := h.adoptScratch (distinct_of_outcome houtcome hargs hn)
    dsimp only
    rw [hid]
    obtain ⟨ρ, hfiltered, hagree', hfound⟩ := hadopt.filtered s (t.adoptScratch v).1
    refine ⟨ρ, hfiltered, fun id hid ↦ ?_, hfound⟩
    rw [hagree' id ((t.grows_adoptScratch v).ids_subset hid), hagree id hid]

theorem specials (h : Mirrors least σ t u) {operation : String} {args : List Json}
    {nodes : List Node} (hargs : ∀ arg ∈ args, arg.Distinct) (hn : ∀ n ∈ nodes, n.toJson.Distinct)
    (hids : ∀ n ∈ nodes, n.ids ⊆ t.ids) :
    Matched least σ t (t.specials s operation args nodes)
      (u.specials s operation args (nodes.map (Node.rename σ))) := by
  induction nodes generalizing σ t u with
  | nil => exact ⟨σ, h, fun _ _ ↦ rfl, rfl⟩
  | cons n rest ih =>
    rw [List.forall_mem_cons] at hn hids
    rw [List.map_cons, specials_cons, specials_cons]
    have hgrows := t.grows_special s operation args n
    have hbelow : ∀ c ∈ n.childNodes, c.id ∈ t.ids := fun c hc ↦
      hids.1 (Node.ids_subset_of_mem_childNodes hc c.id_mem_ids)
    refine (h.special hargs hn.1).append hgrows (fun id hid ↦ ?_) fun τ hfirst hagree ↦ ?_
    · exact whileHeld_live.special h.left hargs hn.1 hbelow id (Option.mem_toList.1 hid)
    -- the nodes left over were live before the first one was treated, so they are renamed as then
    have hrest : rest.map (Node.rename σ) = rest.map (Node.rename τ) :=
      List.map_congr_left fun m hm ↦ Node.rename_congr fun id hid ↦
        (hagree id (hids.2 m hm hid)).symm
    rw [hrest]
    exact ih hfirst hn.2 fun m hm _ hid ↦ hgrows.ids_subset (hids.2 m hm hid)

theorem segmentMatches (h : Mirrors least σ t u) (hs : s.selector.WellFormed) (hid : id ∈ t.ids) :
    Matched least σ t (t.segmentMatches s id) (u.segmentMatches s (σ id)) := by
  -- all selectors but operations match alike
  have hplain : Matched least σ t
      (((s.candidates (t.view id)).filter fun c ↦ accepts c.2).map Prod.fst,
        t.reportAll s.raw (s.candidates (t.view id)))
      (((s.candidates (u.view (σ id))).filter fun c ↦ accepts c.2).map Prod.fst,
        u.reportAll s.raw (s.candidates (u.view (σ id)))) := by
    rw [h.view id, Twins.candidates_rename]
    refine ⟨σ, h.reportAll s.raw (by simp), fun _ _ ↦ rfl, ?_⟩
    simp [List.filter_map, Function.comp_def]
  unfold Tree.segmentMatches
  cases hselector : s.selector with
  | special operation args =>
    rw [hselector] at hs
    rw [h.view id, Twins.targets_rename]
    exact h.specials hs (fun m hm ↦ distinct_of_mem_targets s hm (h.left.distinct_view id))
      fun m hm k hk ↦ mem_ids_of_mem_view hid (Twins.ids_subset_of_mem_targets hm hk)
  | _ => exact hplain

theorem segmentMatchesAll (h : Mirrors least σ t u) (hs : s.selector.WellFormed)
    {ids : List NodeId} (hids : ∀ id ∈ ids, id ∈ t.ids) :
    Matched least σ t (t.segmentMatchesAll s ids) (u.segmentMatchesAll s (ids.map σ)) := by
  induction ids generalizing σ t u with
  | nil => exact ⟨σ, h, fun _ _ ↦ rfl, rfl⟩
  | cons id rest ih =>
    rw [List.forall_mem_cons] at hids
    rw [List.map_cons, segmentMatchesAll_cons, segmentMatchesAll_cons]
    have hgrows := t.grows_segmentMatches s id
    refine (h.segmentMatches hs hids.1).append hgrows
      (whileHeld_live.segmentMatches h.left hs id) fun τ hfirst hagree ↦ ?_
    have hrest : rest.map σ = rest.map τ :=
      List.map_congr_left fun i hi ↦ (hagree i (hids.2 i hi)).symm
    rw [hrest]
    exact ih hfirst fun i hi ↦ hgrows.ids_subset (hids.2 i hi)

/-- The second run of a search comes to the same end as the first one. -/
theorem walk (h : Mirrors least σ t u) {segments : List Segment}
    (hs : ∀ s ∈ segments, s.selector.WellFormed) {ids : List NodeId}
    (hids : ∀ id ∈ ids, id ∈ t.ids) :
    ∃ τ, Mirrors least τ (t.walk ids segments).2 (u.walk (ids.map σ) segments).2 := by
  induction segments generalizing σ t u ids with
  | nil => exact ⟨σ, h⟩
  | cons s rest ih =>
    rw [List.forall_mem_cons] at hs
    obtain ⟨τ, hfirst, -, hfound⟩ := h.segmentMatchesAll hs.1 hids
    have hdropped := hfirst.releaseScratch (t.segmentMatchesAll s ids).1
    rw [walk_cons, walk_cons, hfound, List.isEmpty_map]
    split
    · exact ⟨τ, hdropped⟩
    · exact ih hdropped hs.2 fun id hid ↦
        mem_ids_releaseScratch hid (whileHeld_live.segmentMatchesAll h.left hs.1 ids id hid)

end Mirrors

/-! ### The second run -/

/-- The root is in no result, so a search from it drops all results of the query before. -/
theorem Sound.scratch_releaseScratch_root (h : t.Sound) :
    (t.releaseScratch [t.root.id]).scratch = [] := by
  rw [List.eq_nil_iff_forall_not_mem]
  intro n hn
  obtain ⟨id, hid, hmem⟩ := exists_mem_ids_of_releaseScratch hn
  rw [List.mem_singleton.1 hid] at hmem
  exact (h.releaseScratch [t.root.id]).notMem_ids_of_lasts
    ⟨t.root, List.mem_cons_self .., t.root.id_mem_ids⟩ hn hmem

/-- Trees with the same lasting nodes are the same for a search from the root. -/
theorem mirrors_releaseScratch (h : t.Sound) (h' : u.Sound) (hregistry : u.registry = t.registry)
    (hlasting : u.lasting = t.lasting) (hsize : t.slots.size ≤ u.slots.size) :
    Mirrors u.slots.size (Equiv.refl _) (t.releaseScratch [t.root.id])
      (u.releaseScratch [u.root.id]) where
  left := h.releaseScratch _
  right := h'.releaseScratch _
  registry := hregistry
  lasting := by
    have hrename : Node.rename (Equiv.refl _) = id := funext fun n ↦
      Node.rename_of_ids rfl (List.map_id n.ids)
    rw [hrename, List.map_id]
    exact hlasting
  scratch := by
    rw [h.scratch_releaseScratch_root, h'.scratch_releaseScratch_root]
    rfl
  size := by
    simp only [releaseScratch_eq, Slots.size_releaseAll]
    exact (Nat.max_eq_left hsize).symm

/-- What is live afterwards was live before, and is no part of a result; and it is the same node. -/
structure Clears (t t' : Tree) : Prop where
  contains_iff : ∀ id, t'.contains id ↔ t.contains id ∧ ∀ n ∈ t.scratch, id ∉ n.ids
  node?_eq : ∀ id, t'.contains id → t'.node? id = t.node? id

/-- A query for values drops its results and those of the query before, and nothing else. -/
theorem Sound.clears (h : t.Sound) (p : Path) : t.Clears ((t.findPath p).2.releaseScratch []) := by
  have hlasting : ((t.findPath p).2.releaseScratch []).lasting = t.lasting :=
    (lasting_releaseScratch _ _).trans (t.lasting_findFrom p t.root.id)
  have hscratch := scratch_releaseScratch_nil (t.findPath p).2
  have hlive : ∀ id, ((t.findPath p).2.releaseScratch []).contains id ↔ t.Lasts id := fun id ↦ by
    rw [contains_iff_lasts hscratch, Lasts, hlasting, Lasts]
  refine ⟨fun id ↦ (hlive id).trans ⟨fun hid ↦ ?_, fun hid ↦ ?_⟩, fun id hid ↦ ?_⟩
  · exact ⟨contains_iff.2 hid.mem_ids, fun n hn ↦ h.notMem_ids_of_lasts hid hn⟩
  · obtain ⟨hid, hnone⟩ := hid
    obtain ⟨n, hn, hmem⟩ := List.mem_flatMap.1 (contains_iff.1 hid)
    rw [tops_eq_append, List.mem_append] at hn
    exact hn.elim (fun hn ↦ ⟨n, hn, hmem⟩) fun hn ↦ absurd hmem (hnone n hn)
  · rw [h.node?_of_lasts ((hlive id).1 hid), node?, tops_eq_append, hscratch, List.append_nil,
      hlasting]

/-- A query that is put a second time needs no slots that the first one has not left behind,
whatever results it computes on the way. And each time what is live in the end is what was live
before, without the results of earlier queries. -/
theorem size_findValues_again (h : t.Reachable) {raw : String} {p : Path}
    (hp : Path.parse raw = .ok p) :
    ∃ values first values' second, t.findValues raw = .ok (values, first) ∧
      first.findValues raw = .ok (values', second) ∧ second.slots.size = first.slots.size ∧
      t.Clears first ∧ first.Clears second := by
  have hvalues : ∀ t : Tree, t.findValues raw = .ok ((t.findPath p).1.map (t.findPath p).2.value,
      (t.findPath p).2.releaseScratch []) := by
    intro t
    rw [findValues_eq, hp]
    rfl
  have hl : t.Leads ((t.findPath p).2.releaseScratch []) :=
    (leads_findPath hp h.sound).trans (.single (.releaseScratch _ []))
  have hfirst := hl.sound h.sound
  refine ⟨_, _, _, _, hvalues t, hvalues _, ?_, h.sound.clears p, hfirst.clears p⟩
  have hstart := mirrors_releaseScratch h.sound hfirst hl.registry_eq
    ((lasting_releaseScratch _ _).trans (t.lasting_findFrom p t.root.id)) hl.le_slots.size
  have hlive : ∀ id ∈ [t.root.id], id ∈ (t.releaseScratch [t.root.id]).ids :=
    List.forall_mem_singleton.2 (t.releaseScratch [t.root.id]).root_id_mem_ids
  obtain ⟨τ, hend⟩ := hstart.walk (Path.wellFormed_of_parse hp) hlive
  have hroot : [((t.findPath p).2.releaseScratch []).root.id] =
      [t.root.id].map (Equiv.refl NodeId) := by
    rw [root_releaseScratch, root_findPath]
    rfl
  have hsize := hend.size
  rw [← hroot, ← findPath_eq_walk, ← findPath_eq_walk] at hsize
  simp only [releaseScratch_eq, Slots.size_releaseAll] at hsize ⊢
  rw [hsize]
  exact Nat.max_self _

/-- The result of sorting and that of reversing it are there at once, beside the four nodes of the
document. The second time the free slots are used in another order, and they are enough. -/
theorem size_findValues_again_sort :
    ∃ values first values' second,
      (ofJson .builtin (.object [("a", .array [.ofNat 2, .ofNat 1])])).findValues
        "a.\x7bsort\x7d.\x7breverse\x7d.[0]" = .ok (values, first) ∧
      first.findValues "a.\x7bsort\x7d.\x7breverse\x7d.[0]" = .ok (values', second) ∧
      first.slots.size = 10 ∧ second.slots.size = 10 ∧
      first.slots.free = [7, 9, 8, 4, 6, 5] ∧ ∀ id, second.contains id ↔ first.contains id := by
  have hreachable : (ofJson .builtin (.object [("a", .array [.ofNat 2, .ofNat 1])])).Reachable :=
    .ofJson _ (by simp)
  have hparse : Path.parse "a.\x7bsort\x7d.\x7breverse\x7d.[0]" =
      .ok ⟨"a.\x7bsort\x7d.\x7breverse\x7d.[0]", [⟨"a", .key "a", none, false⟩,
        ⟨"\x7bsort\x7d", .special "sort" [], none, false⟩,
        ⟨"\x7breverse\x7d", .special "reverse" [], none, false⟩,
        ⟨"[0]", .index 0, none, false⟩]⟩ := rfl
  obtain ⟨values, first, values', second, hfirst, hsecond, hsize, -, hclears'⟩ :=
    size_findValues_again hreachable hparse
  obtain ⟨p, hp, hfound⟩ := exists_of_findValues hfirst
  obtain rfl := Except.ok.inj (hparse.symm.trans hp)
  obtain ⟨rfl, rfl⟩ := Prod.mk.inj hfound
  refine ⟨_, _, values', second, hfirst, hsecond, ?_, ?_, ?_, fun id ↦ ?_⟩
  · decide +kernel
  · rw [hsize]
    decide +kernel
  · decide +kernel
  · rw [hclears'.contains_iff, scratch_releaseScratch_nil]
    simp

end Tree

end DocPath

import DocPath.Proofs.Tree.Search
import DocPath.Proofs.Tree.Twins

/-!
# Operations on trees that differ in their handles

Every operation by path does the same on twins: the handles it gives mean the same on both sides,
and what becomes of the two trees are twins again. The operations are taken in the order in which
they are built up from elementary changes; at each of them, what the parts do is put together by
`Follows.trans`, and handles in hand are carried along by `Same.follows`.

* `Twins.findPath` — searching
* `Twins.replaceEach`, `Twins.bridgePath`, `Twins.killAll` — the parts of changes by path
-/

namespace DocPath.Tree

open DocPath.Path (Segment)

variable {σ τ : Renaming} {t u : Tree} {id : NodeId} {n : Node} {s : Segment}

/-- Handles that mean the same, in trees that come out of twins. -/
def Agree (σ : Renaming) (t u : Tree) (found found' : List NodeId × Tree) : Prop :=
  ∃ τ, Follows σ t u τ found.2 found'.2 ∧ Same τ found.2 found'.2 found.1 found'.1

namespace Twins

/-! ### Verdicts -/

/-- The same verdicts are logged, whatever handles they are about. -/
theorem reportAll (h : Twins σ t u) (segment : String)
    {verdicts verdicts' : List (NodeId × Except FormulaError Bool)}
    (hsame : verdicts'.map Prod.snd = verdicts.map Prod.snd) :
    Follows σ t u σ (t.reportAll segment verdicts) (u.reportAll segment verdicts') := by
  induction verdicts generalizing t u verdicts' with
  | nil =>
    obtain rfl : verdicts' = [] := by simpa using hsame
    exact .refl h
  | cons entry rest ih =>
    obtain ⟨id, verdict⟩ := entry
    obtain ⟨⟨id', verdict'⟩, rest', rfl, hverdict, hrest⟩ := List.map_eq_cons_iff.1 hsame
    obtain rfl : verdict' = verdict := hverdict
    cases verdict' with
    | ok b => exact (ih h hrest :)
    | error e =>
      have hfirst := h.report segment (.formula e)
      exact hfirst.trans (ih hfirst.twins hrest)

theorem evaluates (h : Twins σ t u) (hid : Known σ t u id) (s : Segment) :
    (u.evaluates s (σ id)).1 = (t.evaluates s id).1 ∧
      Follows σ t u σ (t.evaluates s id).2 (u.evaluates s (σ id)).2 := by
  unfold Tree.evaluates
  rw [h.value hid]
  exact ⟨rfl, h.reportAll s.raw rfl⟩

theorem filtered (h : Twins σ t u) (hid : Known σ t u id) (s : Segment) :
    Agree σ t u ((t.filtered s id).1.toList, (t.filtered s id).2)
      ((u.filtered s (σ id)).1.toList, (u.filtered s (σ id)).2) := by
  obtain ⟨haccept, hfollows⟩ := h.evaluates hid s
  refine ⟨σ, hfollows, ?_⟩
  unfold Tree.filtered
  dsimp only
  rw [haccept]
  split
  · exact .singleton (hfollows.known id hid)
  · exact .nil ..

/-! ### Operations of segments -/

/-- An operation picks the renamed child, or gives what it gives. -/
theorem outcome_rename (σ : Renaming) (r : Registry) (operation : String) (args : List Json)
    (n : Node) : outcome r operation args (n.rename σ) =
      match outcome r operation args n with
      | .failed e => .failed e
      | .child c => .child (c.rename σ)
      | .result v => .result v := by
  unfold outcome
  rw [Node.toJson_rename]
  cases r.select operation n.toJson args with
  | error e => rfl
  | ok picked =>
    have hpick : (picked.bind fun key ↦ (n.rename σ).child? key true) =
        (picked.bind fun key ↦ n.child? key true).map (Node.rename σ) := by
      cases picked with
      | none => rfl
      | some key => exact Node.child?_rename σ n key true
    dsimp only
    rw [hpick]
    cases picked.bind fun key ↦ n.child? key true with
    | some c => rfl
    | none => cases r.call operation n.toJson args <;> rfl

theorem special (h : Twins σ t u) {operation : String} {args : List Json}
    (hargs : ∀ arg ∈ args, arg.Distinct) (hn : n.toJson.Distinct)
    (hknown : ∀ id ∈ n.ids, Known σ t u id)
    (hw : (t.special s operation args n).2.Unwrapped
      (u.special s operation args (n.rename σ)).2) :
    Agree σ t u ((t.special s operation args n).1.toList, (t.special s operation args n).2)
      ((u.special s operation args (n.rename σ)).1.toList,
        (u.special s operation args (n.rename σ)).2) := by
  rw [special_eq, special_eq, outcome_rename, h.registry] at *
  cases houtcome : outcome t.registry operation args n with
  | failed e =>
    exact ⟨σ, h.report s.raw (.operation e), .nil ..⟩
  | child c =>
    have hc := Node.ids_subset_of_mem_childNodes (mem_childNodes_of_outcome houtcome) c.id_mem_ids
    dsimp only
    rw [Node.id_rename]
    exact h.filtered (hknown c.id hc) s
  | result v =>
    simp only [houtcome] at hw ⊢
    have hv := distinct_of_outcome houtcome hargs hn
    obtain ⟨τ, hadopt, hid, hτ⟩ := h.adoptScratch hv
      (hw.of_leads (leads_evaluates s _ _) (leads_evaluates s _ _))
    rw [hτ]
    obtain ⟨ρ, hfiltered, hsame⟩ := hadopt.twins.filtered hid s
    exact ⟨ρ, hadopt.trans hfiltered, hsame⟩

theorem specials (h : Twins σ t u) {operation : String} {args : List Json} {nodes : List Node}
    (hargs : ∀ arg ∈ args, arg.Distinct) (hn : ∀ n ∈ nodes, n.toJson.Distinct)
    (hknown : ∀ n ∈ nodes, ∀ id ∈ n.ids, Known σ t u id)
    (hw : (t.specials s operation args nodes).2.Unwrapped
      (u.specials s operation args (nodes.map (Node.rename σ))).2) :
    Agree σ t u (t.specials s operation args nodes)
      (u.specials s operation args (nodes.map (Node.rename σ))) := by
  induction nodes generalizing σ t u with
  | nil => exact ⟨σ, .refl h, .nil ..⟩
  | cons n rest ih =>
    rw [List.forall_mem_cons] at hn hknown
    rw [List.map_cons, specials_cons, specials_cons] at *
    obtain ⟨τ, hfirst, hfound⟩ := h.special hargs hn.1 hknown.1
      (hw.of_leads (leads_specials s hargs hn.2) (leads_specials s hargs (by simpa using hn.2)))
    -- the nodes left over were known before the first one was treated, so they are renamed as then
    have hrest : rest.map (Node.rename σ) = rest.map (Node.rename τ) :=
      List.map_congr_left fun m hm ↦ (rename_eq hfirst.agree (hknown.2 m hm)).symm
    rw [hrest] at hw ⊢
    obtain ⟨ρ, hlast, hothers⟩ := ih hfirst.twins hn.2
      (fun m hm id hid ↦ hfirst.known id (hknown.2 m hm id hid)) hw
    exact ⟨ρ, hfirst.trans hlast, (hfound.follows hlast).append hothers⟩

/-! ### Searching -/

theorem reach_rename (σ : Renaming) (s : Segment) (n : Node) :
    s.reach (n.rename σ) = (s.reach n).map (Edge.rename σ) := by
  unfold Segment.reach
  split <;> simp

theorem candidates_rename (σ : Renaming) (s : Segment) (n : Node) :
    s.candidates (n.rename σ) = (s.candidates n).map fun c ↦ (σ c.1, c.2) := by
  simp [Segment.candidates, reach_rename, List.filter_map, Edge.rename, Function.comp_def]

theorem targets_rename (σ : Renaming) (s : Segment) (n : Node) :
    s.targets (n.rename σ) = (s.targets n).map (Node.rename σ) := by
  unfold Segment.targets
  split <;> simp [List.filter_map, Function.comp_def]

/-- The candidates of a segment have handles of the node. -/
theorem mem_ids_of_mem_candidates {c : NodeId × Except FormulaError Bool}
    (hc : c ∈ s.candidates n) : c.1 ∈ n.ids := by
  obtain ⟨m, hm, hid⟩ := mem_descendants_of_mem_candidates hc
  exact Node.mem_ids_iff_eq_or_mem_descendants.2 ⟨m, List.mem_cons_of_mem n hm, hid⟩

/-- The targets of an operation have handles of the node. -/
theorem ids_subset_of_mem_targets {m : Node} (hm : m ∈ s.targets n) : m.ids ⊆ n.ids := by
  obtain ⟨c, rfl⟩ := Node.exists_fill_of_mem (mem_of_mem_targets hm)
  exact fun _ hid ↦ Node.Context.mem_ids_fill.2 (.inr hid)

/-- The matches of a segment at a known handle. -/
theorem segmentMatches (h : Twins σ t u) (hs : s.selector.WellFormed) (hid : Known σ t u id)
    (hw : (t.segmentMatches s id).2.Unwrapped (u.segmentMatches s (σ id)).2) :
    Agree σ t u (t.segmentMatches s id) (u.segmentMatches s (σ id)) := by
  -- all selectors but operations match alike
  have hplain : Agree σ t u
      (((s.candidates (t.view id)).filter fun c ↦ accepts c.2).map Prod.fst,
        t.reportAll s.raw (s.candidates (t.view id)))
      (((s.candidates (u.view (σ id))).filter fun c ↦ accepts c.2).map Prod.fst,
        u.reportAll s.raw (s.candidates (u.view (σ id)))) := by
    rw [h.view hid, candidates_rename]
    have hfollows : Follows σ t u σ (t.reportAll s.raw (s.candidates (t.view id)))
        (u.reportAll s.raw ((s.candidates (t.view id)).map fun c ↦ (σ c.1, c.2))) :=
      h.reportAll s.raw (by simp)
    refine ⟨σ, hfollows, ?_, fun k hk ↦ ?_⟩
    · simp [List.filter_map, Function.comp_def]
    · obtain ⟨c, hc, rfl⟩ := List.mem_map.1 hk
      have hmem := mem_ids_of_mem_candidates (List.mem_of_mem_filter hc)
      exact hfollows.known _ (h.known_of_mem_view hid hmem)
  unfold Tree.segmentMatches at *
  cases hselector : s.selector with
  | special operation args =>
    rw [hselector] at hs
    simp only [hselector, h.view hid, targets_rename] at hw ⊢
    exact h.specials hs
      (fun m hm ↦ distinct_of_mem_targets s hm (h.left.distinct_view id))
      (fun m hm k hk ↦ h.known_of_mem_view hid (ids_subset_of_mem_targets hm hk)) hw
  | _ =>
    simpa only [hselector] using hplain

theorem segmentMatchesAll (h : Twins σ t u) (hs : s.selector.WellFormed) {ids ids' : List NodeId}
    (hids : Same σ t u ids ids')
    (hw : (t.segmentMatchesAll s ids).2.Unwrapped (u.segmentMatchesAll s ids').2) :
    Agree σ t u (t.segmentMatchesAll s ids) (u.segmentMatchesAll s ids') := by
  induction ids generalizing σ t u ids' with
  | nil =>
    obtain rfl : ids' = [] := hids.1
    exact ⟨σ, .refl h, .nil ..⟩
  | cons id rest ih =>
    obtain ⟨rest', rfl, hid, hrest⟩ := hids.exists_of_cons
    rw [segmentMatchesAll_cons, segmentMatchesAll_cons] at hw ⊢
    have hl := (leads_segmentMatches hs h.left id).sound h.left
    have hr := (leads_segmentMatches hs h.right (σ id)).sound h.right
    obtain ⟨τ, hfirst, hfound⟩ := h.segmentMatches hs hid
      (hw.of_leads (leads_segmentMatchesAll hs hl rest) (leads_segmentMatchesAll hs hr rest'))
    obtain ⟨ρ, hlast, hothers⟩ := ih hfirst.twins (hrest.follows hfirst) hw
    exact ⟨ρ, hfirst.trans hlast, (hfound.follows hlast).append hothers⟩

theorem walk (h : Twins σ t u) {segments : List Segment}
    (hs : ∀ s ∈ segments, s.selector.WellFormed) {ids ids' : List NodeId}
    (hids : Same σ t u ids ids')
    (hw : (t.walk ids segments).2.Unwrapped (u.walk ids' segments).2) :
    Agree σ t u (t.walk ids segments) (u.walk ids' segments) := by
  induction segments generalizing σ t u ids ids' with
  | nil => exact ⟨σ, .refl h, hids⟩
  | cons s rest ih =>
    rw [List.forall_mem_cons] at hs
    have hl := (leads_segmentMatchesAll hs.1 h.left ids).trans
      (.single (.releaseScratch _ (t.segmentMatchesAll s ids).1))
    have hr := (leads_segmentMatchesAll hs.1 h.right ids').trans
      (.single (.releaseScratch _ (u.segmentMatchesAll s ids').1))
    -- no count goes down on the way, so what the end leaves unwrapped is unwrapped here
    have hgoesOn : ∀ (t' : Tree) (found : List NodeId), t'.Sound →
        t'.Leads (if found.isEmpty then ([], t') else t'.walk found rest).2 := by
      intro t' found ht'
      split
      · exact .refl t'
      · exact leads_walk hs.2 ht' found
    rw [walk_cons, walk_cons] at *
    have hdropped := hw.of_leads (hgoesOn _ _ (hl.sound h.left)) (hgoesOn _ _ (hr.sound h.right))
    obtain ⟨τ, hfirst, hfound⟩ := h.segmentMatchesAll hs.1 hids
      (hdropped.of_leads (.single (.releaseScratch ..)) (.single (.releaseScratch ..)))
    have hkept := hfirst.twins.releaseScratch hfound hdropped
    rw [hfound.isEmpty_eq] at hw ⊢
    cases hempty : (t.segmentMatchesAll s ids).1.isEmpty with
    | true => exact ⟨τ, hfirst.trans hkept, .nil ..⟩
    | false =>
      simp only [hempty] at hw
      obtain ⟨ρ, hlast, hothers⟩ := ih hkept.twins hs.2 (hfound.follows hkept) hw
      exact ⟨ρ, (hfirst.trans hkept).trans hlast, hothers⟩

/-- The nodes that a path leads to from the root. -/
theorem findPath (h : Twins σ t u) {raw : String} {p : Path} (hp : Path.parse raw = .ok p)
    (hw : (t.findPath p).2.Unwrapped (u.findPath p).2) :
    Agree σ t u (t.findPath p) (u.findPath p) := by
  have hs := Path.wellFormed_of_parse hp
  have hroot : Same σ t u [t.root.id] [u.root.id] := by
    rw [h.id_root]
    exact .singleton (known_root t.root.id_mem_ids)
  have hl : t.Leads (t.releaseScratch [t.root.id]) := .single (.releaseScratch ..)
  have hr : u.Leads (u.releaseScratch [u.root.id]) := .single (.releaseScratch ..)
  have hgoesOn : ∀ (t' : Tree) (start : NodeId), t'.Sound →
      t'.Leads (if t'.contains start then t'.walk [start] p.segments else ([], t')).2 := by
    intro t' start ht'
    split
    · exact leads_walk hs ht' [start]
    · exact .refl t'
  unfold Tree.findPath Tree.findFrom at *
  have hdropped := hw.of_leads (hgoesOn _ _ (hl.sound h.left)) (hgoesOn _ _ (hr.sound h.right))
  have hkept := h.releaseScratch hroot hdropped
  have hroot' := hroot.follows hkept
  have hcontains : (u.releaseScratch [u.root.id]).contains u.root.id =
      (t.releaseScratch [t.root.id]).contains t.root.id := by
    have hlive := hkept.twins.contains (hroot'.2 _ (List.mem_singleton_self _))
    rwa [← h.id_root] at hlive
  dsimp only at hw ⊢
  rw [hcontains] at hw ⊢
  split
  · rename_i hlive
    rw [if_pos hlive, if_pos hlive] at hw
    obtain ⟨τ, hlast, hfound⟩ := hkept.twins.walk hs hroot' hw
    exact ⟨τ, hkept.trans hlast, hfound⟩
  · exact ⟨σ, hkept, .nil ..⟩

/-! ### Changes by path -/

theorem replaceEach (h : Twins σ t u) {ids ids' : List NodeId} (hids : Same σ t u ids ids')
    {v : Json} (hv : v.Distinct)
    (hw : (t.replaceEach ids v).Unwrapped (u.replaceEach ids' v)) :
    ∃ τ, Follows σ t u τ (t.replaceEach ids v) (u.replaceEach ids' v) := by
  induction ids generalizing σ t u ids' with
  | nil =>
    obtain rfl : ids' = [] := hids.1
    exact ⟨σ, .refl h⟩
  | cons id rest ih =>
    obtain ⟨rest', rfl, hid, hrest⟩ := hids.exists_of_cons
    obtain ⟨τ, hfirst⟩ := h.replaceWith hid hv
      (hw.of_leads (leads_replaceEach _ rest hv) (leads_replaceEach _ rest' hv))
    obtain ⟨ρ, hlast⟩ := ih hfirst.twins (hrest.follows hfirst) hw
    exact ⟨ρ, hfirst.trans hlast⟩

theorem literalKey?_rename (σ : Renaming) (s : Segment) (n : Node) :
    literalKey? s (n.rename σ) = literalKey? s n := by
  unfold literalKey?
  split
  · rfl
  · cases s.selector <;> cases n <;> simp

theorem reachOrCreate (h : Twins σ t u) (hs : s.selector.WellFormed) {v : Json} (hv : v.Distinct)
    (required : Option Kind) (hid : Known σ t u id)
    (hw : (t.reachOrCreate s required v id).2.Unwrapped (u.reachOrCreate s required v (σ id)).2) :
    Agree σ t u (t.reachOrCreate s required v id) (u.reachOrCreate s required v (σ id)) := by
  have hkeys : (u.node? (σ id)).bind (literalKey? s) = (t.node? id).bind (literalKey? s) := by
    rw [h.node? hid]
    cases t.node? id with
    | none => rfl
    | some n => exact literalKey?_rename σ s n
  cases hkey : (t.node? id).bind (literalKey? s) with
  | none =>
    rw [reachOrCreate_of_none hkey, reachOrCreate_of_none (hkeys.trans hkey)] at *
    exact h.segmentMatches hs hid hw
  | some key =>
    rw [reachOrCreate_of_some hkey, reachOrCreate_of_some (hkeys.trans hkey)] at *
    rw [h.child? hid] at hw ⊢
    cases hchild : t.child? id key true with
    | some c => exact ⟨σ, .refl h, .singleton (h.known_of_child? hid hchild)⟩
    | none =>
      simp only [hchild, Option.map_none] at hw ⊢
      cases required with
      | some kind => exact h.insertChild hid key (distinct_empty kind) hw
      | none =>
        -- nothing comes after the value, so the new child is not handed on
        obtain ⟨τ, hτ, -⟩ := h.insertChild hid key hv hw
        exact ⟨τ, hτ, .nil ..⟩

theorem prepare (h : Twins σ t u) (required : Option Kind) {v : Json} (hv : v.Distinct)
    {ids ids' : List NodeId} (hids : Same σ t u ids ids')
    (hw : (Tree.prepare required v t ids).Unwrapped (Tree.prepare required v u ids')) :
    ∃ τ, Follows σ t u τ (Tree.prepare required v t ids) (Tree.prepare required v u ids') := by
  induction ids generalizing σ t u ids' with
  | nil =>
    obtain rfl : ids' = [] := hids.1
    exact ⟨σ, .refl h⟩
  | cons id rest ih =>
    obtain ⟨rest', rfl, hid, hrest⟩ := hids.exists_of_cons
    -- the value that the first node gets depends on what is required
    have hfirst : ∀ w : Json, w.Distinct →
        (Tree.prepare required v (t.replaceWith id w) rest).Unwrapped
          (Tree.prepare required v (u.replaceWith (σ id) w) rest') →
        ∃ τ, Follows σ t u τ (Tree.prepare required v (t.replaceWith id w) rest)
          (Tree.prepare required v (u.replaceWith (σ id) w) rest') := by
      intro w hwd hw
      obtain ⟨τ, hτ⟩ := h.replaceWith hid hwd
        (hw.of_leads (leads_prepare _ required hv rest) (leads_prepare _ required hv rest'))
      obtain ⟨ρ, hρ⟩ := ih hτ.twins (hrest.follows hτ) hw
      exact ⟨ρ, hτ.trans hρ⟩
    cases required with
    | none => exact hfirst v hv hw
    | some kind =>
      rw [Tree.prepare, Tree.prepare, h.kind? hid] at *
      split
      · rename_i hkind
        rw [if_pos hkind, if_pos hkind] at hw
        exact ih h hrest hw
      · rename_i hkind
        rw [if_neg hkind, if_neg hkind] at hw
        exact hfirst _ (distinct_empty kind) hw

theorem bridgeSegment (h : Twins σ t u) (hs : s.selector.WellFormed) {v : Json} (hv : v.Distinct)
    (required : Option Kind) {ids ids' : List NodeId} (hids : Same σ t u ids ids')
    (hw : (t.bridgeSegment s required v ids).2.Unwrapped (u.bridgeSegment s required v ids').2) :
    Agree σ t u (t.bridgeSegment s required v ids) (u.bridgeSegment s required v ids') := by
  induction ids generalizing σ t u ids' with
  | nil =>
    obtain rfl : ids' = [] := hids.1
    exact ⟨σ, .refl h, .nil ..⟩
  | cons id rest ih =>
    obtain ⟨rest', rfl, hid, hrest⟩ := hids.exists_of_cons
    have hl := leads_reachOrCreate hs hv h.left required id
    have hr := leads_reachOrCreate hs hv h.right required (σ id)
    rw [bridgeSegment_cons, bridgeSegment_cons] at *
    dsimp only at hw ⊢
    have hl' := leads_prepare (t.reachOrCreate s required v id).2 required hv
      (t.reachOrCreate s required v id).1
    have hr' := leads_prepare (u.reachOrCreate s required v (σ id)).2 required hv
      (u.reachOrCreate s required v (σ id)).1
    have hprepared := hw.of_leads
      (leads_bridgeSegment hs hv ((hl.trans hl').sound h.left) required rest)
      (leads_bridgeSegment hs hv ((hr.trans hr').sound h.right) required rest')
    obtain ⟨τ, hreach, htargets⟩ := h.reachOrCreate hs hv required hid (hprepared.of_leads hl' hr')
    obtain ⟨ρ, hprepare⟩ := hreach.twins.prepare required hv htargets hprepared
    have hfirst := hreach.trans hprepare
    obtain ⟨θ, hlast, hothers⟩ := ih hprepare.twins (hrest.follows hfirst) hw
    refine ⟨θ, hfirst.trans hlast, .append ?_ hothers⟩
    split
    · exact (htargets.follows hprepare).follows hlast
    · exact .nil ..

theorem bridgeFrom (h : Twins σ t u) {segments : List Segment}
    (hs : ∀ s ∈ segments, s.selector.WellFormed) {v : Json} (hv : v.Distinct)
    {ids ids' : List NodeId} (hids : Same σ t u ids ids')
    (hw : (t.bridgeFrom v ids segments).Unwrapped (u.bridgeFrom v ids' segments)) :
    ∃ τ, Follows σ t u τ (t.bridgeFrom v ids segments) (u.bridgeFrom v ids' segments) := by
  induction segments generalizing σ t u ids ids' with
  | nil => exact ⟨σ, .refl h⟩
  | cons s rest ih =>
    rw [List.forall_mem_cons] at hs
    have hl := leads_bridgeSegment hs.1 hv h.left (rest.head?.map containerFor) ids
    have hr := leads_bridgeSegment hs.1 hv h.right (rest.head?.map containerFor) ids'
    have hgoesOn : ∀ (t' : Tree) (next : List NodeId), t'.Sound →
        t'.Leads (if next.isEmpty then t' else t'.bridgeFrom v next rest) := by
      intro t' next ht'
      split
      · exact .refl t'
      · exact leads_bridgeFrom hs.2 hv ht' next
    rw [bridgeFrom_cons, bridgeFrom_cons] at *
    dsimp only at hw ⊢
    obtain ⟨τ, hfirst, hnext⟩ := h.bridgeSegment hs.1 hv _ hids
      (hw.of_leads (hgoesOn _ _ (hl.sound h.left)) (hgoesOn _ _ (hr.sound h.right)))
    rw [hnext.isEmpty_eq] at hw ⊢
    split
    · exact ⟨τ, hfirst⟩
    · rename_i hempty
      rw [if_neg hempty, if_neg hempty] at hw
      obtain ⟨ρ, hlast⟩ := ih hfirst.twins hs.2 hnext hw
      exact ⟨ρ, hfirst.trans hlast⟩

theorem prepareRoot (h : Twins σ t u) (s : Segment)
    (hw : (t.prepareRoot s).Unwrapped (u.prepareRoot s)) :
    ∃ τ, Follows σ t u τ (t.prepareRoot s) (u.prepareRoot s) := by
  have hkind : u.root.kind = t.root.kind := by rw [h.root, Node.kind_rename]
  unfold Tree.prepareRoot at *
  rw [h.id_root, hkind] at hw ⊢
  split
  · rename_i hscalar
    rw [if_pos hscalar, if_pos hscalar] at hw
    exact h.replaceWith (known_root t.root.id_mem_ids) (distinct_empty _) hw
  · exact ⟨σ, .refl h⟩

theorem writeThrough (h : Twins σ t u) {p : Path} (hp : ∀ s ∈ p.segments, s.selector.WellFormed)
    {v : Json} (hv : v.Distinct) (hw : (t.writeThrough p v).Unwrapped (u.writeThrough p v)) :
    ∃ τ, Follows σ t u τ (t.writeThrough p v) (u.writeThrough p v) := by
  cases hsegments : p.segments with
  | nil =>
    rw [writeThrough_nil _ hsegments, writeThrough_nil _ hsegments, h.id_root] at *
    exact h.replaceWith (known_root t.root.id_mem_ids) hv hw
  | cons s rest =>
    rw [hsegments] at hp
    rw [writeThrough_cons _ s hsegments, writeThrough_cons _ s hsegments] at *
    have hl := (t.leads_prepareRoot s).sound h.left
    have hr := (u.leads_prepareRoot s).sound h.right
    obtain ⟨τ, hfirst⟩ := h.prepareRoot s
      (hw.of_leads (leads_bridgeFrom hp hv hl _) (leads_bridgeFrom hp hv hr _))
    have hroot : Same τ (t.prepareRoot s) (u.prepareRoot s) [(t.prepareRoot s).root.id]
        [(u.prepareRoot s).root.id] := by
      rw [hfirst.twins.id_root]
      exact .singleton (known_root (Node.id_mem_ids _))
    obtain ⟨ρ, hlast⟩ := hfirst.twins.bridgeFrom hp hv hroot hw
    exact ⟨ρ, hfirst.trans hlast⟩

theorem bridgePath (h : Twins σ t u) {raw : String} {p : Path} (hp : Path.parse raw = .ok p)
    {v : Json} (hv : v.Distinct) (hw : (t.bridgePath p v).Unwrapped (u.bridgePath p v)) :
    ∃ τ, Follows σ t u τ (t.bridgePath p v) (u.bridgePath p v) := by
  obtain ⟨τ, hfirst⟩ := h.writeThrough (Path.wellFormed_of_parse hp) hv
    (hw.of_leads (.single (.releaseScratch _ [])) (.single (.releaseScratch _ [])))
  exact ⟨τ, hfirst.trans (hfirst.twins.releaseScratch (.nil ..) hw)⟩

theorem bridgeEach (h : Twins σ t u) {raw : String} {p : Path} (hp : Path.parse raw = .ok p)
    {values : List Json} (hv : ∀ v ∈ values, v.Distinct)
    (hw : (t.bridgeEach p values).Unwrapped (u.bridgeEach p values)) :
    ∃ τ, Follows σ t u τ (t.bridgeEach p values) (u.bridgeEach p values) := by
  induction values generalizing σ t u with
  | nil => exact ⟨σ, .refl h⟩
  | cons v rest ih =>
    rw [List.forall_mem_cons] at hv
    have hl := (leads_bridgePath hp hv.1 h.left).sound h.left
    have hr := (leads_bridgePath hp hv.1 h.right).sound h.right
    obtain ⟨τ, hfirst⟩ := h.bridgePath hp hv.1
      (hw.of_leads (leads_bridgeEach hp hv.2 hl) (leads_bridgeEach hp hv.2 hr))
    obtain ⟨ρ, hlast⟩ := ih hfirst.twins hv.2 hw
    exact ⟨ρ, hfirst.trans hlast⟩

/-- Nodes are removed on both sides, or on neither because they are gone already. -/
theorem killAll (h : Twins σ t u) {ids ids' : List NodeId} (hids : Same σ t u ids ids')
    (hw : (t.killAll ids).2.Unwrapped (u.killAll ids').2) :
    (u.killAll ids').1 = (t.killAll ids).1 ∧
      Follows σ t u σ (t.killAll ids).2 (u.killAll ids').2 := by
  induction ids generalizing t u ids' with
  | nil =>
    obtain rfl : ids' = [] := hids.1
    exact ⟨rfl, .refl h⟩
  | cons id rest ih =>
    obtain ⟨rest', rfl, -, hrest⟩ := hids.exists_of_cons
    rw [killAll_cons, killAll_cons] at *
    obtain ⟨hkilled, hfirst⟩ := h.kill id
      (hw.of_leads (leads_killAll _ rest) (leads_killAll _ rest'))
    obtain ⟨hcount, hlast⟩ := ih hfirst.twins (hrest.follows hfirst) hw
    exact ⟨by rw [hkilled, hcount], hfirst.trans hlast⟩

end Twins

end DocPath.Tree

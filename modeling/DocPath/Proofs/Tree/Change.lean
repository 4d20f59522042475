import DocPath.Proofs.Path.WellFormed
import DocPath.Proofs.Tree.Equations
import DocPath.Proofs.Tree.Sound
import Mathlib.Logic.Relation

/-!
# Runs of elementary changes

However much an operation does, it does it by elementary changes, one after the other: it gives a
node a value, puts in or takes out a child, adds a node outside the document, drops computed
results, or logs a failure. `Change` lists these, and `Leads` is a run of them.

What every elementary change keeps is therefore kept by every operation: soundness (`Leads.sound`),
the handle of the root, the registry, and the counts of releases, which never go down.

* `leads_findPath`, `leads_findValues` — searching
* `leads_set`, `leads_bridge`, `leads_transfer`, `leads_delete` — changes by path
* `leads_exportAll` — copying and moving between two trees
-/

namespace DocPath.Tree

open DocPath.Path (Segment)

/-- One elementary change. -/
inductive Change : Tree → Tree → Prop
  | replaceWith (t : Tree) (id : NodeId) {v : Json} (hv : v.Distinct) :
    Change t (t.replaceWith id v)
  | insertChild (t : Tree) (id : NodeId) (key : Key) {v : Json} (hv : v.Distinct) :
    Change t (t.insertChild id key v).2
  | deleteChild (t : Tree) (id : NodeId) (key : Key) : Change t (t.deleteChild id key).2
  | kill (t : Tree) (id : NodeId) : Change t (t.kill id).2
  | adopt (t : Tree) {v : Json} (hv : v.Distinct) : Change t (t.adopt v).2
  | adoptScratch (t : Tree) {v : Json} (hv : v.Distinct) : Change t (t.adoptScratch v).2
  | releaseScratch (t : Tree) (keep : List NodeId) : Change t (t.releaseScratch keep)
  | report (t : Tree) (segment : String) (fault : Fault) : Change t (t.report segment fault)
  | takeLog (t : Tree) : Change t t.takeLog.2

/-- A run of elementary changes. -/
def Leads : Tree → Tree → Prop :=
  Relation.ReflTransGen Change

variable {t t' t'' : Tree}

/-! ### What an elementary change keeps -/

theorem Change.sound (h : Change t t') (ht : t.Sound) : t'.Sound := by
  cases h with
  | replaceWith id hv => exact ht.replaceWith id hv
  | insertChild id key hv => exact ht.insertChild id key hv
  | deleteChild id key => exact ht.deleteChild id key
  | kill id => exact ht.kill id
  | adopt hv => exact ht.adopt hv
  | adoptScratch hv => exact ht.adoptScratch hv
  | releaseScratch keep => exact ht.releaseScratch keep
  | report segment fault => exact ht.report segment fault
  | takeLog => exact ht.takeLog

theorem registry_replaceWith (t : Tree) (id : NodeId) (v : Json) :
    (t.replaceWith id v).registry = t.registry := by
  unfold replaceWith
  split <;> rfl

theorem registry_insertChild (t : Tree) (id : NodeId) (key : Key) (v : Json) :
    (t.insertChild id key v).2.registry = t.registry := by
  unfold insertChild
  split
  · exact t.registry_replaceWith _ v
  · split
    · rfl
    · split
      · split <;> rfl
      · rfl
    · rfl

theorem Change.registry_eq (h : Change t t') : t'.registry = t.registry := by
  cases h with
  | replaceWith id hv => exact t.registry_replaceWith id _
  | insertChild id key hv => exact t.registry_insertChild id key _
  | deleteChild id key => unfold Tree.deleteChild; split <;> rfl
  | kill id =>
    unfold Tree.kill
    split
    · split <;> rfl
    · rfl
  | _ => rfl

theorem le_replaceWith (t : Tree) (id : NodeId) (v : Json) :
    t.slots.LE (t.replaceWith id v).slots := by
  unfold replaceWith
  split
  · exact .refl _
  · exact (Slots.le_releaseAll _ _).trans (Node.le_build id v _)

theorem le_insertChild (t : Tree) (id : NodeId) (key : Key) (v : Json) :
    t.slots.LE (t.insertChild id key v).2.slots := by
  unfold insertChild
  split
  · exact t.le_replaceWith _ v
  · split
    · exact Node.le_buildEntries [(key.text, v)] t.slots
    · split
      · split
        · exact .refl _
        · exact Node.le_buildItems _ t.slots
      · exact .refl _
    · exact .refl _

/-- Slots are never given up, and releases are only counted up. -/
theorem Change.le_slots (h : Change t t') : t.slots.LE t'.slots := by
  cases h with
  | replaceWith id hv => exact t.le_replaceWith id _
  | insertChild id key hv => exact t.le_insertChild id key _
  | deleteChild id key =>
    unfold Tree.deleteChild
    split
    · exact Slots.le_releaseAll _ _
    · exact .refl _
  | kill id =>
    unfold Tree.kill
    split
    · split
      · exact .refl _
      · exact Slots.le_releaseAll _ _
    · exact .refl _
  | adopt hv => exact (Slots.le_allocate _).trans (Node.le_build _ _ _)
  | adoptScratch hv => exact (Slots.le_allocate _).trans (Node.le_build _ _ _)
  | releaseScratch keep => exact Slots.le_releaseAll _ _
  | report segment fault => exact .refl _
  | takeLog => exact .refl _

namespace Leads

@[refl] protected theorem refl (t : Tree) : t.Leads t :=
  Relation.ReflTransGen.refl

protected theorem trans (h : t.Leads t') (h' : t'.Leads t'') : t.Leads t'' :=
  Relation.ReflTransGen.trans h h'

protected theorem single (h : Change t t') : t.Leads t' :=
  Relation.ReflTransGen.single h

/-- A sound tree stays sound. -/
theorem sound (h : t.Leads t') (ht : t.Sound) : t'.Sound := by
  induction h with
  | refl => exact ht
  | tail _ hc ih => exact hc.sound ih

theorem registry_eq (h : t.Leads t') : t'.registry = t.registry := by
  induction h with
  | refl => rfl
  | tail _ hc ih => exact hc.registry_eq.trans ih

theorem le_slots (h : t.Leads t') : t.slots.LE t'.slots := by
  induction h with
  | refl => exact .refl _
  | tail _ hc ih => exact ih.trans hc.le_slots

end Leads

/-! ### Searching -/

variable (s : Segment)

theorem leads_reportAll (t : Tree) (segment : String)
    (verdicts : List (NodeId × Except FormulaError Bool)) :
    t.Leads (t.reportAll segment verdicts) := by
  induction verdicts generalizing t with
  | nil => exact .refl t
  | cons entry rest ih =>
    obtain ⟨id, verdict⟩ := entry
    cases verdict with
    | ok b => exact ih t
    | error e => exact (Leads.single (.report t segment _)).trans (ih _)

theorem leads_evaluates (t : Tree) (id : NodeId) : t.Leads (t.evaluates s id).2 :=
  t.leads_reportAll _ _

theorem distinct_of_outcome {r : Registry} {operation : String} {args : List Json} {n : Node}
    {v : Json} (h : outcome r operation args n = .result v) (hargs : ∀ arg ∈ args, arg.Distinct)
    (hn : n.toJson.Distinct) : v.Distinct := by
  unfold outcome at h
  split at h
  · cases h
  · split at h
    · cases h
    · split at h
      · cases h
      · rename_i hcall
        cases h
        exact Registry.distinct_of_call hcall hn hargs

theorem leads_special {operation : String} {args : List Json} {n : Node}
    (hargs : ∀ arg ∈ args, arg.Distinct) (hn : n.toJson.Distinct) :
    t.Leads (t.special s operation args n).2 := by
  rw [special_eq]
  cases h : outcome t.registry operation args n with
  | failed e => exact .single (.report ..)
  | child c => exact leads_evaluates s t c.id
  | result v =>
    have hadopt := Change.adoptScratch t (distinct_of_outcome h hargs hn)
    exact (Leads.single hadopt).trans (leads_evaluates s _ _)

theorem leads_specials {operation : String} {args : List Json} {nodes : List Node}
    (hargs : ∀ arg ∈ args, arg.Distinct) (hn : ∀ n ∈ nodes, n.toJson.Distinct) :
    t.Leads (t.specials s operation args nodes).2 := by
  induction nodes generalizing t with
  | nil => exact .refl t
  | cons n rest ih =>
    have hfirst : t.Leads (t.special s operation args n).2 :=
      leads_special s hargs (hn n (List.mem_cons_self ..))
    exact hfirst.trans (ih fun m hm ↦ hn m (List.mem_cons_of_mem n hm))

theorem distinct_of_mem_targets {n m : Node} (h : m ∈ s.targets n) (hn : n.toJson.Distinct) :
    m.toJson.Distinct := by
  rcases List.mem_cons.1 h with rfl | h
  · exact hn
  · split at h
    · exact Node.distinct_of_mem_descendants (List.mem_of_mem_filter h) hn
    · cases h

variable {s}

theorem leads_segmentMatches (hs : s.selector.WellFormed) (ht : t.Sound) (id : NodeId) :
    t.Leads (t.segmentMatches s id).2 := by
  unfold segmentMatches
  split
  · rename_i operation args hselector
    rw [hselector] at hs
    exact leads_specials s hs fun m hm ↦ distinct_of_mem_targets s hm (ht.distinct_view id)
  · exact t.leads_reportAll _ _

theorem leads_segmentMatchesAll (hs : s.selector.WellFormed) (ht : t.Sound) (ids : List NodeId) :
    t.Leads (t.segmentMatchesAll s ids).2 := by
  induction ids generalizing t with
  | nil => exact .refl t
  | cons id rest ih =>
    have hfirst := leads_segmentMatches hs ht id
    exact hfirst.trans (ih (hfirst.sound ht))

theorem leads_walk {segments : List Segment} (hs : ∀ s ∈ segments, s.selector.WellFormed)
    (ht : t.Sound) (ids : List NodeId) : t.Leads (t.walk ids segments).2 := by
  induction segments generalizing t ids with
  | nil => exact .refl t
  | cons s rest ih =>
    have hfirst := (leads_segmentMatchesAll (hs s (List.mem_cons_self ..)) ht ids).trans
      (.single (.releaseScratch _ (t.segmentMatchesAll s ids).1))
    rw [walk_cons]
    split
    · exact hfirst
    · exact hfirst.trans (ih (fun s' hs' ↦ hs s' (List.mem_cons_of_mem s hs')) (hfirst.sound ht) _)

theorem leads_findFrom {p : Path} (hp : ∀ s ∈ p.segments, s.selector.WellFormed) (ht : t.Sound)
    (start : NodeId) : t.Leads (t.findFrom p start).2 := by
  have hfirst := Leads.single (Change.releaseScratch t [start])
  unfold findFrom
  dsimp only
  split
  · exact hfirst.trans (leads_walk hp (hfirst.sound ht) [start])
  · exact hfirst

theorem leads_findPath {raw : String} {p : Path} (hp : Path.parse raw = .ok p) (ht : t.Sound) :
    t.Leads (t.findPath p).2 :=
  leads_findFrom (Path.wellFormed_of_parse hp) ht t.root.id

theorem leads_find {raw : String} {found : List NodeId × Tree} (h : t.find raw = .ok found)
    (ht : t.Sound) : t.Leads found.2 := by
  rw [find_eq] at h
  cases hp : Path.parse raw with
  | error e => simp [hp, Except.map] at h
  | ok p =>
    obtain rfl : t.findPath p = found := by simpa [hp, Except.map] using h
    exact leads_findPath hp ht

theorem leads_findValues {raw : String} {found : List Json × Tree}
    (h : t.findValues raw = .ok found) (ht : t.Sound) : t.Leads found.2 := by
  obtain ⟨p, hp, rfl⟩ := exists_of_findValues h
  exact (leads_findPath hp ht).trans (.single (.releaseScratch _ []))

/-! ### Changes by path -/

/-- Entries treated in order lead on as long as each of them does. -/
theorem leads_forEach {α : Type} {step : Tree → α → Except PathError Tree} {entries : List α}
    (hstep : ∀ a ∈ entries, ∀ {t t' : Tree}, t.Sound → step t a = .ok t' → t.Leads t')
    (ht : t.Sound) : t.Leads (t.forEach step entries).2 := by
  induction entries generalizing t with
  | nil => exact .refl t
  | cons a rest ih =>
    cases ha : step t a with
    | error e =>
      rw [forEach_cons_error ha]
    | ok t' =>
      have hfirst := hstep a (List.mem_cons_self ..) ht ha
      rw [forEach_cons_ok ha]
      exact hfirst.trans (ih (fun b hb ↦ hstep b (List.mem_cons_of_mem a hb)) (hfirst.sound ht))

theorem leads_replaceEach (t : Tree) (ids : List NodeId) {v : Json} (hv : v.Distinct) :
    t.Leads (t.replaceEach ids v) := by
  induction ids generalizing t with
  | nil => exact .refl t
  | cons id rest ih => exact (Leads.single (.replaceWith t id hv)).trans (ih _)

/-- The values of entries have distinct keys. -/
def DistinctValues (entries : List (String × Json)) : Prop :=
  ∀ entry ∈ entries, entry.2.Distinct

theorem leads_setOne {entry : String × Json} (hv : entry.2.Distinct) (ht : t.Sound)
    (h : t.setOne entry = .ok t') : t.Leads t' := by
  rw [setOne_eq] at h
  cases hp : Path.parse entry.1 with
  | error e => simp [hp, Except.map] at h
  | ok p =>
    obtain rfl : (t.findPath p).2.replaceEach (t.findPath p).1 entry.2 = t' := by
      simpa [hp, Except.map] using h
    exact (leads_findPath hp ht).trans (leads_replaceEach _ _ hv)

theorem leads_set {entries : List (String × Json)} (hv : DistinctValues entries) (ht : t.Sound) :
    t.Leads (t.set entries).2 :=
  leads_forEach (fun entry hentry _ _ ht h ↦ leads_setOne (hv entry hentry) ht h) ht

theorem leads_insertChild (t : Tree) (id : NodeId) (key : Key) {v : Json} (hv : v.Distinct) :
    t.Leads (t.insertChild id key v).2 :=
  .single (.insertChild t id key hv)

theorem distinct_empty (kind : Kind) : (Json.empty kind).Distinct := by
  cases kind <;> simp [Json.empty]

theorem leads_reachOrCreate (hs : s.selector.WellFormed) {v : Json} (hv : v.Distinct) (ht : t.Sound)
    (required : Option Kind) (id : NodeId) : t.Leads (t.reachOrCreate s required v id).2 := by
  cases hkey : (t.node? id).bind (literalKey? s) with
  | none =>
    rw [reachOrCreate_of_none hkey]
    exact leads_segmentMatches hs ht id
  | some key =>
    rw [reachOrCreate_of_some hkey]
    split
    · exact .refl t
    · exact leads_insertChild t id key (distinct_empty _)
    · exact leads_insertChild t id key hv

theorem leads_prepare (t : Tree) (required : Option Kind) {v : Json} (hv : v.Distinct)
    (ids : List NodeId) : t.Leads (prepare required v t ids) := by
  induction ids generalizing t with
  | nil => exact .refl t
  | cons id rest ih =>
    cases required with
    | none => exact (Leads.single (.replaceWith t id hv)).trans (ih _)
    | some kind =>
      rw [prepare]
      split
      · exact ih t
      · exact (Leads.single (.replaceWith t id (distinct_empty kind))).trans (ih _)

theorem leads_bridgeSegment (hs : s.selector.WellFormed) {v : Json} (hv : v.Distinct) (ht : t.Sound)
    (required : Option Kind) (ids : List NodeId) :
    t.Leads (t.bridgeSegment s required v ids).2 := by
  induction ids generalizing t with
  | nil => exact .refl t
  | cons id rest ih =>
    have hfirst := (leads_reachOrCreate hs hv ht required id).trans
      (leads_prepare _ required hv (t.reachOrCreate s required v id).1)
    exact hfirst.trans (ih (hfirst.sound ht))

theorem leads_bridgeFrom {segments : List Segment} (hs : ∀ s ∈ segments, s.selector.WellFormed)
    {v : Json} (hv : v.Distinct) (ht : t.Sound) (ids : List NodeId) :
    t.Leads (t.bridgeFrom v ids segments) := by
  induction segments generalizing t ids with
  | nil => exact .refl t
  | cons s rest ih =>
    have hfirst := leads_bridgeSegment (hs s (List.mem_cons_self ..)) hv ht
      (rest.head?.map containerFor) ids
    rw [bridgeFrom_cons]
    dsimp only
    split
    · exact hfirst
    · exact hfirst.trans (ih (fun s' hs' ↦ hs s' (List.mem_cons_of_mem s hs')) (hfirst.sound ht) _)

theorem leads_prepareRoot (t : Tree) (s : Segment) : t.Leads (t.prepareRoot s) := by
  unfold prepareRoot
  split
  · exact .single (.replaceWith t _ (distinct_empty _))
  · exact .refl t

theorem leads_writeThrough {p : Path} (hp : ∀ s ∈ p.segments, s.selector.WellFormed) {v : Json}
    (hv : v.Distinct) (ht : t.Sound) : t.Leads (t.writeThrough p v) := by
  cases hsegments : p.segments with
  | nil =>
    rw [writeThrough_nil t hsegments]
    exact .single (.replaceWith t _ hv)
  | cons s rest =>
    rw [hsegments] at hp
    rw [writeThrough_cons t s hsegments]
    have hfirst := t.leads_prepareRoot s
    exact hfirst.trans (leads_bridgeFrom hp hv (hfirst.sound ht) _)

theorem leads_bridgePath {raw : String} {p : Path} (hp : Path.parse raw = .ok p) {v : Json}
    (hv : v.Distinct) (ht : t.Sound) : t.Leads (t.bridgePath p v) :=
  (leads_writeThrough (Path.wellFormed_of_parse hp) hv ht).trans (.single (.releaseScratch _ []))

theorem leads_bridgeOne {entry : String × Json} (hv : entry.2.Distinct) (ht : t.Sound)
    (h : t.bridgeOne entry = .ok t') : t.Leads t' := by
  rw [bridgeOne_eq] at h
  cases hp : Path.parse entry.1 with
  | error e => simp [hp, Except.map] at h
  | ok p =>
    obtain rfl : t.bridgePath p entry.2 = t' := by simpa [hp, Except.map] using h
    exact leads_bridgePath hp hv ht

theorem leads_bridge {entries : List (String × Json)} (hv : DistinctValues entries)
    (ht : t.Sound) : t.Leads (t.bridge entries).2 :=
  leads_forEach (fun entry hentry _ _ ht h ↦ leads_bridgeOne (hv entry hentry) ht h) ht

/-! ### Removing and moving -/

theorem leads_killAll (t : Tree) (ids : List NodeId) : t.Leads (t.killAll ids).2 := by
  induction ids generalizing t with
  | nil => exact .refl t
  | cons id rest ih => exact (Leads.single (.kill t id)).trans (ih _)

theorem leads_bridgeEach {raw : String} {p : Path} (hp : Path.parse raw = .ok p)
    {values : List Json} (hv : ∀ v ∈ values, v.Distinct) (ht : t.Sound) :
    t.Leads (t.bridgeEach p values) := by
  induction values generalizing t with
  | nil => exact .refl t
  | cons v rest ih =>
    have hfirst := leads_bridgePath hp (hv v (List.mem_cons_self ..)) ht
    exact hfirst.trans (ih (fun w hw ↦ hv w (List.mem_cons_of_mem v hw)) (hfirst.sound ht))

theorem Sound.distinct_values (ht : t.Sound) (ids : List NodeId) :
    ∀ v ∈ ids.map t.value, v.Distinct := by
  intro v hv
  obtain ⟨id, -, rfl⟩ := List.mem_map.1 hv
  exact ht.distinct_view id

theorem leads_transferPath {raw raw' : String} {origin target : Path}
    (horigin : Path.parse raw = .ok origin) (htarget : Path.parse raw' = .ok target)
    (all moving : Bool) (ht : t.Sound) : t.Leads (transferPath all moving t origin target) := by
  have hfound := leads_findPath horigin ht
  have hsound := hfound.sound ht
  have hwritten := hfound.trans (leads_bridgeEach htarget
    (hsound.distinct_values (sources all (t.findPath origin).1)) hsound)
  unfold transferPath
  dsimp only
  split
  · exact hwritten.trans (leads_killAll _ _)
  · exact hwritten

theorem leads_transferOne {all moving : Bool} {entry : String × String} (ht : t.Sound)
    (h : t.transferOne all moving entry = .ok t') : t.Leads t' := by
  rw [transferOne_eq] at h
  cases htarget : Path.parse entry.2 with
  | error e => simp [htarget, bind, Except.bind] at h
  | ok target =>
    cases horigin : Path.parse entry.1 with
    | error e => simp [htarget, horigin, bind, Except.bind] at h
    | ok origin =>
      obtain rfl : transferPath all moving t origin target = t' := by
        simpa [htarget, horigin, bind, Except.bind, pure, Except.pure] using h
      exact leads_transferPath horigin htarget all moving ht

theorem leads_transfer (all moving : Bool) (entries : List (String × String)) (ht : t.Sound) :
    t.Leads (transfer all moving t entries).2 :=
  leads_forEach (fun _ _ _ _ ht h ↦ leads_transferOne ht h) ht

theorem leads_deleteFrom (count : Nat) (paths : List String) (ht : t.Sound) :
    t.Leads (deleteFrom count t paths).2 := by
  induction paths generalizing t count with
  | nil => exact .refl t
  | cons path rest ih =>
    rw [deleteFrom_cons]
    cases hp : Path.parse path with
    | error e => exact .refl t
    | ok p =>
      have hfirst := (leads_findPath hp ht).trans (leads_killAll _ (t.findPath p).1)
      exact hfirst.trans (ih _ (hfirst.sound ht))

theorem leads_delete (paths : List String) (ht : t.Sound) : t.Leads (t.delete paths).2 :=
  leads_deleteFrom 0 paths ht

/-! ### Between trees -/

variable {other : Tree}

theorem leads_exportNodes (ids : List NodeId) (ht : t.Sound) (hother : other.Sound) :
    other.Leads (t.exportNodes other ids).2 := by
  induction ids generalizing other with
  | nil => exact .refl other
  | cons id rest ih =>
    unfold exportNodes
    split
    · exact ih hother
    · rename_i path _
      have hfirst : other.Leads (other.bridge [(path, t.value id)]).2 :=
        leads_bridge (List.forall_mem_singleton.2 (ht.distinct_view id)) hother
      split
      · rename_i other' hbridge
        rw [hbridge] at hfirst
        exact hfirst.trans (ih (hfirst.sound hother))
      · rename_i other' hbridge
        rwa [hbridge] at hfirst

/-- Exporting leads on both in the tree that is exported from and in the one exported to. -/
theorem leads_exportAll (moving : Bool) (paths : List String) (ht : t.Sound)
    (hother : other.Sound) :
    t.Leads (exportAll moving t other paths).2.1 ∧
      other.Leads (exportAll moving t other paths).2.2 := by
  induction paths generalizing t other with
  | nil => exact ⟨.refl t, .refl other⟩
  | cons path rest ih =>
    unfold exportAll
    split
    · exact ⟨.refl t, .refl other⟩
    · rename_i ids t' hfind
      have hfound : t.Leads t' := leads_find hfind ht
      have hwritten := leads_exportNodes ids (hfound.sound ht) hother
      split
      · -- an error stops the export before anything is removed
        rename_i e other' hexport
        rw [hexport] at hwritten
        exact ⟨hfound, hwritten⟩
      · rename_i other' hexport
        rw [hexport] at hwritten
        have hkept : t.Leads (if moving then (t'.killAll ids).2 else t') := by
          split
          · exact hfound.trans (leads_killAll _ _)
          · exact hfound
        obtain ⟨hleft, hright⟩ := ih (hkept.sound ht) (hwritten.sound hother)
        exact ⟨hkept.trans hleft, hwritten.trans hright⟩

end DocPath.Tree

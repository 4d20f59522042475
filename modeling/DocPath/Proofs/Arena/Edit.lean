import DocPath.Arena.Edit
import DocPath.Proofs.Arena.Search
import DocPath.Proofs.Tree.Insert

/-!
# Changes by path in arenas

Every operation on documents ends in the arena of a sound tree, and leaves the arena of a tree behind
to which elementary changes lead. That tree is the one that the operation makes of the tree, as long
as it is `Regular`: a bridge may look below a handle that is no longer live, and a handle that comes
back after its slot was released `2 ^ 32` times would then show something else in the arena; and
`Tree.kill` is the removal by keys where these are in range.

* `Becomes`, `Gives`, `Attempts`, `Finds` — what is done in an arena against what is done in the tree
* `gives_set`, `gives_bridge`, `gives_transfer`, `gives_delete` — changes by path
* `exists_exportAll_arena` — copying and moving between two arenas
-/

namespace DocPath.Tree

open DocPath.Path (Segment)

variable {t t' other : Tree} {s : Segment} {id : NodeId} {v : Json} {required : Option Kind}

/-- So few slots, and so few releases of each, that no handle comes back and that the keys of
sequences are integers of 64 bits. -/
structure Regular (t : Tree) : Prop where
  unwrapped : t.slots.Unwrapped
  size_le : t.slots.size ≤ 0x8000000000000000

theorem Leads.regular (h : t.Leads t') (h' : t'.Regular) : t.Regular :=
  ⟨h.le_slots.unwrapped h'.unwrapped, h.le_slots.size.trans h'.size_le⟩

/-! ### What is done in an arena -/

/-- What is done ends in the arena of a tree to which changes lead, and where that is regular, it is
the given one. -/
def Becomes (t : Tree) (done : Option Arena) (t₁ : Tree) : Prop :=
  ∃ t', done = some t'.arena ∧ t.Leads t' ∧ (t'.Regular → t' = t₁)

/-- What is done ends with a result. -/
def Gives {α : Type} (t : Tree) (done : Option (α × Arena)) (result : α × Tree) : Prop :=
  ∃ a t', done = some (a, t'.arena) ∧ t.Leads t' ∧ (t'.Regular → (a, t') = result)

/-- What is done ends with handles that were live some time. -/
def Finds (t : Tree) (done : Option (List NodeId × Arena)) (result : List NodeId × Tree) : Prop :=
  ∃ found t', done = some (found, t'.arena) ∧ t.Leads t' ∧ (∀ id ∈ found, t'.Seen id) ∧
    (t'.Regular → (found, t') = result)

/-- What is done is refused, or it ends. -/
inductive Attempts (t : Tree) : Option (Except PathError Arena) → Except PathError Tree → Prop
  | refused (e : PathError) : Attempts t (some (.error e)) (.error e)
  | done {t' t₁ : Tree} (hl : t.Leads t') (heq : t'.Regular → t' = t₁) :
    Attempts t (some (.ok t'.arena)) (.ok t₁)

theorem Becomes.of_eq {done : Option Arena} {t₁ : Tree} (h : done = some t₁.arena)
    (hl : t.Leads t₁) : t.Becomes done t₁ :=
  ⟨t₁, h, hl, fun _ ↦ rfl⟩

/-- One thing after the other. -/
theorem Becomes.bind {done : Option Arena} {t₁ : Tree} (h : t.Becomes done t₁)
    (next : Arena → Option Arena) (result : Tree → Tree)
    (hnext : ∀ t', t.Leads t' → t'.Becomes (next t'.arena) (result t')) :
    t.Becomes (done.bind next) (result t₁) := by
  obtain ⟨t', rfl, hl, heq⟩ := h
  obtain ⟨t'', hdone, hl', heq'⟩ := hnext t' hl
  exact ⟨t'', hdone, hl.trans hl', fun hreg ↦
    (heq' hreg).trans (congrArg result (heq (hl'.regular hreg)))⟩

/-- Entries are treated in the arena as they are in the tree if each of them is. -/
theorem gives_forEach {α : Type} {step : Tree → α → Except PathError Tree}
    {step' : Arena → α → Option (Except PathError Arena)} {entries : List α}
    (hstep : ∀ a ∈ entries, ∀ t : Tree, t.Sound → t.Attempts (step' t.arena a) (step t a))
    (h : t.Sound) : t.Gives (t.arena.forEach step' entries) (t.forEach step entries) := by
  induction entries generalizing t with
  | nil => exact ⟨_, t, rfl, .refl t, fun _ ↦ rfl⟩
  | cons a rest ih =>
    obtain ⟨hfirst, hrest⟩ := List.forall_mem_cons.1 hstep
    rw [Arena.forEach]
    generalize hdone : step' t.arena a = done
    generalize hresult : step t a = result
    cases hdone ▸ hresult ▸ hfirst t h with
    | refused e =>
      exact ⟨_, t, rfl, .refl t, fun _ ↦ (forEach_cons_error hresult rest).symm⟩
    | @done t' t₁ hl heq =>
      obtain ⟨r, t'', hrun, hl', heq'⟩ := ih hrest (hl.sound h)
      refine ⟨r, t'', hrun, hl.trans hl', fun hreg ↦ ?_⟩
      rw [heq' hreg, heq (hl'.regular hreg), forEach_cons_ok hresult]

/-- What exporting makes of the tree that is exported from, and of the one exported to. -/
structure Exported (moving : Bool) (t other : Tree) (paths : List String)
    (r : Except PathError Unit) (t' other' : Tree) : Prop where
  leads : t.Leads t'
  leads_other : other.Leads other'
  reachable : t'.Regular → t.Reachable → t'.Reachable
  reachable_other : other'.Regular → other.Reachable → other'.Reachable
  eq_exportAll : t'.Regular → other'.Regular →
    (r, t', other') = exportAll moving t other paths

/-- What is exported from the first path, and then from the others. -/
theorem Exported.cons {moving : Bool} {t t₁ t' other other₁ other' : Tree} {path : String}
    {rest : List String} {r : Except PathError Unit} (h : Exported moving t₁ other₁ rest r t' other')
    (hl : t.Leads t₁) (hl' : other.Leads other₁)
    (hreachable : t₁.Regular → t.Reachable → t₁.Reachable)
    (hreachable' : other₁.Regular → other.Reachable → other₁.Reachable)
    (hfirst : t₁.Regular → other₁.Regular →
      exportAll moving t other (path :: rest) = exportAll moving t₁ other₁ rest) :
    Exported moving t other (path :: rest) r t' other' where
  leads := hl.trans h.leads
  leads_other := hl'.trans h.leads_other
  reachable hreg ht := h.reachable hreg (hreachable (h.leads.regular hreg) ht)
  reachable_other hreg ht := h.reachable_other hreg (hreachable' (h.leads_other.regular hreg) ht)
  eq_exportAll hreg hreg' := (h.eq_exportAll hreg hreg').trans
    (hfirst (h.leads.regular hreg) (h.leads_other.regular hreg')).symm

theorem reachable_killAll (h : t.Reachable) (ids : List NodeId) : (t.killAll ids).2.Reachable := by
  induction ids generalizing t with
  | nil => exact h
  | cons id rest ih => exact ih (h.kill id)

namespace Sound

/-! ### Setting -/

theorem foldlM_replaceWith_arena (h : t.Sound) (hv : v.Distinct) (ids : List NodeId) :
    ids.foldlM (fun A id ↦ A.replaceWith id v) t.arena = some (t.replaceEach ids v).arena := by
  induction ids generalizing t with
  | nil => rfl
  | cons id rest ih =>
    rw [List.foldlM_cons, h.replaceWith_arena, Option.bind_eq_bind, Option.bind_some,
      ih (h.replaceWith id hv)]
    rfl

theorem attempts_setOne (h : t.Sound) {entry : String × Json} (hv : entry.2.Distinct) :
    t.Attempts (t.arena.setOne entry) (t.setOne entry) := by
  rw [Arena.setOne, h.find_arena, find_eq, setOne_eq]
  cases hp : Path.parse entry.1 with
  | error e => exact .refused e
  | ok p =>
    have hfound := leads_findPath hp h
    simp only [Except.map, Option.bind_eq_bind, Option.bind_some,
      (hfound.sound h).foldlM_replaceWith_arena hv]
    exact .done (hfound.trans (leads_replaceEach _ _ hv)) fun _ ↦ rfl

theorem gives_set (h : t.Sound) {entries : List (String × Json)} (hv : DistinctValues entries) :
    t.Gives (t.arena.set entries) (t.set entries) :=
  gives_forEach (fun entry hentry _ ht ↦ ht.attempts_setOne (hv entry hentry)) h

/-! ### Bridging -/

theorem literalKey?_arena (h : t.Sound) (s : Segment) (id : NodeId) :
    t.arena.literalKey? s id = (t.node? id).bind (literalKey? s) := by
  rw [Arena.literalKey?, h.kind?_arena, h.children_arena]
  cases hn : t.node? id with
  | none =>
    rw [kind?, hn]
    cases s.selector <;> exact ite_self none
  | some n =>
    rw [kind?_of_node? hn, listing_of_node? hn, Node.length_listing, Option.bind_some]
    unfold literalKey?
    cases n <;> cases s.selector <;> simp [Node.kind, Node.children]

/-- The handle of a child that was put in is live. -/
theorem mem_ids_insertChild (h : t.Sound) {key : Key} (hv : v.Distinct) {c : NodeId}
    (hc : (t.insertChild id key v).1 = some c) : c ∈ (t.insertChild id key v).2.ids := by
  rcases h.insertChild_cases id key hv with heq | ⟨c', hc', hinserted⟩
  · rw [heq] at hc
    cases hc
  · obtain rfl : c' = c := Option.some.inj (hc'.symm.trans hc)
    exact contains_iff.1 hinserted.contains_self

theorem finds_reachOrCreate (h : t.Sound) (hs : s.selector.WellFormed) (hv : v.Distinct)
    (required : Option Kind) (hid : t.Seen id) :
    t.Finds (t.arena.reachOrCreate s required v id) (t.reachOrCreate s required v id) := by
  rw [Arena.reachOrCreate, h.literalKey?_arena]
  cases hkey : (t.node? id).bind (literalKey? s) with
  | none =>
    obtain ⟨found, t', hdone, hcollected⟩ := h.exists_collect_arena hs id
    rw [reachOrCreate_of_none hkey]
    exact ⟨found, t', hdone, hcollected.leads, fun i hi ↦ .inl (hcollected.live i hi),
      fun hreg ↦ hcollected.eq_segmentMatches hid hreg.unwrapped⟩
  | some key =>
    dsimp only
    rw [reachOrCreate_of_some hkey, h.child?_arena]
    cases hchild : t.child? id key true with
    | some child =>
      refine ⟨[child], t, rfl, .refl t, fun i hi ↦ .inl ?_, fun _ ↦ rfl⟩
      obtain rfl := List.mem_singleton.1 hi
      obtain ⟨c, hc, rfl⟩ := Option.map_eq_some_iff.1 hchild
      exact mem_ids_of_node? (h.node?_of_child? hc).1
    | none =>
      cases required with
      | none =>
        dsimp only
        rw [h.insertChild_arena]
        exact ⟨[], _, rfl, leads_insertChild t id key hv, by simp, fun _ ↦ rfl⟩
      | some kind =>
        dsimp only
        rw [h.insertChild_arena]
        exact ⟨_, _, rfl, leads_insertChild t id key (distinct_empty kind), fun i hi ↦
          .inl (h.mem_ids_insertChild (distinct_empty kind) (Option.mem_toList.1 hi)), fun _ ↦ rfl⟩

theorem foldlM_prepareOne_arena (h : t.Sound) (hv : v.Distinct) (required : Option Kind)
    (ids : List NodeId) :
    ids.foldlM (Arena.prepareOne required v) t.arena = some (prepare required v t ids).arena := by
  induction ids generalizing t with
  | nil => rfl
  | cons id rest ih =>
    rw [List.foldlM_cons]
    cases required with
    | none =>
      rw [Arena.prepareOne, h.replaceWith_arena]
      exact ih (h.replaceWith id hv)
    | some kind =>
      rw [Arena.prepareOne, h.kind?_arena, prepare]
      split
      · exact ih h
      · rw [h.replaceWith_arena]
        exact ih (h.replaceWith id (distinct_empty kind))

theorem finds_bridgeSegment (h : t.Sound) (hs : s.selector.WellFormed) (hv : v.Distinct)
    (required : Option Kind) {ids : List NodeId} (hids : ∀ id ∈ ids, t.Seen id) :
    t.Finds (t.arena.bridgeSegment s required v ids) (t.bridgeSegment s required v ids) := by
  induction ids generalizing t with
  | nil => exact ⟨[], t, rfl, .refl t, by simp, fun _ ↦ rfl⟩
  | cons id rest ih =>
    obtain ⟨hid, hrest⟩ := List.forall_mem_cons.1 hids
    obtain ⟨targets, t₁, hreached, hl₁, hseen, heq₁⟩ := h.finds_reachOrCreate hs hv required hid
    have hsound₁ := hl₁.sound h
    have hl₂ : t₁.Leads (prepare required v t₁ targets) := leads_prepare t₁ required hv targets
    have hl := hl₁.trans hl₂
    obtain ⟨others, t₃, hothers, hl₃, hseen', heq₃⟩ := ih (hl.sound h) fun i hi ↦
      hl.seen h (hrest i hi)
    have hsound₂ := hl.sound h
    rw [Arena.bridgeSegment, hreached, Option.bind_eq_bind, Option.bind_some]
    dsimp only
    rw [hsound₁.foldlM_prepareOne_arena hv, Option.bind_eq_bind, Option.bind_some, hothers]
    refine ⟨_, t₃, rfl, hl.trans hl₃, List.forall_mem_append.2 ⟨fun i hi ↦ ?_, hseen'⟩,
      fun hreg ↦ ?_⟩
    · split at hi
      · exact hl₃.seen hsound₂ (hl₂.seen hsound₁ (hseen i hi))
      · cases hi
    · have hreg₁ := (hl₂.trans hl₃).regular hreg
      rw [bridgeSegment_cons, ← heq₁ hreg₁]
      dsimp only
      rw [← heq₃ hreg]

theorem becomes_bridgeFrom (h : t.Sound) {segments : List Segment}
    (hs : ∀ s ∈ segments, s.selector.WellFormed) (hv : v.Distinct) {ids : List NodeId}
    (hids : ∀ id ∈ ids, t.Seen id) :
    t.Becomes (t.arena.bridgeFrom v ids segments) (t.bridgeFrom v ids segments) := by
  induction segments generalizing t ids with
  | nil => exact .of_eq rfl (.refl t)
  | cons s rest ih =>
    obtain ⟨hfirst, hrest⟩ := List.forall_mem_cons.1 hs
    obtain ⟨next, t', hdone, hl, hseen, heq⟩ :=
      h.finds_bridgeSegment hfirst hv (rest.head?.map containerFor) hids
    rw [Arena.bridgeFrom, hdone, Option.bind_eq_bind, Option.bind_some, bridgeFrom_cons]
    dsimp only
    split
    · rename_i hempty
      refine ⟨t', rfl, hl, fun hreg ↦ ?_⟩
      rw [← heq hreg, if_pos hempty]
    · rename_i hempty
      obtain ⟨t'', hrun, hl', heq'⟩ := ih (hl.sound h) hrest hseen
      refine ⟨t'', hrun, hl.trans hl', fun hreg ↦ ?_⟩
      rw [← heq (hl'.regular hreg), if_neg hempty, heq' hreg]

theorem prepareRoot_arena (h : t.Sound) (s : Segment) :
    t.arena.prepareRoot s = some (t.prepareRoot s).arena := by
  have hroot : t.arena.root = t.root.id := rfl
  have hkind : t.kind? t.root.id = some t.root.kind :=
    kind?_of_node? (h.node?_of_mem_tops t.root_mem_tops)
  rw [Arena.prepareRoot, hroot, h.kind?_arena, hkind, Tree.prepareRoot]
  simp only [Option.some.injEq]
  split
  · exact h.replaceWith_arena _ _
  · rfl

theorem becomes_writeThrough (h : t.Sound) {p : Path}
    (hp : ∀ s ∈ p.segments, s.selector.WellFormed) (hv : v.Distinct) :
    t.Becomes (t.arena.writeThrough p v) (t.writeThrough p v) := by
  rw [Arena.writeThrough]
  cases hsegments : p.segments with
  | nil =>
    rw [writeThrough_nil t hsegments]
    exact .of_eq (h.replaceWith_arena _ v) (.single (.replaceWith t _ hv))
  | cons s rest =>
    rw [hsegments] at hp
    rw [writeThrough_cons t s hsegments]
    have hl := t.leads_prepareRoot s
    obtain ⟨t', hdone, hl', heq⟩ := (hl.sound h).becomes_bridgeFrom hp hv fun i hi ↦
      .inl ((List.mem_singleton.1 hi).symm ▸ (t.prepareRoot s).root_id_mem_ids)
    refine ⟨t', ?_, hl.trans hl', heq⟩
    dsimp only
    rw [h.prepareRoot_arena, Option.bind_eq_bind, Option.bind_some]
    exact hdone

theorem becomes_bridgePath (h : t.Sound) {raw : String} {p : Path} (hp : Path.parse raw = .ok p)
    (hv : v.Distinct) : t.Becomes (t.arena.bridgePath p v) (t.bridgePath p v) :=
  (h.becomes_writeThrough (Path.wellFormed_of_parse hp) hv).bind (Arena.releaseScratch · [])
    (fun t ↦ t.releaseScratch []) fun _ hl ↦
      .of_eq ((hl.sound h).releaseScratch_arena []) (.single (.releaseScratch _ []))

theorem attempts_bridgeOne (h : t.Sound) {entry : String × Json} (hv : entry.2.Distinct) :
    t.Attempts (t.arena.bridgeOne entry) (t.bridgeOne entry) := by
  rw [Arena.bridgeOne, bridgeOne_eq]
  cases hp : Path.parse entry.1 with
  | error e => exact .refused e
  | ok p =>
    obtain ⟨t', hdone, hl, heq⟩ := h.becomes_bridgePath hp hv
    dsimp only
    rw [hdone]
    exact .done hl heq

theorem gives_bridge (h : t.Sound) {entries : List (String × Json)}
    (hv : DistinctValues entries) : t.Gives (t.arena.bridge entries) (t.bridge entries) :=
  gives_forEach (fun entry hentry _ ht ↦ ht.attempts_bridgeOne (hv entry hentry)) h

/-! ### Removing and moving -/

theorem gives_kill (h : t.Sound) (id : NodeId) : t.Gives (t.arena.kill id) (t.kill id) := by
  have hl : t.Leads (t.killByKeys id).2 := by
    unfold killByKeys
    split
    · split
      · exact .refl t
      · split
        · exact .refl t
        · exact .single (.deleteChild ..)
    · exact .refl t
  exact ⟨_, _, h.killByKeys_arena id, hl, fun hreg ↦
    h.killByKeys_eq_kill (h.inRange_trail (hl.regular hreg).size_le id)⟩

theorem gives_killAll (h : t.Sound) (ids : List NodeId) :
    t.Gives (t.arena.killAll ids) (t.killAll ids) := by
  induction ids generalizing t with
  | nil => exact ⟨0, t, rfl, .refl t, fun _ ↦ rfl⟩
  | cons id rest ih =>
    obtain ⟨killed, t', hdone, hl, heq⟩ := h.gives_kill id
    obtain ⟨count, t'', hrest, hl', heq'⟩ := ih (hl.sound h)
    rw [Arena.killAll, hdone, Option.bind_eq_bind, Option.bind_some]
    dsimp only
    rw [hrest]
    refine ⟨_, t'', rfl, hl.trans hl', fun hreg ↦ ?_⟩
    rw [killAll_cons, ← heq (hl'.regular hreg)]
    dsimp only
    rw [← heq' hreg]

theorem becomes_bridgeEach (h : t.Sound) {raw : String} {p : Path} (hp : Path.parse raw = .ok p)
    {values : List Json} (hv : ∀ v ∈ values, v.Distinct) :
    t.Becomes (values.foldlM (fun A v ↦ A.bridgePath p v) t.arena) (t.bridgeEach p values) := by
  induction values generalizing t with
  | nil => exact .of_eq rfl (.refl t)
  | cons v rest ih =>
    obtain ⟨hfirst, hrest⟩ := List.forall_mem_cons.1 hv
    exact (h.becomes_bridgePath hp hfirst).bind (rest.foldlM fun A v ↦ A.bridgePath p v)
      (bridgeEach · p rest) fun _ hl ↦ ih (hl.sound h) hrest

theorem attempts_transferOne (h : t.Sound) (all moving : Bool) (entry : String × String) :
    t.Attempts (t.arena.transferOne all moving entry) (t.transferOne all moving entry) := by
  rw [Arena.transferOne, transferOne_eq]
  cases htarget : Path.parse entry.2 with
  | error e => exact .refused e
  | ok target =>
    dsimp only
    rw [h.find_arena, find_eq]
    cases horigin : Path.parse entry.1 with
    | error e => exact .refused e
    | ok origin =>
      have hfound := leads_findPath horigin h
      have hsound := hfound.sound h
      obtain ⟨t₁, hwritten, hl₁, heq₁⟩ := hsound.becomes_bridgeEach htarget
        (hsound.distinct_values (sources all (t.findPath origin).1))
      have hl := hfound.trans hl₁
      have hsources : (if all then (t.findPath origin).1 else (t.findPath origin).1.take 1) =
          sources all (t.findPath origin).1 := rfl
      have hresult : (do
          let target ← Except.ok target
          let origin ← Except.ok origin
          return transferPath all moving t origin target : Except PathError Tree) =
            .ok (transferPath all moving t origin target) := rfl
      rw [hresult, transferPath]
      simp only [Except.map, Option.bind_eq_bind, Option.bind_some, hsources,
        hsound.mapM_value_arena, hwritten]
      cases moving with
      | false => exact .done hl heq₁
      | true =>
        obtain ⟨count, t₂, hkilled, hl₂, heq₂⟩ :=
          (hl.sound h).gives_killAll (sources all (t.findPath origin).1)
        simp only [if_true, hkilled]
        refine .done (hl.trans hl₂) fun hreg ↦ ?_
        rw [← heq₁ (hl₂.regular hreg), ← heq₂ hreg]

theorem gives_transfer (h : t.Sound) (all moving : Bool) (entries : List (String × String)) :
    t.Gives (t.arena.transfer all moving entries) (transfer all moving t entries) :=
  gives_forEach (fun entry _ _ ht ↦ ht.attempts_transferOne all moving entry) h

theorem gives_deleteFrom (h : t.Sound) (count : Nat) (paths : List String) :
    t.Gives (t.arena.deleteFrom count paths) (t.deleteFrom count paths) := by
  induction paths generalizing t count with
  | nil => exact ⟨_, t, rfl, .refl t, fun _ ↦ rfl⟩
  | cons path rest ih =>
    rw [Arena.deleteFrom, h.find_arena, find_eq, deleteFrom_cons]
    cases hp : Path.parse path with
    | error e => exact ⟨_, t, rfl, .refl t, fun _ ↦ rfl⟩
    | ok p =>
      have hfound := leads_findPath hp h
      obtain ⟨killed, t₁, hkilled, hl₁, heq₁⟩ :=
        (hfound.sound h).gives_killAll (t.findPath p).1
      have hl := hfound.trans hl₁
      obtain ⟨r, t₂, hrest, hl₂, heq₂⟩ := ih (hl.sound h) (count + killed)
      simp only [Except.map, Option.bind_eq_bind, Option.bind_some, hkilled]
      refine ⟨r, t₂, hrest, hl.trans hl₂, fun hreg ↦ ?_⟩
      rw [← heq₁ (hl₂.regular hreg), heq₂ hreg]

theorem gives_delete (h : t.Sound) (paths : List String) :
    t.Gives (t.arena.delete paths) (t.delete paths) :=
  h.gives_deleteFrom 0 paths

/-! ### Between arenas -/

theorem reachable_exportNodes (h : t.Sound) (hother : other.Reachable) (ids : List NodeId) :
    (t.exportNodes other ids).2.Reachable := by
  induction ids generalizing other with
  | nil => exact hother
  | cons id rest ih =>
    rw [Tree.exportNodes]
    cases t.absolutePath? id with
    | none => exact ih hother
    | some path =>
      have hv : DistinctValues [(path, t.value id)] :=
        List.forall_mem_singleton.2 (h.distinct_view id)
      have hbridged := hother.bridge hv
      dsimp only
      split
      · rename_i hbridge
        rw [hbridge] at hbridged
        exact ih hbridged
      · rename_i hbridge
        rwa [hbridge] at hbridged

theorem gives_exportNodes (h : t.Sound) (hother : other.Sound) (ids : List NodeId) :
    other.Gives (t.arena.exportNodes other.arena ids) (t.exportNodes other ids) := by
  induction ids generalizing other with
  | nil => exact ⟨_, other, rfl, .refl other, fun _ ↦ rfl⟩
  | cons id rest ih =>
    rw [Arena.exportNodes, h.absolutePath_arena, Option.bind_eq_bind, Option.bind_some,
      Tree.exportNodes]
    cases t.absolutePath? id with
    | none => exact ih hother
    | some path =>
      have hv : DistinctValues [(path, t.value id)] :=
        List.forall_mem_singleton.2 (h.distinct_view id)
      obtain ⟨r, other', hdone, hl, heq⟩ := hother.gives_bridge hv
      simp only [h.value_arena, Option.bind_eq_bind, Option.bind_some, hdone]
      cases r with
      | error e =>
        refine ⟨_, other', rfl, hl, fun hreg ↦ ?_⟩
        rw [← heq hreg]
      | ok u =>
        obtain ⟨r, other'', hrest, hl', heq'⟩ := ih (hl.sound hother)
        refine ⟨r, other'', hrest, hl.trans hl', fun hreg ↦ ?_⟩
        rw [← heq (hl'.regular hreg), heq' hreg]

/-- Exporting ends in the arenas of two trees. -/
theorem exists_exportAll_arena (h : t.Sound) (hother : other.Sound) (moving : Bool)
    (paths : List String) :
    ∃ r t' other', Arena.exportAll moving t.arena other.arena paths =
        some (r, t'.arena, other'.arena) ∧ Exported moving t other paths r t' other' := by
  induction paths generalizing t other with
  | nil => exact ⟨_, t, other, rfl, .refl t, .refl other, fun _ ↦ id, fun _ ↦ id, fun _ _ ↦ rfl⟩
  | cons path rest ih =>
    rw [Arena.exportAll, h.find_arena]
    cases hfind : t.find path with
    | error e =>
      refine ⟨_, t, other, rfl, .refl t, .refl other, fun _ ↦ id, fun _ ↦ id, fun _ _ ↦ ?_⟩
      rw [Tree.exportAll, hfind]
    | ok found =>
      have hfound := leads_find hfind h
      have hsound := hfound.sound h
      obtain ⟨r, other₁, hdone, hl, heq⟩ := hsound.gives_exportNodes hother found.1
      have hreachable : other₁.Regular → other.Reachable → other₁.Reachable := fun hreg ho ↦ by
        have hexported := hsound.reachable_exportNodes ho found.1
        rwa [← heq hreg] at hexported
      simp only [Except.map, Option.bind_eq_bind, Option.bind_some, hdone]
      cases r with
      | error e =>
        refine ⟨_, found.2, other₁, rfl, hfound, hl, fun _ ht ↦ ht.find hfind, hreachable,
          fun _ hreg ↦ ?_⟩
        rw [Tree.exportAll, hfind]
        dsimp only
        rw [← heq hreg]
      | ok u =>
        cases moving with
        | false =>
          obtain ⟨r, t', other', hrest, hex⟩ := ih hsound (hl.sound hother)
          refine ⟨r, t', other', hrest, hex.cons hfound hl (fun _ ht ↦ ht.find hfind) hreachable
            fun _ hreg ↦ ?_⟩
          rw [Tree.exportAll, hfind]
          dsimp only
          rw [← heq hreg]
          rfl
        | true =>
          obtain ⟨count, t₁, hkilled, hl₁, heq₁⟩ := hsound.gives_killAll found.1
          obtain ⟨r, t', other', hrest, hex⟩ := ih (hl₁.sound hsound) (hl.sound hother)
          simp only [if_true, hkilled]
          refine ⟨r, t', other', hrest, hex.cons (hfound.trans hl₁) hl (fun hreg ht ↦ ?_) hreachable
            fun hreg hreg' ↦ ?_⟩
          · have hkept := reachable_killAll (ht.find hfind) found.1
            rwa [← heq₁ hreg] at hkept
          · rw [Tree.exportAll, hfind]
            dsimp only
            rw [← heq hreg', ← heq₁ hreg]
            rfl

end Sound

end DocPath.Tree

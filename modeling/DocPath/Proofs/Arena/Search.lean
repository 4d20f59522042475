import DocPath.Arena.Match
import DocPath.Proofs.Arena.Change
import DocPath.Proofs.Tree.Collect
import DocPath.Proofs.Tree.ReadOnly

/-!
# Searching in arenas

A search in the arena of a tree finds what the search in the tree finds, and leaves the arena of the
tree behind that the latter leaves. The arena is searched in one walk, which looks at a child, and
goes on below it before it looks at the next one; the rounds of the walk add up
(`foldlM_rounds`) to what the tree says of all that a segment looks at.

An operation that is invoked at a handle without a node may be given this very handle for its
result, and a recursive segment then goes on below it. So `Sound.collect_of_children` looks at what is
below the handle only after the operation, and says the same as the tree where the handle is live.

* `Sound.collect_arena` — one segment at a live handle
* `Sound.exists_collect_arena` — one segment at any handle
* `Sound.findFrom_arena`, `Sound.find_arena`, `Sound.findValues_arena` — paths
-/

namespace DocPath

namespace Path.Segment

/-- The nodes below a node at which an operation is invoked. -/
def targetsBelow (s : Segment) (n : Node) : List Node :=
  if s.recursive then n.descendants.filter Node.hasChildren else []

theorem targets_eq (s : Segment) (n : Node) : s.targets n = n :: s.targetsBelow n :=
  rfl

/-- Below a node, the operation is invoked at and below every child that has children. -/
theorem targetsBelow_eq (s : Segment) (n : Node) :
    s.targetsBelow n = n.children.flatMap fun child ↦
      if s.recursive && child.2.hasChildren then s.targets child.2 else [] := by
  unfold targetsBelow
  cases hrec : s.recursive with
  | false => simp
  | true =>
    have hchild : ∀ c : Node, (c :: c.descendants).filter Node.hasChildren =
        if c.hasChildren then s.targets c else [] := fun c ↦ by
      cases hc : c.hasChildren with
      | true => simp [hc, targets, hrec]
      | false =>
        have hnil : c.childNodes = [] := by simpa [Node.hasChildren, Node.childNodes] using hc
        rw [c.descendants_eq, hnil]
        simp [hc]
    rw [n.descendants_eq, if_pos rfl, List.filter_flatMap, Node.childNodes, List.flatMap_map]
    simp only [hchild, Bool.true_and]

theorem mem_descendants_of_mem_targetsBelow {s : Segment} {n m : Node}
    (h : m ∈ s.targetsBelow n) : m ∈ n.descendants := by
  unfold targetsBelow at h
  split at h
  · exact List.mem_of_mem_filter h
  · cases h

end Path.Segment

namespace Tree

open DocPath.Path (Segment)

variable {t : Tree} {s : Segment} {id : NodeId} {n : Node}

/-- Rounds of a loop in the arenas of trees, each of which does its part of what is done in the
trees, do all of it. -/
theorem foldlM_rounds {β γ : Type} (Inv : Tree → Prop) {run : Tree → List β → List NodeId × Tree}
    {round : List NodeId × Arena → γ → Option (List NodeId × Arena)} {part : γ → List β}
    (hnil : ∀ t, run t [] = ([], t))
    (happend : ∀ t bs bs', run t (bs ++ bs') =
      ((run t bs).1 ++ (run (run t bs).2 bs').1, (run (run t bs).2 bs').2))
    {items : List γ}
    (hround : ∀ c ∈ items, ∀ t found, Inv t →
      round (found, t.arena) c =
          some (found ++ (run t (part c)).1, (run t (part c)).2.arena) ∧
        Inv (run t (part c)).2)
    (ht : Inv t) (found : List NodeId) :
    items.foldlM round (found, t.arena) =
      some (found ++ (run t (items.flatMap part)).1, (run t (items.flatMap part)).2.arena) := by
  induction items generalizing t found with
  | nil => simp [hnil]
  | cons c rest ih =>
    obtain ⟨hfirst, hrest⟩ := List.forall_mem_cons.1 hround
    obtain ⟨heq, hinv⟩ := hfirst t found ht
    rw [List.foldlM_cons, heq, Option.bind_eq_bind, Option.bind_some, ih hrest hinv,
      List.flatMap_cons, happend, List.append_assoc]

/-- An operation at one handle is what a segment comes to that is not recursive. -/
theorem Reachable.special {operation : String} {args : List Json} (h : t.Reachable)
    (hs : s.selector = .special operation args) (hargs : ∀ arg ∈ args, arg.Distinct)
    (id : NodeId) : (t.special s operation args (t.view id)).2.Reachable := by
  have hwf : (show Segment from { s with recursive := false }).selector.WellFormed := by
    show s.selector.WellFormed
    rw [hs]
    exact hargs
  have hmatches := h.segmentMatches hwf id
  rw [Tree.segmentMatches] at hmatches
  dsimp only at hmatches
  rw [hs] at hmatches
  exact hmatches

theorem specials_append (t : Tree) (s : Segment) (operation : String) (args : List Json)
    (nodes others : List Node) :
    t.specials s operation args (nodes ++ others) =
      ((t.specials s operation args nodes).1 ++
          ((t.specials s operation args nodes).2.specials s operation args others).1,
        ((t.specials s operation args nodes).2.specials s operation args others).2) := by
  induction nodes generalizing t with
  | nil => rfl
  | cons n rest ih =>
    rw [List.cons_append, specials_cons, specials_cons, ih, List.append_assoc]

/-- What matching a segment at a handle makes of a tree in its arena. -/
structure Collected (t : Tree) (s : Segment) (id : NodeId) (found : List NodeId) (t' : Tree) :
    Prop where
  leads : t.Leads t'
  reachable : t.Reachable → t'.Reachable
  live : ∀ i ∈ found, i ∈ t'.ids
  /-- Unless the handle comes to life again, the matches are those of the tree. -/
  eq_segmentMatches : t.Seen id → t'.slots.Unwrapped → (found, t') = t.segmentMatches s id

namespace Sound

/-! ### One node -/

theorem evaluates_arena (h : t.Sound) (s : Segment) (id : NodeId) :
    t.arena.evaluates s id = some ((t.evaluates s id).1, (t.evaluates s id).2.arena) := by
  rw [Arena.evaluates, Tree.evaluates, Segment.verdict]
  cases s.formula with
  | none => rfl
  | some formula =>
    dsimp only
    rw [h.value_arena, Option.bind_eq_bind, Option.bind_some]
    cases formula.test (t.value id) <;> rfl

theorem filtered_arena (h : t.Sound) (s : Segment) (id : NodeId) :
    t.arena.filtered s id = some ((t.filtered s id).1, (t.filtered s id).2.arena) := by
  rw [Arena.filtered, h.evaluates_arena]
  rfl

theorem special_arena (h : t.Sound) (s : Segment) (operation : String) {args : List Json}
    (hargs : ∀ arg ∈ args, arg.Distinct) (id : NodeId) :
    t.arena.special s operation args id =
      some ((t.special s operation args (t.view id)).1,
        (t.special s operation args (t.view id)).2.arena) := by
  have hpick : ∀ picked : Option Key, (picked.bind fun key ↦ t.arena.child? id key true) =
      (picked.bind fun key ↦ (t.view id).child? key true).map Node.id := fun picked ↦ by
    simp only [h.child?_arena, Tree.child?, Option.map_bind, Function.comp_def]
  have hregistry : t.arena.registry = t.registry := rfl
  have hvalue : (t.view id).toJson = t.value id := rfl
  rw [Arena.special, h.value_arena, Option.bind_eq_bind, Option.bind_some, hregistry, special_eq,
    outcome, hvalue]
  cases t.registry.select operation (t.value id) args with
  | error e => rfl
  | ok picked =>
    dsimp only
    rw [hpick]
    cases picked.bind fun key ↦ (t.view id).child? key true with
    | some child => exact h.filtered_arena s child.id
    | none =>
      dsimp only [Option.map_none]
      cases hcall : t.registry.call operation (t.value id) args with
      | error e => rfl
      | ok v =>
        have hv : v.Distinct := Registry.distinct_of_call hcall (h.distinct_view id) hargs
        dsimp only
        rw [h.adoptScratch_arena]
        exact (h.adoptScratch hv).filtered_arena s _

/-! ### A walk -/

/-- Testing a child, where the tree tests the edge to it. -/
theorem visit_arena (h : t.Sound) (hn : t.node? n.id = some n) {child : Key × Node}
    (hchild : child ∈ n.children) (s : Segment) :
    t.arena.visit s n.id (child.1, child.2.id) =
      some ((t.tally s [⟨n.children.length, child.1, child.2⟩]).1,
        (t.tally s [⟨n.children.length, child.1, child.2⟩]).2.arena) := by
  have hentry : (child.1, child.2) ∈ n.children := hchild
  have hvalue : t.value child.2.id = child.2.toJson :=
    value_of_node? (h.node?_child hn hentry).1
  have hkeys : t.arena.keyMatches s n.id child.1 =
      s.takes ⟨n.children.length, child.1, child.2⟩ := by
    rw [Arena.keyMatches, h.children_arena, listing_of_node? hn, Node.length_listing]
    rfl
  rw [← visit_eq (e := ⟨n.children.length, child.1, child.2⟩) hvalue, Arena.visit, hkeys,
    Tree.visit]
  split
  · rw [h.evaluates_arena]
    rfl
  · rfl

theorem logged (h : t.Sound) (diagnostics : List Diagnostic) : (t.logged diagnostics).Sound :=
  ⟨h.handles, h.distinct⟩

theorem matchHere_of_ne_special (hs : ∀ operation args, s.selector ≠ .special operation args)
    (A : Arena) (id : NodeId) : A.matchHere s id = some ([], A) := by
  unfold Arena.matchHere
  split
  · rename_i hselector
    exact absurd hselector (hs _ _)
  · rfl

/-- A segment that invokes no operation is matched at a live handle in one walk. -/
theorem collect_of_ne_special (hs : ∀ operation args, s.selector ≠ .special operation args)
    (h : t.Sound) (hn : t.node? n.id = some n) :
    t.arena.collect s n.id =
      some ((t.tally s (s.reach n)).1, (t.tally s (s.reach n)).2.arena) := by
  have hreach : ∀ n : Node, s.reach n = n.children.flatMap fun child ↦
      ⟨n.children.length, child.1, child.2⟩ :: s.reachBelow child.2 := fun n ↦ by
    rw [Segment.reach_eq, Node.childEdges, List.flatMap_map]
  induction n using Node.induction_children generalizing t with
  | step n ih =>
    rw [Arena.collect, matchHere_of_ne_special hs, Option.bind_eq_bind, Option.bind_some,
      h.children_arena, listing_of_node? hn, Node.listing, List.foldlM_map, hreach]
    refine (foldlM_rounds (fun u ↦ u.Sound ∧ u.node? n.id = some n)
      (fun u ↦ u.tally_nil s) (fun u edges others ↦ u.tally_append s edges others)
      (fun child hchild u found hu ↦ ⟨?_, hu.1.logged _, hu.2⟩) ⟨h, hn⟩ []).trans rfl
    have htested : (u.tally s [⟨n.children.length, child.1, child.2⟩]).2.Sound := hu.1.logged _
    have hentry : (child.1, child.2) ∈ n.children := hchild
    have hlive : (u.tally s [⟨n.children.length, child.1, child.2⟩]).2.node? child.2.id =
        some child.2 := (hu.1.node?_child hu.2 hentry).1
    have hround : (⟨n.children.length, child.1, child.2⟩ : Edge) :: s.reachBelow child.2 =
        [⟨n.children.length, child.1, child.2⟩] ++ s.reachBelow child.2 := rfl
    have hmore : (u.tally s [⟨n.children.length, child.1, child.2⟩]).2.arena.hasChildren
        child.2.id = child.2.hasChildren := by
      rw [htested.hasChildren_arena, view_of_node? hlive]
    dsimp only
    rw [hu.1.visit_arena hu.2 hchild, Option.bind_some, hround, tally_append, reachBelow_eq]
    dsimp only
    rw [hmore]
    split
    · rw [ih child.2 (Node.mem_childNodes.2 ⟨child.1, hchild⟩) htested hlive]
      rfl
    · simp

section

variable {operation : String} {args : List Json}

/-- The key of a child is nothing to an operation. -/
private theorem visit_of_special (hs : s.selector = .special operation args) (A : Arena)
    (id : NodeId) (child : Key × NodeId) : A.visit s id child = some ([], A) := by
  have hno : A.keyMatches s id child.1 = false := by
    rw [Arena.keyMatches, hs]
    rfl
  rw [Arena.visit, hno]
  rfl

/-- An operation is invoked at a handle and below what it has there then, if that is done right at
the children. -/
private theorem collect_of_children (hs : s.selector = .special operation args)
    (hargs : ∀ arg ∈ args, arg.Distinct) (h : t.Sound) {first : Option NodeId × Tree}
    (hfirst : t.special s operation args (t.view id) = first)
    (hchildren : ∀ c ∈ (first.2.view id).childNodes, ∀ u : Tree, u.Sound →
      u.node? c.id = some c → u.arena.collect s c.id =
        some ((u.specials s operation args (s.targets c)).1,
          (u.specials s operation args (s.targets c)).2.arena)) :
    t.arena.collect s id =
      some (first.1.toList ++
          (first.2.specials s operation args (s.targetsBelow (first.2.view id))).1,
        (first.2.specials s operation args (s.targetsBelow (first.2.view id))).2.arena) := by
  have hleads : t.Leads first.2 := hfirst ▸ leads_special s hargs (h.distinct_view id)
  have hsound := hleads.sound h
  have hhere : t.arena.matchHere s id = some (first.1.toList, first.2.arena) := by
    rw [Arena.matchHere, hs]
    dsimp only
    rw [h.special_arena s operation hargs, hfirst]
    rfl
  have hlive : ∀ child ∈ (first.2.view id).children, first.2.node? child.2.id = some child.2 :=
    fun child hchild ↦ hsound.node?_of_mem_view
      (Node.mem_descendants_of_mem_childNodes (Node.mem_childNodes.2 ⟨child.1, hchild⟩))
  rw [Arena.collect, hhere, Option.bind_eq_bind, Option.bind_some, hsound.children_arena, listing,
    Node.listing, List.foldlM_map, s.targetsBelow_eq]
  refine foldlM_rounds (fun u ↦ u.Sound ∧ ∀ child ∈ (first.2.view id).children,
      u.node? child.2.id = some child.2)
    (fun u ↦ rfl) (fun u ↦ u.specials_append s operation args) (fun child hchild u found hu ↦ ?_)
    ⟨hsound, hlive⟩ _
  have hnode := hu.2 child hchild
  have hmore : u.arena.hasChildren child.2.id = child.2.hasChildren := by
    rw [hu.1.hasChildren_arena, view_of_node? hnode]
  dsimp only
  rw [visit_of_special hs, Option.bind_some]
  dsimp only
  rw [hmore]
  split
  · have hdistinct : ∀ m ∈ s.targets child.2, m.toJson.Distinct := fun m hm ↦
      distinct_of_mem_targets s hm (hu.1.distinct_of_node? hnode)
    have hgrows := u.grows_specials s operation args (s.targets child.2)
    refine ⟨?_, (leads_specials s hargs hdistinct).sound hu.1, fun c hc ↦ ?_⟩
    · rw [hchildren child.2 (Node.mem_childNodes.2 ⟨child.1, hchild⟩) u hu.1 hnode]
      rfl
    · rw [hgrows.node?_eq (mem_ids_of_node? (hu.2 c hc))]
      exact hu.2 c hc
  · exact ⟨by simp [specials], hu⟩

/-- An operation is invoked at a live handle and below it. -/
theorem collect_special (hs : s.selector = .special operation args)
    (hargs : ∀ arg ∈ args, arg.Distinct) (h : t.Sound) (hn : t.node? n.id = some n) :
    t.arena.collect s n.id =
      some ((t.specials s operation args (s.targets n)).1,
        (t.specials s operation args (s.targets n)).2.arena) := by
  induction n using Node.induction_children generalizing t with
  | step n ih =>
    have hview : (t.special s operation args n).2.view n.id = n := by
      rw [(t.grows_special s operation args n).view_eq (mem_ids_of_node? hn), view_of_node? hn]
    have hfirst : t.special s operation args (t.view n.id) = t.special s operation args n := by
      rw [view_of_node? hn]
    rw [h.collect_of_children hs hargs hfirst (by rw [hview]; exact fun c hc u hu ↦ ih c hc hu),
      hview]
    rfl

end

theorem segmentMatches_of_special (hs : s.selector = .special operation args) (t : Tree)
    (id : NodeId) : t.segmentMatches s id = t.specials s operation args (s.targets (t.view id)) := by
  unfold segmentMatches
  rw [hs]

/-- A segment is matched in the arena at a live handle as it is in the tree. -/
theorem collect_arena (h : t.Sound) (hs : s.selector.WellFormed) (hid : id ∈ t.ids) :
    t.arena.collect s id =
      some ((t.segmentMatches s id).1, (t.segmentMatches s id).2.arena) := by
  obtain ⟨n, hn⟩ := exists_node? hid
  obtain rfl := id_of_node? hn
  by_cases hspecial : ∃ operation args, s.selector = .special operation args
  · obtain ⟨operation, args, hselector⟩ := hspecial
    rw [hselector] at hs
    rw [h.collect_special hselector hs hn, segmentMatches_of_special hselector, view_of_node? hn]
  · have hplain : ∀ operation args, s.selector ≠ .special operation args :=
      fun operation args hselector ↦ hspecial ⟨operation, args, hselector⟩
    rw [h.collect_of_ne_special hplain hn, segmentMatches_of_ne_special hplain, view_of_node? hn]
    rfl

/-- Whatever an operation gives at live nodes, one after the other, can be had from segments. -/
private theorem reachable_specials (hs : s.selector = .special operation args)
    (hargs : ∀ arg ∈ args, arg.Distinct) (h : t.Reachable) {nodes : List Node}
    (hnodes : ∀ m ∈ nodes, t.node? m.id = some m) :
    (t.specials s operation args nodes).2.Reachable := by
  induction nodes generalizing t with
  | nil => exact h
  | cons m rest ih =>
    obtain ⟨hm, hrest⟩ := List.forall_mem_cons.1 hnodes
    have hfirst := h.special hs hargs m.id
    have hgrows := t.grows_special s operation args m
    rw [view_of_node? hm] at hfirst
    exact ih hfirst fun m' hm' ↦
      (hgrows.node?_eq (mem_ids_of_node? (hrest m' hm'))).trans (hrest m' hm')

/-- What is found at a live handle is what the tree says. -/
theorem collected_segmentMatches (h : t.Sound) (hs : s.selector.WellFormed) (id : NodeId) :
    t.Collected s id (t.segmentMatches s id).1 (t.segmentMatches s id).2 where
  leads := leads_segmentMatches hs h id
  reachable ht := ht.segmentMatches hs id
  live := whileHeld_live.segmentMatches h hs id
  eq_segmentMatches _ _ := rfl

/-- An operation at a handle without a node, which may get a node in this way. -/
private theorem collected_of_special (hs : s.selector = .special operation args)
    (hargs : ∀ arg ∈ args, arg.Distinct) (h : t.Sound) (hid : id ∉ t.ids)
    {first : Option NodeId × Tree} (hfirst : t.special s operation args (t.view id) = first) :
    t.Collected s id
      (first.1.toList ++
        (first.2.specials s operation args (s.targetsBelow (first.2.view id))).1)
      (first.2.specials s operation args (s.targetsBelow (first.2.view id))).2 := by
  have hleads : t.Leads first.2 := hfirst ▸ leads_special s hargs (h.distinct_view id)
  have hsound := hleads.sound h
  have hview : t.view id = .scalar id .null := by rw [view, node?_eq_none.2 hid]; rfl
  have hbelow : ∀ m ∈ s.targetsBelow (first.2.view id), m ∈ (first.2.view id).descendants :=
    fun _ ↦ Segment.mem_descendants_of_mem_targetsBelow
  have hdistinct : ∀ m ∈ s.targetsBelow (first.2.view id), m.toJson.Distinct := fun m hm ↦
    Node.distinct_of_mem_descendants (hbelow m hm) (hsound.distinct_view id)
  have hrest : first.2.Leads (first.2.specials s operation args
      (s.targetsBelow (first.2.view id))).2 := leads_specials s hargs hdistinct
  constructor
  case leads => exact hleads.trans hrest
  case reachable =>
    intro ht
    have hreachable : first.2.Reachable := hfirst ▸ ht.special hs hargs id
    exact reachable_specials hs hargs hreachable fun m hm ↦ hsound.node?_of_mem_view (hbelow m hm)
  case live =>
    refine List.forall_mem_append.2 ⟨fun i hi ↦ ?_, ?_⟩
    · have hnone : ∀ c ∈ (t.view id).childNodes, c.id ∈ t.ids := by
        simp [hview, Node.childNodes, Node.children]
      have hlive : ∀ i ∈ (t.special s operation args (t.view id)).1,
          i ∈ (t.special s operation args (t.view id)).2.ids :=
        whileHeld_live.special h hargs (h.distinct_view id) hnone
      rw [hfirst] at hlive
      exact (first.2.grows_specials s operation args _).ids_subset
        (hlive i (Option.mem_toList.1 hi))
    · exact whileHeld_live.specials hsound hargs hdistinct fun m hm c hc ↦
        whileHeld_live.below hsound (Node.descendants_subset_of_mem
          (List.mem_cons_of_mem _ (hbelow m hm)) (Node.mem_descendants_of_mem_childNodes hc))
  case eq_segmentMatches =>
    intro hseen hw
    have hgone : id ∉ first.2.ids := fun hlive ↦
      hid (hleads.mem_ids_of_seen h (hrest.le_slots.unwrapped hw) hseen hlive)
    have hview' : first.2.view id = .scalar id .null := by rw [view, node?_eq_none.2 hgone]; rfl
    have hnil : s.targetsBelow (.scalar id .null) = [] := by
      simp [Segment.targetsBelow, Node.descendants, Node.edges]
    rw [segmentMatches_of_special hs, hview, Segment.targets_eq, ← hview, specials_cons, hfirst,
      hview', hview, hnil]

/-- Matching a segment ends at any handle. -/
theorem exists_collect_arena (h : t.Sound) (hs : s.selector.WellFormed) (id : NodeId) :
    ∃ found t', t.arena.collect s id = some (found, t'.arena) ∧ t.Collected s id found t' := by
  by_cases hid : id ∈ t.ids
  · exact ⟨_, _, h.collect_arena hs hid, h.collected_segmentMatches hs id⟩
  by_cases hspecial : ∃ operation args, s.selector = .special operation args
  · obtain ⟨operation, args, hselector⟩ := hspecial
    rw [hselector] at hs
    exact ⟨_, _, h.collect_of_children hselector hs rfl fun c _ u hu hc ↦
      hu.collect_special hselector hs hc, h.collected_of_special hselector hs hid rfl⟩
  · have hplain : ∀ operation args, s.selector ≠ .special operation args :=
      fun operation args hselector ↦ hspecial ⟨operation, args, hselector⟩
    have hview : t.view id = .scalar id .null := by rw [view, node?_eq_none.2 hid]; rfl
    have hchildren : t.arena.children id = [] := by
      rw [h.children_arena, listing, hview]
      rfl
    have hnone : t.segmentMatches s id = ([], t) := by
      rw [segmentMatches_of_ne_special hplain, hview, Segment.reach_eq]
      exact t.tally_nil s
    refine ⟨_, _, ?_, h.collected_segmentMatches hs id⟩
    rw [Arena.collect, matchHere_of_ne_special hplain, Option.bind_eq_bind, Option.bind_some,
      hchildren, hnone]
    rfl

/-! ### Paths -/

theorem collectAll_arena (h : t.Sound) (hs : s.selector.WellFormed) {ids : List NodeId}
    (hids : ∀ id ∈ ids, id ∈ t.ids) :
    t.arena.collectAll s ids =
      some ((t.segmentMatchesAll s ids).1, (t.segmentMatchesAll s ids).2.arena) := by
  induction ids generalizing t with
  | nil => rfl
  | cons id rest ih =>
    obtain ⟨hid, hrest⟩ := List.forall_mem_cons.1 hids
    have hfirst := leads_segmentMatches hs h id
    have hgrows := t.grows_segmentMatches s id
    rw [Arena.collectAll, h.collect_arena hs hid, Option.bind_eq_bind, Option.bind_some]
    dsimp only
    rw [ih (hfirst.sound h) fun i hi ↦ hgrows.ids_subset (hrest i hi)]
    rfl

theorem walk_arena (h : t.Sound) {segments : List Segment}
    (hs : ∀ s ∈ segments, s.selector.WellFormed) {ids : List NodeId}
    (hids : ∀ id ∈ ids, id ∈ t.ids) :
    t.arena.walk ids segments = some ((t.walk ids segments).1, (t.walk ids segments).2.arena) := by
  induction segments generalizing t ids with
  | nil => rfl
  | cons s rest ih =>
    obtain ⟨hfirst, hrest⟩ := List.forall_mem_cons.1 hs
    have hsound := (leads_segmentMatchesAll hfirst h ids).sound h
    have hfound := whileHeld_live.segmentMatchesAll h hfirst ids
    rw [Arena.walk, h.collectAll_arena hfirst hids, Option.bind_eq_bind, Option.bind_some, walk_cons]
    dsimp only
    rw [hsound.releaseScratch_arena, Option.bind_eq_bind, Option.bind_some]
    split
    · rfl
    · exact ih (hsound.releaseScratch _) hrest fun i hi ↦ mem_ids_releaseScratch hi (hfound i hi)

theorem findFrom_arena (h : t.Sound) {p : Path} (hp : ∀ s ∈ p.segments, s.selector.WellFormed)
    (start : NodeId) :
    t.arena.findFrom p start = some ((t.findFrom p start).1, (t.findFrom p start).2.arena) := by
  have hsound := h.releaseScratch [start]
  rw [Arena.findFrom, h.releaseScratch_arena, Option.bind_eq_bind, Option.bind_some,
    hsound.contains_arena, Tree.findFrom]
  split
  · rename_i hlive
    exact hsound.walk_arena hp fun i hi ↦ by
      rw [List.mem_singleton.1 hi]
      exact contains_iff.1 hlive
  · rfl

theorem findPath_arena (h : t.Sound) {raw : String} {p : Path} (hp : Path.parse raw = .ok p) :
    t.arena.findPath p = some ((t.findPath p).1, (t.findPath p).2.arena) :=
  h.findFrom_arena (Path.wellFormed_of_parse hp) t.root.id

theorem find_arena (h : t.Sound) (path : String) :
    t.arena.find path = some ((t.find path).map fun found ↦ (found.1, found.2.arena)) := by
  rw [Arena.find, find_eq]
  cases hp : Path.parse path with
  | error e => rfl
  | ok p =>
    dsimp only
    rw [h.findPath_arena hp]
    rfl

theorem mapM_value_arena (h : t.Sound) (ids : List NodeId) :
    ids.mapM t.arena.value = some (ids.map t.value) := by
  induction ids with
  | nil => rfl
  | cons id rest ih =>
    rw [List.mapM_cons, h.value_arena, ih]
    rfl

theorem findValues_arena (h : t.Sound) (path : String) :
    t.arena.findValues path =
      some ((t.findValues path).map fun found ↦ (found.1, found.2.arena)) := by
  rw [Arena.findValues, h.find_arena, findValues_eq, find_eq]
  cases hp : Path.parse path with
  | error e => rfl
  | ok p =>
    have hsound := (leads_findPath hp h).sound h
    simp only [Except.map, Option.bind_eq_bind, Option.bind_some, hsound.mapM_value_arena,
      hsound.releaseScratch_arena]
    rfl

end Sound

end Tree

end DocPath

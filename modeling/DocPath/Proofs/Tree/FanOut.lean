import DocPath.Proofs.Tree.Search
import DocPath.Proofs.Tree.Write

/-!
# Fanning out

A segment fans out if it names no single key: it takes children by a selector for several of them,
or filters them, or reaches to any depth. Along such segments a bridge has nothing to create and
ought to do what setting does (`bridge_eq_set`). It does so if two things hold:

* The nodes on the way are containers of the kind in which the segment after them would create
  (`Paved`). Those that are not are emptied (`bridge_empties_sequence`).
* What the last segment matches at one node has no part in the nodes at which it has still to match
  (`Forked`). A bridge looks for its matches at a node after it gave the value to those at the nodes
  before, while setting finds all matches first.

Matching along such segments changes nothing but the log, so both walk through the same nodes:
`follow` is where they come to, and `Sound.node?_replaceEach` says which nodes a write leaves alone.
-/

namespace DocPath

namespace Path

/-- The selector is one for several children. -/
def Selector.Several : Selector → Prop
  | .any => True
  | .range _ _ _ => True
  | .pattern _ => True
  | _ => False

namespace Segment

/-- The segment invokes no operation and names no single key. -/
def FansOut (s : Segment) : Prop :=
  (∀ operation args, s.selector ≠ .special operation args) ∧
    (s.recursive = true ∨ s.formula.isSome = true ∨ s.selector.Several)

/-- The matches of a segment that invokes no operation. -/
def matchesAt (s : Segment) (n : Node) : List NodeId :=
  ((s.candidates n).filter fun c ↦ Tree.accepts c.2).map Prod.fst

end Segment

end Path

namespace Tree

open DocPath.Path (Segment)
open Node (Context)

variable {t u w : Tree} {s : Segment} {a b id : NodeId} {n m : Node} {v : Json} {ids : List NodeId}

/-! ### Trees that differ in their logs -/

/-- The trees differ in their logs at most. -/
def SameButLog (t u : Tree) : Prop :=
  ∃ log, u = { t with log := log }

namespace SameButLog

theorem refl (t : Tree) : t.SameButLog t :=
  ⟨t.log, rfl⟩

theorem trans (h : t.SameButLog u) (h' : u.SameButLog w) : t.SameButLog w := by
  obtain ⟨log, rfl⟩ := h
  obtain ⟨log', rfl⟩ := h'
  exact ⟨log', rfl⟩

theorem root (h : t.SameButLog u) : u.root = t.root := by
  obtain ⟨log, rfl⟩ := h
  rfl

theorem ids_eq (h : t.SameButLog u) : u.ids = t.ids := by
  obtain ⟨log, rfl⟩ := h
  rfl

theorem node?_eq (h : t.SameButLog u) : u.node? = t.node? := by
  obtain ⟨log, rfl⟩ := h
  rfl

theorem view_eq (h : t.SameButLog u) : u.view = t.view := by
  obtain ⟨log, rfl⟩ := h
  rfl

theorem ancestors_eq (h : t.SameButLog u) : u.ancestors = t.ancestors := by
  obtain ⟨log, rfl⟩ := h
  rfl

theorem kind?_eq (h : t.SameButLog u) : u.kind? = t.kind? := by
  obtain ⟨log, rfl⟩ := h
  rfl

theorem sound (h : t.SameButLog u) (ht : t.Sound) : u.Sound := by
  obtain ⟨log, rfl⟩ := h
  exact ⟨ht.handles, ht.distinct⟩

theorem reportAll (t : Tree) (segment : String)
    (verdicts : List (NodeId × Except FormulaError Bool)) :
    t.SameButLog (t.reportAll segment verdicts) := by
  induction verdicts generalizing t with
  | nil => exact .refl t
  | cons entry rest ih =>
    obtain ⟨id, verdict⟩ := entry
    cases verdict with
    | ok b => exact ih t
    | error e => exact trans ⟨_, rfl⟩ (ih (t.report segment (.formula e)))

theorem replaceWith (h : t.SameButLog u) (id : NodeId) (v : Json) :
    (t.replaceWith id v).SameButLog (u.replaceWith id v) := by
  obtain ⟨log, rfl⟩ := h
  cases hn : t.node? id with
  | none =>
    have hn' : ({ t with log := log } : Tree).node? id = none := hn
    exact ⟨log, by rw [replaceWith_of_none hn, replaceWith_of_none hn']⟩
  | some n =>
    have hn' : ({ t with log := log } : Tree).node? id = some n := hn
    exact ⟨log, by rw [replaceWith_of_node? hn, replaceWith_of_node? hn']; rfl⟩

theorem replaceEach (h : t.SameButLog u) (ids : List NodeId) (v : Json) :
    (t.replaceEach ids v).SameButLog (u.replaceEach ids v) := by
  induction ids generalizing t u with
  | nil => exact h
  | cons id rest ih => exact ih (h.replaceWith id v)

end SameButLog

/-! ### Matching -/

theorem literalKey?_of_fansOut (h : s.FansOut) (n : Node) : literalKey? s n = none := by
  obtain ⟨-, hrec | hformula | hseveral⟩ := h
  · simp [literalKey?, hrec]
  · simp [literalKey?, hformula]
  · unfold literalKey?
    split
    · rfl
    · cases hselector : s.selector <;> rw [hselector] at hseveral <;>
        first | rfl | exact hseveral.elim

theorem segmentMatches_of_fansOut (h : s.FansOut) (t : Tree) (id : NodeId) :
    t.segmentMatches s id =
      (s.matchesAt (t.view id), t.reportAll s.raw (s.candidates (t.view id))) := by
  unfold segmentMatches
  split
  · rename_i operation args hselector
    exact absurd hselector (h.1 operation args)
  · rfl

/-- What several segments lead to from some nodes, as the nodes look to begin with. -/
def follow (view : NodeId → Node) (ids : List NodeId) : List Segment → List NodeId
  | [] => ids
  | s :: rest => follow view (ids.flatMap fun id ↦ s.matchesAt (view id)) rest

theorem follow_nil (view : NodeId → Node) (segments : List Segment) :
    follow view [] segments = [] := by
  induction segments with
  | nil => rfl
  | cons s rest ih => exact ih

theorem segmentMatchesAll_of_fansOut (h : s.FansOut) (t : Tree) (ids : List NodeId) :
    (t.segmentMatchesAll s ids).1 = ids.flatMap (fun id ↦ s.matchesAt (t.view id)) ∧
      t.SameButLog (t.segmentMatchesAll s ids).2 := by
  induction ids generalizing t with
  | nil => exact ⟨rfl, .refl t⟩
  | cons id rest ih =>
    rw [segmentMatchesAll_cons, segmentMatches_of_fansOut h]
    have hlog := SameButLog.reportAll t s.raw (s.candidates (t.view id))
    obtain ⟨hrest, hlog'⟩ := ih (t.reportAll s.raw (s.candidates (t.view id)))
    refine ⟨?_, hlog.trans hlog'⟩
    obtain ⟨log, hlog⟩ := hlog
    rw [List.flatMap_cons]
    dsimp only
    rw [hrest, hlog]
    rfl

theorem releaseScratch_of_nil (h : t.scratch = []) (keep : List NodeId) :
    t.releaseScratch keep = t := by
  rw [releaseScratch_eq, h]
  cases t
  simp_all [Slots.releaseAll]

theorem walk_of_fansOut {segments : List Segment} (hs : ∀ s ∈ segments, s.FansOut)
    (hscratch : t.scratch = []) (ids : List NodeId) :
    (t.walk ids segments).1 = follow t.view ids segments ∧
      t.SameButLog (t.walk ids segments).2 := by
  induction segments generalizing t ids with
  | nil => exact ⟨rfl, .refl t⟩
  | cons s rest ih =>
    obtain ⟨hfound, log, hlog⟩ :=
      segmentMatchesAll_of_fansOut (hs s (List.mem_cons_self ..)) t ids
    have hscratch' : ({ t with log := log } : Tree).scratch = [] := hscratch
    rw [walk_cons, hlog, releaseScratch_of_nil hscratch', hfound, follow]
    split
    · rename_i hnil
      rw [List.isEmpty_iff.1 hnil, follow_nil]
      exact ⟨rfl, log, rfl⟩
    · obtain ⟨hrest, hlog'⟩ := ih (fun s' hs' ↦ hs s' (List.mem_cons_of_mem s hs')) hscratch' _
      exact ⟨hrest, SameButLog.trans ⟨log, rfl⟩ hlog'⟩

/-- A search along segments that fan out changes the log at most. -/
theorem findPath_of_fansOut {p : Path} (hs : ∀ s ∈ p.segments, s.FansOut)
    (hscratch : t.scratch = []) :
    (t.findPath p).1 = follow t.view [t.root.id] p.segments ∧
      t.SameButLog (t.findPath p).2 := by
  rw [findPath_eq_walk, releaseScratch_of_nil hscratch]
  exact walk_of_fansOut hs hscratch _

/-! ### On the way -/

theorem prepare_of_kinds {kind : Kind} (h : ∀ id ∈ ids, t.kind? id = some kind) (v : Json) :
    prepare (some kind) v t ids = t := by
  induction ids with
  | nil => rfl
  | cons id rest ih =>
    rw [prepare]
    simp only [h id (List.mem_cons_self ..), if_true]
    exact ih fun i hi ↦ h i (List.mem_cons_of_mem id hi)

theorem reachOrCreate_of_fansOut (h : s.FansOut) (t : Tree) (required : Option Kind) (v : Json)
    (id : NodeId) : t.reachOrCreate s required v id = t.segmentMatches s id := by
  refine reachOrCreate_of_none ?_
  cases t.node? id with
  | none => rfl
  | some n => exact literalKey?_of_fansOut h n

/-- Where all matches are the containers that are required, a segment that fans out only
matches. -/
theorem bridgeSegment_of_kinds (hs : s.FansOut) {kind : Kind}
    (hkinds : ∀ id ∈ (t.segmentMatchesAll s ids).1, t.kind? id = some kind) (v : Json) :
    t.bridgeSegment s (some kind) v ids = t.segmentMatchesAll s ids := by
  induction ids generalizing t with
  | nil => rfl
  | cons id rest ih =>
    rw [segmentMatchesAll_cons] at hkinds ⊢
    rw [bridgeSegment_cons]
    dsimp only
    rw [reachOrCreate_of_fansOut hs]
    -- matching changes the log only, so all kinds are still the same
    have hlog : t.SameButLog (t.segmentMatches s id).2 := by
      rw [segmentMatches_of_fansOut hs]
      exact .reportAll ..
    have hkind := hlog.kind?_eq
    have hfirst : ∀ i ∈ (t.segmentMatches s id).1,
        (t.segmentMatches s id).2.kind? i = some kind := fun i hi ↦ by
      rw [hkind]
      exact hkinds i (List.mem_append_left _ hi)
    rw [prepare_of_kinds hfirst, ih fun i hi ↦ by
      rw [hkind]
      exact hkinds i (List.mem_append_right _ hi)]
    rfl

/-! ### Apart from each other -/

/-- Giving a value to nodes that are neither at or below another one nor above it leaves that one,
under the same containers. -/
theorem exists_split_replaceEach {before after : List Node} {c : Context}
    (htops : t.tops = before ++ Context.fill c n :: after)
    (hids : ∀ i ∈ ids, i ∉ n.ids ∧ i ∉ Context.spine c) (v : Json) :
    ∃ before' c' after', (t.replaceEach ids v).tops = before' ++ Context.fill c' n :: after' ∧
      Context.spine c' = Context.spine c := by
  induction ids generalizing t before c after with
  | nil => exact ⟨before, c, after, htops, rfl⟩
  | cons id rest ih =>
    obtain ⟨⟨hbelow, habove⟩, hrest⟩ := List.forall_mem_cons.1 hids
    cases hm : t.node? id with
    | none =>
      have hnone := replaceWith_of_none hm v
      exact ih (t := t.replaceWith id v) (hnone ▸ htops) hrest
    | some m =>
      have hreplaced := tops_replaceWith hm v
      generalize (Node.build id v _).1 = new at hreplaced
      obtain ⟨c', hspine, hfill⟩ := Context.exists_replace_fill habove hbelow new
      rw [htops, List.map_append, List.map_cons, hfill] at hreplaced
      rw [← hspine] at hrest ⊢
      exact ih hreplaced hrest

theorem replaceEach_append (t : Tree) (ids others : List NodeId) (v : Json) :
    t.replaceEach (ids ++ others) v = (t.replaceEach ids v).replaceEach others v :=
  List.foldl_append

namespace Sound

theorem replaceEach (h : t.Sound) (ids : List NodeId) (hv : v.Distinct) :
    (t.replaceEach ids v).Sound := by
  induction ids generalizing t with
  | nil => exact h
  | cons id rest ih => exact ih (h.replaceWith id hv)

/-- A node keeps all its parts, and the containers above it, when a value is given to nodes that
are neither at or below nor above it. -/
theorem node?_replaceEach (h : t.Sound) (hv : v.Distinct) (hb : t.node? b = some m)
    (hids : ∀ i ∈ ids, i ∉ m.ids ∧ i ∉ t.ancestors b) :
    (t.replaceEach ids v).node? b = some m ∧ (t.replaceEach ids v).ancestors b = t.ancestors b := by
  obtain rfl := id_of_node? hb
  obtain ⟨before, c, after, hsplit, -⟩ := h.split hb
  have hancestors := h.ancestors_split hsplit
  simp only [hancestors, List.mem_reverse] at hids
  obtain ⟨before', c', after', hsplit', hspine⟩ := exists_split_replaceEach hsplit hids v
  have h' := h.replaceEach ids hv
  exact ⟨h'.node?_split hsplit', by rw [h'.ancestors_split hsplit', hancestors, hspine]⟩

end Sound

theorem mem_ids_of_mem_matchesAt (h : id ∈ s.matchesAt n) : id ∈ n.ids := by
  obtain ⟨c, hc, rfl⟩ := List.mem_map.1 h
  obtain ⟨m, hm, hid⟩ := mem_descendants_of_mem_candidates (List.mem_of_mem_filter hc)
  rw [Node.ids, ← hid]
  exact List.mem_cons_of_mem _ (List.mem_map_of_mem hm)

/-- Giving a value to the one node leaves the other one as it is: the one is neither at or below the
other nor above it. -/
def Apart (t : Tree) (a b : NodeId) : Prop :=
  a ∉ (t.view b).ids ∧ a ∉ t.ancestors b

instance (t : Tree) (a b : NodeId) : Decidable (t.Apart a b) :=
  inferInstanceAs (Decidable (_ ∧ _))

/-- The last segment, at nodes each of which is apart from the matches at those before: as it looks
when its turn comes, so it looked in a tree before. -/
theorem Sound.bridgeSegment_of_apart (h : u.Sound) (hs : s.FansOut) (hv : v.Distinct) (t : Tree)
    (hview : ∀ b ∈ ids, u.node? b = some (t.view b) ∧ u.ancestors b = t.ancestors b)
    (hapart : ids.Pairwise fun a b ↦ ∀ i ∈ s.matchesAt (t.view a), t.Apart i b) :
    (u.replaceEach (ids.flatMap fun id ↦ s.matchesAt (t.view id)) v).SameButLog
      (u.bridgeSegment s none v ids).2 := by
  induction ids generalizing u with
  | nil => exact .refl u
  | cons a rest ih =>
    obtain ⟨⟨ha, -⟩, hrest⟩ := List.forall_mem_cons.1 hview
    obtain ⟨hfirst, hapart⟩ := List.pairwise_cons.1 hapart
    rw [bridgeSegment_cons]
    dsimp only
    rw [reachOrCreate_of_fansOut hs, segmentMatches_of_fansOut hs, view_of_node? ha, prepare_none]
    dsimp only
    have hlog := (SameButLog.reportAll u s.raw (s.candidates (t.view a))).replaceEach
      (s.matchesAt (t.view a)) v
    have hleft : ∀ b ∈ rest, (u.replaceEach (s.matchesAt (t.view a)) v).node? b = some (t.view b) ∧
        (u.replaceEach (s.matchesAt (t.view a)) v).ancestors b = t.ancestors b := fun b hb ↦ by
      obtain ⟨hnode, habove⟩ := hrest b hb
      rw [← habove]
      exact h.node?_replaceEach hv hnode fun i hi ↦ habove ▸ hfirst b hb i hi
    rw [List.flatMap_cons, replaceEach_append]
    refine (hlog.replaceEach _ v).trans (ih (hlog.sound (h.replaceEach _ hv)) ?_ hapart)
    rwa [hlog.node?_eq, hlog.ancestors_eq]

/-! ### All segments -/

theorem mem_ids_of_mem_follow {segments : List Segment} (hids : ∀ i ∈ ids, i ∈ t.ids)
    (hid : id ∈ follow t.view ids segments) : id ∈ t.ids := by
  induction segments generalizing ids with
  | nil => exact hids id hid
  | cons s rest ih =>
    refine ih (fun i hi ↦ ?_) hid
    obtain ⟨a, ha, hi⟩ := List.mem_flatMap.1 hi
    exact mem_ids_of_mem_view (hids a ha) (mem_ids_of_mem_matchesAt hi)

/-- Along segments that fan out, through containers of the kind that each time the next segment
needs, a bridge gives the value to what the segments lead to. -/
theorem Sound.bridgeFrom_of_fansOut (h : t.Sound) (hv : v.Distinct) {segments : List Segment}
    (hs : ∀ s ∈ segments, s.FansOut) (hids : ∀ i ∈ ids, i ∈ t.ids) (hne : segments ≠ [])
    (hkinds : ∀ before s after, segments = before ++ s :: after → before ≠ [] →
      ∀ i ∈ follow t.view ids before, t.kind? i = some (containerFor s))
    (hapart : ∀ before s, segments = before ++ [s] → (follow t.view ids before).Pairwise
      fun a b ↦ ∀ i ∈ s.matchesAt (t.view a), t.Apart i b) :
    (t.replaceEach (follow t.view ids segments) v).SameButLog (t.bridgeFrom v ids segments) := by
  induction segments generalizing t ids with
  | nil => exact absurd rfl hne
  | cons s rest ih =>
    have hfans := hs s (List.mem_cons_self ..)
    cases rest with
    | nil =>
      have hview : ∀ i ∈ ids, t.node? i = some (t.view i) ∧ t.ancestors i = t.ancestors i :=
        fun i hi ↦ by
          obtain ⟨n, hn⟩ := exists_node? (hids i hi)
          exact ⟨by rw [hn, view_of_node? hn], rfl⟩
      rw [bridgeFrom_singleton]
      exact h.bridgeSegment_of_apart hfans hv t hview (hapart [] s rfl)
    | cons next rest =>
      obtain ⟨hfound, hlog⟩ := segmentMatchesAll_of_fansOut hfans t ids
      have hstep : ∀ before, follow t.view ids (s :: before) =
          follow t.view (t.segmentMatchesAll s ids).1 before := fun before ↦ by
        rw [follow, hfound]
      have hreached : ∀ i ∈ (t.segmentMatchesAll s ids).1, t.kind? i = some (containerFor next) :=
        fun i hi ↦ hkinds [s] next rest rfl (List.cons_ne_nil _ _) i (by rwa [hstep])
      have hlive : ∀ i ∈ (t.segmentMatchesAll s ids).1, i ∈ t.ids := fun i hi ↦ by
        have hmem : i ∈ follow t.view ids [s] := by rwa [hstep]
        exact mem_ids_of_mem_follow hids hmem
      rw [bridgeFrom_cons_cons, bridgeSegment_of_kinds hfans hreached, hstep]
      refine (hlog.replaceEach _ v).trans ?_
      -- matching changed the log only, so all that is known of the nodes is still true of them
      rw [← hlog.view_eq]
      refine ih (hlog.sound h) (fun s' hs' ↦ hs s' (List.mem_cons_of_mem s hs'))
        (fun i hi ↦ hlog.ids_eq ▸ hlive i hi) (List.cons_ne_nil _ _) ?_ ?_
      · intro before s' after hsplit _ i hi
        rw [hlog.view_eq, ← hstep] at hi
        rw [hlog.kind?_eq]
        exact hkinds (s :: before) s' after (by rw [hsplit]; rfl) (List.cons_ne_nil _ _) i hi
      · intro before s' hsplit
        have hpairs := hapart (s :: before) s' (by rw [hsplit]; rfl)
        rw [hstep] at hpairs
        unfold Apart at hpairs ⊢
        rwa [hlog.view_eq, hlog.ancestors_eq]

/-! ### One entry -/

/-- All that a part of the path leads to is a container of the kind in which the segment after it
would create. -/
def Paved (t : Tree) (p : Path) : Prop :=
  t.root.kind ≠ .scalar ∧
    ∀ before s after, p.segments = before ++ s :: after → before ≠ [] →
      ∀ id ∈ (t.findPath ⟨p.raw, before⟩).1, t.kind? id = some (containerFor s)

/-- What the last segment of the path matches at one node is apart from the nodes at which it has
still to match. -/
def Forked (t : Tree) (p : Path) : Prop :=
  ∀ before s, p.segments = before ++ [s] → (t.findPath ⟨p.raw, before⟩).1.Pairwise
    fun a b ↦ ∀ id ∈ (t.segmentMatches s a).1, t.Apart id b

/-- Along a path of segments that fan out a bridge does what setting does, with the same handles, if
it has nothing to convert on the way and its matches are apart from the nodes that are left. The
tree holds no results of queries, as setting releases them before it writes and a bridge after
that. -/
theorem bridge_eq_set (ht : t.Reachable) (hscratch : t.scratch = []) {raw : String} {p : Path}
    (hp : Path.parse raw = .ok p) (hne : p.segments ≠ []) (hs : ∀ s ∈ p.segments, s.FansOut)
    (hv : v.Distinct) (hpaved : t.Paved p) (hforked : t.Forked p) :
    ∃ bridged changed, t.bridge [(raw, v)] = (.ok (), bridged) ∧
      t.set [(raw, v)] = (.ok (), changed) ∧ bridged.root = changed.root := by
  refine ⟨_, _, bridge_singleton hp v, set_singleton hp v, ?_⟩
  have hroot : ∀ i ∈ [t.root.id], i ∈ t.ids := fun i hi ↦
    List.mem_singleton.1 hi ▸ t.root_id_mem_ids
  have hway : ∀ before after, p.segments = before ++ after →
      (t.findPath ⟨p.raw, before⟩).1 = follow t.view [t.root.id] before := fun before after hsplit ↦
    (findPath_of_fansOut (p := ⟨p.raw, before⟩)
      (fun s hmem ↦ hs s (hsplit ▸ List.mem_append_left _ hmem)) hscratch).1
  have hbridge := ht.sound.bridgeFrom_of_fansOut hv hs hroot hne
    (fun before s after hsplit hbefore i hi ↦ by
      rw [← hway _ _ hsplit] at hi
      exact hpaved.2 before s after hsplit hbefore i hi)
    (fun before s hsplit ↦ by
      have hfans := hs s (hsplit ▸ List.mem_append_right _ (List.mem_singleton_self s))
      have hpairs := hforked before s hsplit
      simp only [segmentMatches_of_fansOut hfans] at hpairs
      rwa [hway _ _ hsplit] at hpairs)
  obtain ⟨hfound, hlog⟩ := findPath_of_fansOut hs hscratch
  rw [root_bridgePath, hfound, (hlog.replaceEach _ v).root, ← hbridge.root]
  cases hsegments : p.segments with
  | nil => exact absurd hsegments hne
  | cons s rest => rw [writeThrough_cons t s hsegments, prepareRoot_of_container hpaved.1]

/-- Everything below the children of an object, where these are objects. -/
theorem bridge_eq_set_nested :
    ∃ bridged changed,
      (ofJson .builtin (.object [("a", .object [("x", .null)]),
          ("b", .object [("y", .null)])])).bridge [("*.*", .bool true)] = (.ok (), bridged) ∧
        (ofJson .builtin (.object [("a", .object [("x", .null)]),
          ("b", .object [("y", .null)])])).set [("*.*", .bool true)] = (.ok (), changed) ∧
        bridged.root = changed.root := by
  have hreachable : (ofJson .builtin (.object [("a", .object [("x", .null)]),
      ("b", .object [("y", .null)])])).Reachable := .ofJson _ (by simp)
  have hparse : Path.parse "*.*" =
      .ok ⟨"*.*", [⟨"*", .any, none, false⟩, ⟨"*", .any, none, false⟩]⟩ := rfl
  have hany : Segment.FansOut ⟨"*", .any, none, false⟩ := ⟨nofun, .inr (.inr trivial)⟩
  refine bridge_eq_set hreachable rfl hparse nofun ?_ trivial ⟨nofun, ?_⟩ ?_
  · simpa using hany
  · rintro (- | ⟨b, - | ⟨b', before⟩⟩) s after hsplit hne
    · exact absurd rfl hne
    · cases hsplit
      decide
    · simp at hsplit
  · rintro (- | ⟨b, - | ⟨b', before⟩⟩) s hsplit
    · simp at hsplit
    · cases hsplit
      decide
    · simp at hsplit

/-- An array on the way is emptied and made an object, although the segment after it creates
nothing. -/
theorem bridge_empties_sequence :
    (∃ p, Path.parse "*.*" = .ok p ∧ p.segments ≠ [] ∧ ∀ s ∈ p.segments, s.FansOut) ∧
      ((ofJson .builtin (.array [.array [.ofNat 1]])).bridge [("*.*", .ofNat 2)]).2.document =
        .array [.object []] ∧
      ((ofJson .builtin (.array [.array [.ofNat 1]])).set [("*.*", .ofNat 2)]).2.document =
        .array [.array [.ofNat 2]] := by
  have hany : Segment.FansOut ⟨"*", .any, none, false⟩ := ⟨nofun, .inr (.inr trivial)⟩
  exact ⟨⟨⟨"*.*", [⟨"*", .any, none, false⟩, ⟨"*", .any, none, false⟩]⟩, rfl, nofun,
    by simpa using hany⟩, rfl, rfl⟩

end Tree

end DocPath

import DocPath.Proofs.Tree.Reachable

/-!
# Matching in one pass

`Tree.segmentMatches` looks at all that a segment reaches below a node, keeps those nodes whose key
the selector takes, and in the end gives the accepted ones and logs the failures. None of this needs
more than one walk over the nodes: `collect` tests a child, logs its failure, and goes on below it
before it looks at the next one, and does not go on below a child without children.

The two agree (`collect_eq`), because logging does not change what the nodes show. And what they
give can be told through handles alone (`segmentMatches_eq_filter`): it is the list of the nodes
below, filtered by their keys under their parents and by their values.
-/

namespace DocPath

variable {t : Tree} {id : NodeId} {n m : Node} {e : Edge}

namespace Path.Segment

open DocPath.Tree (accepts)

variable (s : Segment)

/-- Whether the selector takes the key of a child. -/
def takes (e : Edge) : Bool :=
  s.selector.matchesKey e.siblings e.key

/-- The failure of the formula for a value, if it fails. -/
def failure? (v : Json) : Option Diagnostic :=
  match s.verdict v with
  | .ok _ => none
  | .error e => some ⟨s.raw, .formula e⟩

/-- Those of some children that the segment matches. -/
def accepted (edges : List Edge) : List NodeId :=
  ((edges.filter s.takes).filter fun e ↦ accepts (s.verdict e.child.toJson)).map fun e ↦ e.child.id

/-- The failures that come up when some children are tested. -/
def failures (edges : List Edge) : List Diagnostic :=
  (edges.filter s.takes).filterMap fun e ↦ s.failure? e.child.toJson

/-- What the segment looks at below a child. -/
def reachBelow (n : Node) : List Edge :=
  if s.recursive then n.edges else []

theorem accepted_append (edges others : List Edge) :
    s.accepted (edges ++ others) = s.accepted edges ++ s.accepted others := by
  rw [accepted, List.filter_append, List.filter_append, List.map_append]
  rfl

theorem failures_append (edges others : List Edge) :
    s.failures (edges ++ others) = s.failures edges ++ s.failures others := by
  rw [failures, List.filter_append, List.filterMap_append]
  rfl

theorem accepted_sublist (edges : List Edge) :
    (s.accepted edges).Sublist (edges.map fun e ↦ e.child.id) :=
  (List.filter_sublist.trans List.filter_sublist).map _

/-- A segment looks at every child, and after each at what is below it if it is recursive. -/
theorem reach_eq (n : Node) :
    s.reach n = n.childEdges.flatMap fun e ↦ e :: s.reachBelow e.child := by
  unfold reach reachBelow
  split
  · exact n.edges_eq
  · exact (List.flatMap_singleton' n.childEdges).symm

theorem reach_subset (n : Node) : s.reach n ⊆ n.edges := by
  unfold reach
  split
  · exact List.Subset.refl _
  · exact n.childEdges_subset

end Path.Segment

namespace Tree

open DocPath.Path (Segment)

variable {s : Segment}

/-! ### The log -/

/-- The tree with more failures in its log. -/
def logged (t : Tree) (diagnostics : List Diagnostic) : Tree :=
  { t with log := t.log ++ diagnostics }

@[simp] theorem logged_nil (t : Tree) : t.logged [] = t := by
  rw [logged, List.append_nil]

@[simp] theorem logged_logged (t : Tree) (diagnostics others : List Diagnostic) :
    (t.logged diagnostics).logged others = t.logged (diagnostics ++ others) := by
  simp [logged]

theorem reportAll_eq (t : Tree) (s : Segment) (edges : List Edge) :
    t.reportAll s.raw (edges.map fun e ↦ (e.child.id, s.verdict e.child.toJson)) =
      t.logged (edges.filterMap fun e ↦ s.failure? e.child.toJson) := by
  induction edges generalizing t with
  | nil => exact t.logged_nil.symm
  | cons e rest ih =>
    rw [List.map_cons, List.filterMap_cons, Segment.failure?]
    cases s.verdict e.child.toJson with
    | ok b => exact ih t
    | error error =>
      refine (ih (t.report s.raw (.formula error))).trans ?_
      exact t.logged_logged [_] _

/-- The matches of a segment that invokes no operation, and the tree with the failures logged. -/
theorem segmentMatches_of_ne_special (hs : ∀ operation args, s.selector ≠ .special operation args)
    (t : Tree) (id : NodeId) :
    t.segmentMatches s id =
      (s.accepted (s.reach (t.view id)), t.logged (s.failures (s.reach (t.view id)))) := by
  have hplain : t.segmentMatches s id =
      (((s.candidates (t.view id)).filter fun c ↦ accepts c.2).map Prod.fst,
        t.reportAll s.raw (s.candidates (t.view id))) := by
    unfold segmentMatches
    split
    · rename_i hselector
      exact absurd hselector (hs _ _)
    · rfl
  rw [hplain, Segment.candidates, reportAll_eq, List.filter_map, List.map_map]
  rfl

/-! ### The walk -/

/-- Tests one child: whether it is matched, and the tree with the failure logged. -/
def visit (t : Tree) (s : Segment) (e : Edge) : List NodeId × Tree :=
  if s.takes e then
    let (accepted, t) := t.evaluates s e.child.id
    (if accepted then [e.child.id] else [], t)
  else ([], t)

mutual

/-- The matches of a segment below a node, and the tree with the failures logged, in one walk. -/
def collect (s : Segment) : Node → Tree → List NodeId × Tree
  | .scalar _ _, t => ([], t)
  | .sequence _ items, t => collectItems s items.length 0 items t
  | .map _ entries, t => collectEntries s entries.length entries t

def collectItems (s : Segment) (siblings position : Nat) :
    List Node → Tree → List NodeId × Tree
  | [], t => ([], t)
  | n :: rest, t =>
    let (here, t) := t.visit s ⟨siblings, .index position, n⟩
    let (below, t) := if s.recursive && n.hasChildren then collect s n t else ([], t)
    let (others, t) := collectItems s siblings (position + 1) rest t
    (here ++ (below ++ others), t)

def collectEntries (s : Segment) (siblings : Nat) :
    List (String × Node) → Tree → List NodeId × Tree
  | [], t => ([], t)
  | (k, n) :: rest, t =>
    let (here, t) := t.visit s ⟨siblings, .name k, n⟩
    let (below, t) := if s.recursive && n.hasChildren then collect s n t else ([], t)
    let (others, t) := collectEntries s siblings rest t
    (here ++ (below ++ others), t)

end

/-- What a walk over some children and what is below them comes to. -/
def tally (t : Tree) (s : Segment) (edges : List Edge) : List NodeId × Tree :=
  (s.accepted edges, t.logged (s.failures edges))

@[simp] theorem tally_nil (t : Tree) (s : Segment) : t.tally s [] = ([], t) :=
  Prod.ext rfl t.logged_nil

@[simp] theorem value_tally (t : Tree) (s : Segment) (edges : List Edge) :
    (t.tally s edges).2.value = t.value :=
  rfl

/-- Tallies add up, since the verdicts do not depend on the log. -/
theorem tally_append (t : Tree) (s : Segment) (edges others : List Edge) :
    t.tally s (edges ++ others) =
      ((t.tally s edges).1 ++ ((t.tally s edges).2.tally s others).1,
        ((t.tally s edges).2.tally s others).2) := by
  simp only [tally, s.accepted_append, s.failures_append, logged_logged]

theorem visit_eq (he : t.value e.child.id = e.child.toJson) : t.visit s e = t.tally s [e] := by
  unfold visit
  split
  · rename_i htakes
    have hlog := t.reportAll_eq s [e]
    have htaken : [e].filter s.takes = [e] := by simp [htakes]
    simp only [List.map_singleton] at hlog
    rw [evaluates, he, hlog, tally, Segment.accepted, Segment.failures, htaken]
    cases haccepts : accepts (s.verdict e.child.toJson) <;> simp [haccepts]
  · rename_i htakes
    have hnone : [e].filter s.takes = [] := by simp [htakes]
    rw [tally, Segment.accepted, Segment.failures, hnone]
    exact (t.tally_nil s).symm

/-- Below a child without children there is nothing to go on with. -/
theorem reachBelow_eq (s : Segment) (n : Node) :
    s.reachBelow n = if s.recursive && n.hasChildren then s.reach n else [] := by
  unfold Segment.reachBelow Segment.reach
  cases s.recursive with
  | false => rfl
  | true =>
    cases hchildren : n.hasChildren with
    | true => rfl
    | false =>
      have hnil : n.childEdges = [] := by
        rw [Node.hasChildren, Bool.not_eq_false', List.isEmpty_iff] at hchildren
        rw [Node.childEdges, hchildren, List.map_nil]
      simp [n.edges_eq, hnil]

/-- One round of the walk: a child, what is below it, and the children after it. -/
private theorem tally_round (he : t.value e.child.id = e.child.toJson)
    (hbelow : ∀ u : Tree, u.value = t.value → e.child.hasChildren →
      collect s e.child u = u.tally s (s.reach e.child))
    {rest : List Edge} {walk : Tree → List NodeId × Tree}
    (hrest : ∀ u : Tree, u.value = t.value → walk u = u.tally s rest) :
    (let (here, t) := t.visit s e
      let (below, t) := if s.recursive && e.child.hasChildren then collect s e.child t else ([], t)
      let (others, t) := walk t
      (here ++ (below ++ others), t)) = t.tally s (e :: s.reachBelow e.child ++ rest) := by
  have hdeeper : ∀ u : Tree, u.value = t.value →
      (if s.recursive && e.child.hasChildren then collect s e.child u else ([], u)) =
        u.tally s (s.reachBelow e.child) := by
    intro u hu
    rw [reachBelow_eq]
    split
    · rename_i h
      exact hbelow u hu (Bool.and_eq_true_iff.1 h).2
    · exact (u.tally_nil s).symm
  have hround : e :: s.reachBelow e.child ++ rest = [e] ++ (s.reachBelow e.child ++ rest) := rfl
  rw [visit_eq he, hround, tally_append t, tally_append]
  dsimp only
  rw [hdeeper _ (value_tally ..), hrest _ ((value_tally ..).trans (value_tally ..))]

mutual

/-- The walk comes to what is to be looked at below a node, if the tree has what the node has. -/
theorem collect_eq (s : Segment) : (n : Node) → (t : Tree) →
    (∀ m ∈ n.descendants, t.value m.id = m.toJson) → collect s n t = t.tally s (s.reach n)
  | .scalar i v, t, _ => by
    rw [collect, Segment.reach_eq]
    exact (t.tally_nil s).symm
  | .sequence i items, t, h => by
    rw [collect, collectItems_eq s items.length items 0 t, Segment.reach_eq]
    · simp [Node.childEdges, Node.children, List.flatMap_map]
    · intro n hn m hm
      refine h m ?_
      rw [Node.descendants_eq, Node.childNodes_sequence]
      exact List.mem_flatMap.2 ⟨n, hn, hm⟩
  | .map i entries, t, h => by
    rw [collect, collectEntries_eq s entries.length entries t, Segment.reach_eq]
    · simp [Node.childEdges, Node.children, List.flatMap_map]
    · intro entry hentry m hm
      refine h m ?_
      rw [Node.descendants_eq, Node.childNodes_map]
      exact List.mem_flatMap.2 ⟨entry.2, List.mem_map_of_mem hentry, hm⟩

theorem collectItems_eq (s : Segment) (siblings : Nat) :
    (items : List Node) → (position : Nat) → (t : Tree) →
    (∀ n ∈ items, ∀ m ∈ n :: n.descendants, t.value m.id = m.toJson) →
      collectItems s siblings position items t =
        t.tally s ((items.zipIdx position).flatMap fun item ↦
          ⟨siblings, .index item.2, item.1⟩ :: s.reachBelow item.1)
  | [], _, t, _ => (t.tally_nil s).symm
  | n :: rest, position, t, h => by
    obtain ⟨hfirst, hrest⟩ := List.forall_mem_cons.1 h
    obtain ⟨hn, hbelow⟩ := List.forall_mem_cons.1 hfirst
    rw [collectItems]
    exact tally_round (e := ⟨siblings, .index position, n⟩) hn
      (fun u hu _ ↦ collect_eq s n u (hu ▸ hbelow))
      (fun u hu ↦ collectItems_eq s siblings rest (position + 1) u (hu ▸ hrest))

theorem collectEntries_eq (s : Segment) (siblings : Nat) :
    (entries : List (String × Node)) → (t : Tree) →
    (∀ entry ∈ entries, ∀ m ∈ entry.2 :: entry.2.descendants, t.value m.id = m.toJson) →
      collectEntries s siblings entries t =
        t.tally s (entries.flatMap fun entry ↦
          ⟨siblings, .name entry.1, entry.2⟩ :: s.reachBelow entry.2)
  | [], t, _ => (t.tally_nil s).symm
  | (k, n) :: rest, t, h => by
    obtain ⟨hfirst, hrest⟩ := List.forall_mem_cons.1 h
    obtain ⟨hn, hbelow⟩ := List.forall_mem_cons.1 hfirst
    rw [collectEntries]
    exact tally_round (e := ⟨siblings, .name k, n⟩) hn
      (fun u hu _ ↦ collect_eq s n u (hu ▸ hbelow))
      (fun u hu ↦ collectEntries_eq s siblings rest u (hu ▸ hrest))

end

/-! ### Through handles -/

/-- The handles of what a segment looks at below a node: of the children, or of all descendants. -/
def reached (t : Tree) (s : Segment) (id : NodeId) : List NodeId :=
  if s.recursive then t.descendants id else (t.children id).map fun child ↦ child.2.id

/-- Whether the selector of a segment takes the key that a node has under its parent. -/
def keyMatches (t : Tree) (s : Segment) (id : NodeId) : Bool :=
  match t.parent? id, t.key? id with
  | some parent, some key => s.selector.matchesKey (t.children parent).length key
  | _, _ => false

theorem map_id_reach (t : Tree) (s : Segment) (id : NodeId) :
    ((s.reach (t.view id)).map fun e ↦ e.child.id) = t.reached s id := by
  unfold Segment.reach reached
  split
  · rw [descendants, Node.descendants, List.map_map]
    rfl
  · rw [children, Node.childEdges, List.map_map]
    rfl

theorem reached_of_not_recursive (hrec : s.recursive = false) (t : Tree) (id : NodeId) :
    t.reached s id = (t.view id).childNodes.map Node.id := by
  simp [reached, hrec, children, Node.childNodes]

/-- What a segment accepts keeps the order in which the segment looks at it. -/
theorem accepted_sublist_reached (t : Tree) (s : Segment) (id : NodeId) :
    (s.accepted (s.reach (t.view id))).Sublist (t.reached s id) :=
  t.map_id_reach s id ▸ s.accepted_sublist _

namespace Sound

/-- What a segment looks at through an edge is what the tree shows of the child. -/
theorem of_mem_reach (h : t.Sound) (he : e ∈ s.reach (t.view id)) :
    t.value e.child.id = e.child.toJson ∧ t.keyMatches s e.child.id = s.takes e := by
  have hedge := s.reach_subset _ he
  cases hn : t.node? id with
  | none =>
    rw [view, hn] at hedge
    cases hedge
  | some n =>
    rw [view_of_node? hn] at hedge
    obtain ⟨m, hm, hchild⟩ := Node.exists_of_mem_edges hedge
    have hparent := h.node?_of_mem hn hm
    obtain ⟨child, hmem, rfl⟩ := List.mem_map.1 hchild
    have hlive := (h.node?_child hparent hmem).1
    constructor
    · exact value_of_node? hlive
    · rw [keyMatches, h.parent?_child hparent hmem, h.key?_child hparent hmem]
      dsimp only
      rw [Tree.children, view_of_node? hparent]
      rfl

/-- No segment looks at a node twice. -/
theorem nodup_reached (h : t.Sound) (s : Segment) (id : NodeId) : (t.reached s id).Nodup := by
  unfold reached descendants children
  cases hn : t.node? id with
  | none =>
    rw [view, hn]
    split <;> exact List.nodup_nil
  | some n =>
    rw [view_of_node? hn]
    split
    · exact (List.nodup_cons.1 (h.nodup_ids hn)).2
    · exact h.nodup_children hn

/-- The matches and failures through edges are those through handles. -/
theorem tally_reach (h : t.Sound) (s : Segment) (id : NodeId) :
    t.tally s (s.reach (t.view id)) =
      ((t.reached s id).filter fun d ↦ t.keyMatches s d && accepts (s.verdict (t.value d)),
        t.logged (((t.reached s id).filter (t.keyMatches s)).filterMap fun d ↦
          s.failure? (t.value d))) := by
  have hkeys : (s.reach (t.view id)).filter s.takes =
      (s.reach (t.view id)).filter fun e ↦ t.keyMatches s e.child.id :=
    List.filter_congr fun e he ↦ (h.of_mem_reach he).2.symm
  rw [tally, Segment.accepted, Segment.failures, hkeys, ← t.map_id_reach, List.filter_map,
    List.filter_map, List.filterMap_map, List.filter_filter]
  refine Prod.ext ?_ (congrArg t.logged (List.filterMap_congr fun e he ↦ ?_))
  · refine congrArg (List.map _) (List.filter_congr fun e he ↦ ?_)
    rw [Function.comp_apply, (h.of_mem_reach he).1, Bool.and_comm]
  · rw [Function.comp_apply, (h.of_mem_reach (List.mem_of_mem_filter he)).1]

/-- What the tree shows of a node below another one is what that node has. -/
theorem value_of_mem_descendants (h : t.Sound) (hm : m ∈ (t.view id).descendants) :
    t.value m.id = m.toJson :=
  value_of_node? (h.node?_of_mem_view hm)

end Sound

/-- What a segment matches that invokes no operation: of the children, or of all descendants in
document order, those whose key under their parent its selector takes and whose value its formula
accepts, each of them once. One failure is logged for each of them whose key is taken and whose
value makes the formula fail, in the same order. One walk over the nodes does this. -/
theorem segmentMatches_eq_filter (ht : t.Reachable)
    (hs : ∀ operation args, s.selector ≠ .special operation args) (id : NodeId) :
    (t.segmentMatches s id).1 = ((t.reached s id).filter fun d ↦
        t.keyMatches s d && accepts (s.verdict (t.value d))) ∧
      (t.segmentMatches s id).1.Nodup ∧
      (t.segmentMatches s id).2 = t.logged (((t.reached s id).filter (t.keyMatches s)).filterMap
        fun d ↦ s.failure? (t.value d)) ∧
      t.segmentMatches s id = collect s (t.view id) t := by
  have h := ht.sound
  have hwalk : t.segmentMatches s id = t.tally s (s.reach (t.view id)) :=
    segmentMatches_of_ne_special hs t id
  rw [collect_eq s (t.view id) t fun m hm ↦ h.value_of_mem_descendants hm, hwalk, h.tally_reach]
  exact ⟨rfl, (h.nodup_reached s id).filter _, rfl, rfl⟩

/-- The outer value is too short to be matched, but a longer one is found inside it. A value without
a length makes the formula fail. -/
theorem segmentMatches_eq_filter_nested :
    ∃ s, Segment.read "b(length($) > 1)".toList true = .ok s ∧
      ((ofJson .builtin (.object [("b", .object [("b", .string "xy")]),
        ("a", .object [("b", .bool true)])])).segmentMatches s ⟨0, 0⟩).1 = [⟨2, 0⟩] ∧
      (((ofJson .builtin (.object [("b", .object [("b", .string "xy")]),
        ("a", .object [("b", .bool true)])])).segmentMatches s ⟨0, 0⟩).2.log.map
          fun diagnostic ↦ diagnostic.fault.message) = ["formula error: length() of true"] := by
  have hread : Segment.read "b(length($) > 1)".toList true =
      .ok ⟨"b(length($) > 1)", .key "b", some (.compile "length($) > 1"), true⟩ := rfl
  have hreachable : (ofJson .builtin (.object [("b", .object [("b", .string "xy")]),
      ("a", .object [("b", .bool true)])])).Reachable := .ofJson _ (by simp)
  obtain ⟨hfound, -, hlog, -⟩ := segmentMatches_eq_filter hreachable
    (s := ⟨"b(length($) > 1)", .key "b", some (.compile "length($) > 1"), true⟩)
    (fun _ _ hselector ↦ by cases hselector) ⟨0, 0⟩
  refine ⟨_, hread, ?_, ?_⟩
  · rw [hfound]
    decide +kernel
  · rw [hlog]
    decide +kernel

end Tree

end DocPath

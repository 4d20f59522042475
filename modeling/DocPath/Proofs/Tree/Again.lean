import DocPath.Proofs.Tree.Collect
import DocPath.Proofs.Tree.Set

/-!
# Setting the same path again

Where no segment tests values or invokes an operation, what a path leads to depends on keys and on
the sizes of containers alone. What may be left of the path below a node is then known from what may
be left at the node (`Path.descend`), and setting is a rewriting of values from the top down: a value
at which nothing is left is exchanged, and nothing inside it is looked at (`Path.rewrite`,
`Sound.document_set`).

Rewriting exchanges no container above what it exchanges, so all keys and sizes on the way are the
same the second time: it comes to the same places, and finds there what it would put there
(`Path.rewrite_rewrite`). What the value has inside plays no part in it.
-/

namespace DocPath

namespace Path

variable {s : Segment} {segments : List Segment} {pending : List (List Segment)} {v : Json}

/-- The segment tests no value and invokes no operation. -/
structure Segment.Structural (s : Segment) : Prop where
  formula : s.formula = none
  selector : ∀ operation args, s.selector ≠ .special operation args

/-! ### What is left of a path -/

/-- What may be left of a path at a child with a key, in a container of a size, if at the container
one of some lists of segments may be left. -/
def descend (pending : List (List Segment)) (size : Nat) (key : Key) : List (List Segment) :=
  pending.flatMap fun
    | [] => []
    | s :: rest =>
      (if s.selector.matchesKey size key then [rest] else []) ++
        if s.recursive then [s :: rest] else []

/-- Whether the path may have come to its end. -/
def ends (pending : List (List Segment)) : Bool :=
  pending.any List.isEmpty

mutual

/-- The value with another one wherever a path comes to its end, from the top down. -/
def rewrite (pending : List (List Segment)) (v : Json) : Json → Json
  | .scalar s => if ends pending then v else .scalar s
  | .array items =>
    if ends pending then v else .array (rewriteItems pending v items.length 0 items)
  | .object entries =>
    if ends pending then v else .object (rewriteEntries pending v entries.length entries)

def rewriteItems (pending : List (List Segment)) (v : Json) (size position : Nat) :
    List Json → List Json
  | [] => []
  | d :: rest =>
    rewrite (descend pending size (.index position)) v d ::
      rewriteItems pending v size (position + 1) rest

def rewriteEntries (pending : List (List Segment)) (v : Json) (size : Nat) :
    List (String × Json) → List (String × Json)
  | [] => []
  | (k, d) :: rest =>
    (k, rewrite (descend pending size (.name k)) v d) :: rewriteEntries pending v size rest

end

theorem rewrite_of_ends (h : ends pending) (v d : Json) : rewrite pending v d = v := by
  cases d <;> exact if_pos h

theorem rewriteItems_eq (pending : List (List Segment)) (v : Json) (size position : Nat)
    (items : List Json) :
    rewriteItems pending v size position items = items.mapIdx fun i d ↦
      rewrite (descend pending size (.index (position + i))) v d := by
  induction items generalizing position with
  | nil => rfl
  | cons d rest ih => simp only [rewriteItems, ih, List.mapIdx_cons, Nat.add_zero, Nat.add_assoc,
      Nat.add_comm 1]

theorem rewriteEntries_eq (pending : List (List Segment)) (v : Json) (size : Nat)
    (entries : List (String × Json)) :
    rewriteEntries pending v size entries = entries.map fun entry ↦
      (entry.1, rewrite (descend pending size (.name entry.1)) v entry.2) := by
  induction entries with
  | nil => rfl
  | cons entry rest ih => rw [rewriteEntries, ih, List.map_cons]

theorem rewrite_array (h : ends pending = false) (v : Json) (items : List Json) :
    rewrite pending v (.array items) = .array (items.mapIdx fun i d ↦
      rewrite (descend pending items.length (.index i)) v d) := by
  simp only [rewrite, h, Bool.false_eq_true, if_false, rewriteItems_eq, Nat.zero_add]

theorem rewrite_object (h : ends pending = false) (v : Json) (entries : List (String × Json)) :
    rewrite pending v (.object entries) = .object (entries.map fun entry ↦
      (entry.1, rewrite (descend pending entries.length (.name entry.1)) v entry.2)) := by
  rw [rewrite, h, if_neg Bool.false_ne_true, rewriteEntries_eq]

/-- Rewriting a second time changes nothing. -/
theorem rewrite_rewrite (pending : List (List Segment)) (v d : Json) :
    rewrite pending v (rewrite pending v d) = rewrite pending v d := by
  induction d using Json.induction_parts generalizing pending with
  | scalar s =>
    cases hends : ends pending with
    | true => simp only [rewrite_of_ends hends]
    | false => simp only [rewrite, hends, Bool.false_eq_true, if_false]
  | array items ih =>
    cases hends : ends pending with
    | true => simp only [rewrite_of_ends hends]
    | false =>
      rw [rewrite_array hends, rewrite_array hends, List.length_mapIdx, List.mapIdx_mapIdx]
      exact congrArg Json.array (List.mapIdx_eq_mapIdx_iff.2 fun i hi ↦
        ih _ (List.getElem_mem hi) _)
  | object entries ih =>
    cases hends : ends pending with
    | true => simp only [rewrite_of_ends hends]
    | false =>
      rw [rewrite_object hends, rewrite_object hends, List.length_map, List.map_map]
      exact congrArg Json.object (List.map_congr_left fun entry he ↦
        congrArg (Prod.mk entry.1) (ih entry he _))

/-! ### What is reached -/

variable {r : Registry} {n m c : Node} {ns : List Node} {key : Key} {ids : List NodeId}

theorem hitsAlong_append (r : Registry) (ns ms : List Node) (segments : List Segment) :
    hitsAlong r (ns ++ ms) segments = hitsAlong r ns segments ++ hitsAlong r ms segments := by
  induction segments generalizing ns ms with
  | nil => rfl
  | cons s rest ih => rw [hitsAlong, List.flatMap_append, ih, hitsAlong, hitsAlong]

/-- What segments lead to from several nodes is what they lead to from each of them. -/
theorem hitsAlong_eq_flatMap (r : Registry) (ns : List Node) (segments : List Segment) :
    hitsAlong r ns segments = ns.flatMap fun n ↦ hitsAlong r [n] segments := by
  induction ns with
  | nil => exact hitsAlong_nil r segments
  | cons n rest ih => rw [← List.singleton_append, hitsAlong_append, ih]; rfl

theorem mem_hitsAlong_cons :
    m ∈ hitsAlong r [n] (s :: segments) ↔ ∃ d ∈ s.hits r n, m ∈ hitsAlong r [d] segments := by
  rw [hitsAlong, List.flatMap_singleton, hitsAlong_eq_flatMap, List.mem_flatMap]

theorem mem_hits (hs : s.Structural) :
    m ∈ s.hits r n ↔ ∃ e ∈ s.reach n, s.takes e ∧ e.child = m := by
  have haccepts : ∀ d, Tree.accepts (s.verdict d) = true := fun d ↦ by
    rw [Segment.verdict, hs.formula]
    rfl
  rw [Segment.hits_of_ne_special hs.selector, List.mem_map]
  simp only [haccepts, Bool.and_true, List.mem_filter, and_assoc]
  rfl

theorem mem_reachBelow {e : Edge} :
    e ∈ s.reachBelow n ↔ s.recursive ∧ e ∈ s.reach n := by
  unfold Segment.reachBelow Segment.reach
  cases s.recursive <;> simp

/-- What a segment by keys matches at a node are children, or it is matched at a child. -/
theorem mem_hits_iff (hs : s.Structural) :
    m ∈ s.hits r n ↔ ∃ e ∈ n.childEdges,
      s.takes e ∧ e.child = m ∨ s.recursive ∧ m ∈ s.hits r e.child := by
  rw [mem_hits hs, s.reach_eq]
  simp only [List.mem_flatMap, List.mem_cons, mem_reachBelow, mem_hits hs]
  constructor
  · rintro ⟨e, ⟨top, htop, rfl | ⟨hrec, he⟩⟩, htakes, hm⟩
    · exact ⟨e, htop, .inl ⟨htakes, hm⟩⟩
    · exact ⟨top, htop, .inr ⟨hrec, e, he, htakes, hm⟩⟩
  · rintro ⟨top, htop, ⟨htakes, hm⟩ | ⟨hrec, e, he, htakes, hm⟩⟩
    · exact ⟨top, ⟨top, htop, .inl rfl⟩, htakes, hm⟩
    · exact ⟨e, ⟨top, htop, .inr ⟨hrec, he⟩⟩, htakes, hm⟩

/-- What is reached from a node where one of some lists of segments may be left. -/
def reached (r : Registry) (pending : List (List Segment)) (n : Node) : List Node :=
  pending.flatMap (hitsAlong r [n])

theorem mem_descend {size : Nat} :
    segments ∈ descend pending size key ↔ ∃ s rest, s :: rest ∈ pending ∧
      (s.selector.matchesKey size key ∧ segments = rest ∨ s.recursive ∧ segments = s :: rest) := by
  unfold descend
  rw [List.mem_flatMap]
  constructor
  · rintro ⟨left, hleft, hmem⟩
    cases left with
    | nil => cases hmem
    | cons s rest =>
      refine ⟨s, rest, hleft, (List.mem_append.1 hmem).imp (fun h ↦ ?_) fun h ↦ ?_⟩
      · split at h
        · exact ⟨‹_›, List.mem_singleton.1 h⟩
        · cases h
      · split at h
        · exact ⟨‹_›, List.mem_singleton.1 h⟩
        · cases h
  · rintro ⟨s, rest, hleft, h⟩
    refine ⟨s :: rest, hleft, List.mem_append.2 (h.imp ?_ ?_)⟩
    · rintro ⟨hkey, rfl⟩
      rw [if_pos hkey]
      exact List.mem_singleton_self _
    · rintro ⟨hrec, rfl⟩
      rw [if_pos hrec]
      exact List.mem_singleton_self _

/-- Segments by keys are all that may be left below, if they are all that may be left. -/
theorem structural_descend {size : Nat} (h : ∀ segments ∈ pending, ∀ s ∈ segments, s.Structural) :
    ∀ segments ∈ descend pending size key, ∀ s ∈ segments, s.Structural := by
  intro segments hsegments
  obtain ⟨s, rest, hleft, ⟨-, rfl⟩ | ⟨-, rfl⟩⟩ := mem_descend.1 hsegments
  · exact fun s' hs' ↦ h _ hleft s' (List.mem_cons_of_mem s hs')
  · exact h _ hleft

/-- A node is reached at the end of the path, or from a child with what is left there. -/
theorem mem_reached_iff (h : ∀ segments ∈ pending, ∀ s ∈ segments, s.Structural) :
    m ∈ reached r pending n ↔ ends pending ∧ m = n ∨
      ∃ e ∈ n.childEdges, m ∈ reached r (descend pending e.siblings e.key) e.child := by
  simp only [reached, List.mem_flatMap]
  constructor
  · rintro ⟨segments, hsegments, hm⟩
    cases segments with
    | nil =>
      exact .inl ⟨List.any_eq_true.2 ⟨[], hsegments, rfl⟩, List.mem_singleton.1 hm⟩
    | cons s rest =>
      obtain ⟨d, hd, hm⟩ := mem_hitsAlong_cons.1 hm
      obtain ⟨e, he, ⟨htakes, rfl⟩ | ⟨hrec, hd⟩⟩ :=
        (mem_hits_iff (h _ hsegments s (List.mem_cons_self ..))).1 hd
      · exact .inr ⟨e, he, rest, mem_descend.2 ⟨s, rest, hsegments, .inl ⟨htakes, rfl⟩⟩, hm⟩
      · exact .inr ⟨e, he, s :: rest, mem_descend.2 ⟨s, rest, hsegments, .inr ⟨hrec, rfl⟩⟩,
          mem_hitsAlong_cons.2 ⟨d, hd, hm⟩⟩
  · rintro (⟨hends, rfl⟩ | ⟨e, he, segments, hsegments, hm⟩)
    · obtain ⟨segments, hsegments, hnil⟩ := List.any_eq_true.1 hends
      obtain rfl := List.isEmpty_iff.1 hnil
      exact ⟨[], hsegments, List.mem_singleton_self _⟩
    · obtain ⟨s, rest, hleft, ⟨hkey, rfl⟩ | ⟨hrec, rfl⟩⟩ := mem_descend.1 hsegments
      · refine ⟨s :: segments, hleft, mem_hitsAlong_cons.2 ⟨e.child, ?_, hm⟩⟩
        exact (mem_hits_iff (h _ hleft s (List.mem_cons_self ..))).2 ⟨e, he, .inl ⟨hkey, rfl⟩⟩
      · obtain ⟨d, hd, hm⟩ := mem_hitsAlong_cons.1 hm
        refine ⟨s :: rest, hleft, mem_hitsAlong_cons.2 ⟨d, ?_, hm⟩⟩
        exact (mem_hits_iff (h _ hleft s (List.mem_cons_self ..))).2 ⟨e, he, .inr ⟨hrec, hd⟩⟩

theorem mem_of_mem_hitsAlong (hns : ∀ m ∈ ns, m ∈ n :: n.descendants)
    (h : m ∈ hitsAlong r ns segments) : m ∈ n :: n.descendants := by
  induction segments generalizing ns with
  | nil => exact hns m h
  | cons s rest ih => exact ih (mem_flatMap_hits hns s r) h

theorem mem_of_mem_reached (h : m ∈ reached r pending n) : m ∈ n :: n.descendants := by
  obtain ⟨segments, -, hm⟩ := List.mem_flatMap.1 h
  refine mem_of_mem_hitsAlong (fun d hd ↦ ?_) hm
  exact List.mem_singleton.1 hd ▸ List.mem_cons_self ..

/-! ### Overwriting what is reached -/

/-- The handles of what is reached. -/
def reachedIds (r : Registry) (pending : List (List Segment)) (n : Node) : List NodeId :=
  (reached r pending n).map Node.id

/-- The node itself is reached exactly if the path ends there. -/
theorem id_mem_reachedIds (hn : n.ids.Nodup)
    (h : ∀ segments ∈ pending, ∀ s ∈ segments, s.Structural) :
    n.id ∈ reachedIds r pending n ↔ ends pending := by
  rw [reachedIds, List.mem_map]
  constructor
  · rintro ⟨m, hm, hid⟩
    obtain rfl := Node.eq_of_id_eq hn (mem_of_mem_reached hm) (List.mem_cons_self ..) hid
    rcases (mem_reached_iff h).1 hm with ⟨hends, -⟩ | ⟨e, he, hbelow⟩
    · exact hends
    · have hchild := Node.mem_descendants_of_mem_childNodes (Node.child_mem_childNodes he)
      have hself : m ∈ m.descendants := (List.mem_cons.1 (mem_of_mem_reached hbelow)).elim
        (fun heq ↦ heq ▸ hchild)
        fun hm ↦ Node.descendants_subset_of_mem (List.mem_cons_of_mem m hchild) hm
      exact absurd hself (Node.notMem_descendants hn)
  · exact fun hends ↦ ⟨n, (mem_reached_iff h).2 (.inl ⟨hends, rfl⟩), rfl⟩

/-- A child is listed with one key. -/
theorem key_eq_of_mem_children (hn : n.ids.Nodup) {other : Key} (hc : (key, c) ∈ n.children)
    (hother : (other, c) ∈ n.children) : other = key := by
  have hnodup := Node.nodup_map_id_childNodes hn
  rw [Node.childNodes, List.map_map] at hnodup
  exact congrArg Prod.fst (List.inj_on_of_nodup_map hnodup hother hc rfl)

/-- What is reached at or below a child is what is reached from there. -/
theorem mem_reachedIds_child (hn : n.ids.Nodup)
    (h : ∀ segments ∈ pending, ∀ s ∈ segments, s.Structural) (hc : (key, c) ∈ n.children)
    {i : NodeId} (hi : i ∈ c.ids) :
    i ∈ reachedIds r pending n ↔
      i ∈ reachedIds r (descend pending n.children.length key) c := by
  have hchild : c ∈ n.childNodes := Node.mem_childNodes.2 ⟨key, hc⟩
  rw [reachedIds, List.mem_map, reachedIds, List.mem_map]
  constructor
  · rintro ⟨m, hm, rfl⟩
    rcases (mem_reached_iff h).1 hm with ⟨-, rfl⟩ | ⟨e, he, hbelow⟩
    · rw [Node.ids_eq, List.nodup_cons] at hn
      exact absurd (List.mem_flatMap.2 ⟨c, hchild, hi⟩) hn.1
    · obtain rfl := Node.eq_of_mem_ids_childNodes hn hchild (Node.child_mem_childNodes he) hi
        (Node.id_mem_ids_of_mem (mem_of_mem_reached hbelow))
      obtain ⟨⟨other, d⟩, hother, rfl⟩ := List.mem_map.1 he
      rw [key_eq_of_mem_children hn hc hother] at hbelow
      exact ⟨m, hbelow, rfl⟩
  · rintro ⟨m, hm, rfl⟩
    exact ⟨m, (mem_reached_iff h).2 (.inr ⟨_, List.mem_map.2 ⟨(key, c), hc, rfl⟩, hm⟩), rfl⟩

/-- A node that is not overwritten itself is rewritten if its children are. -/
theorem overwrite_eq_rewrite_of_children (hself : n.id ∉ ids) (hends : ends pending = false)
    (hchildren : ∀ {key : Key} {c : Node}, (key, c) ∈ n.children →
      c.overwrite ids v = rewrite (descend pending n.children.length key) v c.toJson) :
    n.overwrite ids v = rewrite pending v n.toJson := by
  cases n with
  | scalar i s =>
    rw [Node.overwrite, if_neg (show i ∉ ids from hself), Node.toJson_scalar, rewrite, hends,
      if_neg Bool.false_ne_true]
  | sequence i items =>
    rw [Node.overwrite, if_neg (show i ∉ ids from hself), Node.toJson_sequence,
      rewrite_array hends, Node.overwriteItems_eq]
    refine congrArg Json.array (List.ext_getElem (by simp) fun k hk hk' ↦ ?_)
    rw [List.length_map] at hk
    have hitem : (Key.index k, items[k]) ∈ (Node.sequence i items).children :=
      List.mem_map.2 ⟨(items[k], k),
        List.mem_zipIdx_iff_getElem?.2 (List.getElem?_eq_getElem hk), rfl⟩
    rw [List.getElem_map, hchildren hitem]
    simp [Node.children]
  | map i entries =>
    rw [Node.overwrite, if_neg (show i ∉ ids from hself), Node.toJson_map, rewrite_object hends,
      Node.overwriteEntries_eq, List.map_map]
    refine congrArg Json.object (List.map_congr_left fun entry he ↦ ?_)
    have hentry : (Key.name entry.1, entry.2) ∈ (Node.map i entries).children :=
      List.mem_map_of_mem (f := fun entry : String × Node ↦ (Key.name entry.1, entry.2)) he
    rw [hchildren hentry]
    simp [Node.children]

/-- Overwriting what is reached is rewriting the value. -/
theorem overwrite_eq_rewrite (hn : n.ids.Nodup)
    (h : ∀ segments ∈ pending, ∀ s ∈ segments, s.Structural) (v : Json)
    (hids : ∀ i ∈ n.ids, i ∈ ids ↔ i ∈ reachedIds r pending n) :
    n.overwrite ids v = rewrite pending v n.toJson := by
  induction n using Node.induction_children generalizing pending with
  | step n ih =>
    cases hends : ends pending with
    | true =>
      rw [rewrite_of_ends hends, Node.overwrite_of_mem]
      exact (hids n.id n.id_mem_ids).2 ((id_mem_reachedIds hn h).2 hends)
    | false =>
      refine overwrite_eq_rewrite_of_children (fun hmem ↦ ?_) hends fun {key c} hc ↦ ?_
      · rw [hids n.id n.id_mem_ids, id_mem_reachedIds hn h, hends] at hmem
        cases hmem
      · have hmem := Node.mem_childNodes.2 ⟨key, hc⟩
        refine ih c hmem (Node.nodup_of_mem_childNodes hn hmem) (structural_descend h) fun i hi ↦ ?_
        rw [hids i (Node.ids_subset_of_mem_childNodes hmem hi), mem_reachedIds_child hn h hc hi]

end Path

namespace Tree

variable {t : Tree} {raw : String} {p : Path} {v : Json}

/-! ### Setting -/

/-- Setting along segments by keys rewrites the document. -/
theorem Sound.document_set (h : t.Sound) (hp : Path.parse raw = .ok p)
    (hs : ∀ s ∈ p.segments, s.Structural) (hv : v.Distinct)
    (hw : (t.set [(raw, v)]).2.slots.Unwrapped) :
    (t.set [(raw, v)]).2.document = Path.rewrite [p.segments] v t.document := by
  have hroot := t.root_findPath p
  have hl := leads_findPath hp h
  have hwf := Path.wellFormed_of_parse hp
  have hids : ∀ i ∈ t.root.ids,
      i ∈ (t.findPath p).1 ↔ i ∈ Path.reachedIds t.registry [p.segments] t.root := fun i hi ↦ by
    have hreached : Path.reached t.registry [p.segments] t.root =
        t.attached (t.findPath p).1 := by
      rw [h.attached_findPath hwf, Path.reached, List.flatMap_singleton]
    rw [Path.reachedIds, hreached]
    exact (mem_matched.trans (and_iff_left hi)).symm
  rw [set_singleton hp] at hw ⊢
  obtain ⟨c', m', hroot', -, hspine, -, hvalue⟩ := (hl.sound h).exists_fill_replaceEach hv
    (h.seen_of_mem_findPath hwf) hw (c := []) rfl fun _ _ ↦ List.not_mem_nil
  obtain rfl : c' = [] := List.map_eq_nil_iff.1 hspine
  rw [document, hroot', Node.Context.fill_nil, hvalue, hroot, document]
  refine Path.overwrite_eq_rewrite h.nodup_ids_root (fun segments hsegments ↦ ?_) v hids
  exact List.mem_singleton.1 hsegments ▸ hs

/-- Setting what a path by keys leads to a second time changes nothing in the document, not even if
the value that was set has inside what the path leads to. It does not matter whether the second time
is in the tree that was changed or in another tree of the same document. -/
theorem set_again (ht : t.Reachable) (hp : Path.parse raw = .ok p)
    (hs : ∀ s ∈ p.segments, s.Structural) (hv : v.Distinct)
    (hw : ((t.set [(raw, v)]).2.set [(raw, v)]).2.slots.Unwrapped) :
    ∃ t' t'', t.set [(raw, v)] = (.ok (), t') ∧ t'.set [(raw, v)] = (.ok (), t'') ∧
      t''.document = t'.document ∧
      ∀ u : Tree, u.Reachable → u.document = t'.document →
        (u.set [(raw, v)]).2.slots.Unwrapped → (u.set [(raw, v)]).2.document = u.document := by
  have hdistinct : DistinctValues [(raw, v)] := fun entry hentry ↦
    List.mem_singleton.1 hentry ▸ hv
  have hw₁ := (leads_set hdistinct (ht.set hdistinct).sound).le_slots.unwrapped hw
  have hfirst := ht.sound.document_set hp hs hv hw₁
  have hagain : ∀ u : Tree, u.Reachable → u.document = (t.set [(raw, v)]).2.document →
      (u.set [(raw, v)]).2.slots.Unwrapped → (u.set [(raw, v)]).2.document = u.document := by
    intro u hu hdocument hwu
    rw [hu.sound.document_set hp hs hv hwu, hdocument, hfirst, Path.rewrite_rewrite]
  refine ⟨(t.set [(raw, v)]).2, ((t.set [(raw, v)]).2.set [(raw, v)]).2, ?_, ?_,
    hagain _ (ht.set hdistinct) rfl hw, hagain⟩
  · rw [set_singleton hp]
  · rw [set_singleton hp]

/-- A value that has a match inside, in place of nested ones. -/
theorem set_again_nested :
    ∃ t' t'', (ofJson .builtin (.object [("a", .array [.object [("a", .null)]])])).set
        [("..a", .object [("a", .bool true)])] = (.ok (), t') ∧
      t'.set [("..a", .object [("a", .bool true)])] = (.ok (), t'') ∧
      t''.document = t'.document := by
  have hreachable : (ofJson .builtin (.object [("a", .array [.object [("a", .null)]])])).Reachable :=
    .ofJson _ (by simp)
  have hparse : Path.parse "..a" = .ok ⟨"..a", [⟨"a", .key "a", none, true⟩]⟩ := rfl
  have hstructural : ∀ s ∈ [(⟨"a", .key "a", none, true⟩ : Path.Segment)], s.Structural := by
    intro s hs
    obtain rfl := List.mem_singleton.1 hs
    exact ⟨rfl, fun _ _ ↦ by simp⟩
  obtain ⟨t', t'', hset, hset', hsame, -⟩ := set_again (v := .object [("a", .bool true)])
    hreachable hparse hstructural (by simp) (by decide)
  exact ⟨t', t'', hset, hset', hsame⟩

end Tree

end DocPath

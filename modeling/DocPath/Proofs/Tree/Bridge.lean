import DocPath.Proofs.Node.Write
import DocPath.Proofs.Path.Course
import DocPath.Proofs.Tree.Reachable

/-!
# Bridging at one place

One segment of a bridge that names a key of a node of the document `Advances` to the node under that
key: it is prepared for the segments that follow if it is there (`advances_of_child`), and made if
it is missing (`advances_of_missing`).
-/

namespace DocPath

namespace Tree

open DocPath.Path (Segment)
open Node (Context Frame Written)
open Operation (childWith?)
open Json (Kept writeIn)

variable {t t' : Tree} {c : Context} {n d : Node} {key : Key} {s : Segment} {v : Json}

/-! ### Nodes of the document -/

namespace Sound

theorem notMem_context (h : t.Sound) (hroot : t.root = Context.fill c n) :
    n.id ∉ Context.ids c := by
  have hnodup := h.nodup_ids_of_mem_tops t.root_mem_tops
  rw [hroot] at hnodup
  exact Context.notMem_ids_of_nodup hnodup n.id_mem_ids

theorem node?_of_root (h : t.Sound) (hroot : t.root = Context.fill c n) :
    t.node? n.id = some n := by
  have hsplit : t.tops = [] ++ Context.fill c n :: (t.adopted ++ t.scratch) := by
    rw [tops, hroot, List.nil_append]
  exact h.node?_split hsplit

theorem view_of_root (h : t.Sound) (hroot : t.root = Context.fill c n) : t.view n.id = n :=
  view_of_node? (h.node?_of_root hroot)

/-- Giving a node of the document a value exchanges it in its place. -/
theorem root_replaceWith (h : t.Sound) (hroot : t.root = Context.fill c n) (v : Json) :
    ∃ n', n'.id = n.id ∧ n'.toJson = v ∧ (t.replaceWith n.id v).root = Context.fill c n' := by
  rw [replaceWith_of_node? (h.node?_of_root hroot)]
  refine ⟨(Node.build n.id v (t.slots.releaseAll n.releaseOrderBelow)).1,
    Node.id_build .., Node.toJson_build .., ?_⟩
  show Node.replace n.id _ t.root = _
  rw [hroot, Context.replace_id_fill _ (h.notMem_context hroot)]

/-- The nodes of values that end with one more value. -/
theorem exists_buildItems_concat (values : List Json) (v : Json) (slots : Slots) :
    ∃ nodes m, (Node.buildItems (values ++ [v]) slots).1 = nodes ++ [m] ∧
      nodes.map Node.toJson = values ∧ m.toJson = v := by
  have hjson := Node.map_toJson_buildItems (values ++ [v]) slots
  rw [List.map_eq_append_iff] at hjson
  obtain ⟨nodes, last, hsplit, hnodes, hlast⟩ := hjson
  obtain ⟨m, rfl, hm⟩ := List.map_eq_singleton_iff.1 hlast
  exact ⟨nodes, m, hsplit, hnodes, hm⟩

/-- Inserting a child that is missing opens a node of the document at its end. -/
theorem root_insertChild (h : t.Sound) (hroot : t.root = Context.fill c n)
    (hkind : n.kind = key.container) (hkey : key.InRange) (hnone : n.childAt? key = none)
    (v : Json) :
    ∃ (f : Frame) (m : Node), f.Opens n key ∧ m.toJson = v ∧
      (t.insertChild n.id key v).1 = some m.id ∧
      (t.insertChild n.id key v).2.root = Context.fill c (f.fill m) := by
  have hchild : t.child? n.id key true = none := by
    rw [Tree.child?, h.view_of_root hroot, Node.child?_eq_childAt? hkind hkey, hnone]
    rfl
  have hnode := h.node?_of_root hroot
  have hctx := h.notMem_context hroot
  cases n with
  | scalar i s => cases key <;> cases hkind
  | map i entries =>
    cases key with
    | index k => cases hkind
    | name k =>
      have hk : k ∉ entries.map Prod.fst := by
        have hmissing : (Node.map i entries).child? (.name k) true = none := by
          rwa [Node.child?_eq_childAt? hkind hkey]
        exact Node.notMem_names_of_child?_eq_none hmissing
      refine ⟨.map i entries k [], (Node.build t.slots.allocate.1 v t.slots.allocate.2).1,
        Node.opens_map_end hk, Node.toJson_build .., ?_⟩
      rw [insertChild_map hchild hnode]
      refine ⟨by simp [Tree.appendEntry, Node.buildEntries], ?_⟩
      show Node.replace (Node.map i entries).id _ t.root = _
      rw [hroot, Context.replace_id_fill _ hctx]
      rfl
  | sequence i items =>
    cases key with
    | name k => cases hkind
    | index k =>
      have hk : items.length ≤ k := List.getElem?_eq_none_iff.1 hnone
      obtain ⟨pads, m, hnodes, hpads, hm⟩ :=
        exists_buildItems_concat (List.replicate (k - items.length) Json.null) v t.slots
      -- the padding goes before the hole of the frame, the value into it
      refine ⟨.sequence i (items ++ pads) [], m, Node.opens_sequence_end hk hpads, hm, ?_⟩
      rw [insertChild_sequence hchild hnode hkey, appendItems_eq, hnodes]
      refine ⟨by simp, ?_⟩
      show Node.replace (Node.sequence i items).id _ t.root = _
      rw [hroot, Context.replace_id_fill _ hctx, ← List.append_assoc]
      rfl

end Sound

/-! ### One key -/

/-- The value that a key has before the bridge goes on with segments: fitted for the next one, or the
value to write if there is none. -/
def stopValue (v : Json) (segments : List Segment) (old : Option Json) : Json :=
  match segments with
  | [] => v
  | next :: _ => (old.getD .null).fit (containerFor next)

/-- One segment of a bridge has taken a node of the document, at its context, down to a key: the
frame opens the node, and the bridge goes on with the node in it. -/
structure Advances (t : Tree) (c : Context) (n : Node) (s : Segment) (v : Json) (key : Key)
    (segments : List Segment) (f : Frame) (m : Node) (t' : Tree) : Prop where
  result : t.bridgeSegment s (segments.head?.map containerFor) v [n.id] =
    (if (segments.head?.map containerFor).isSome then [m.id] else [], t')
  root : t'.root = Context.fill (c ++ [f]) m
  opens : f.Opens n key
  value : m.toJson = stopValue v segments (childWith? n.toJson key)
  id : ∀ {d : Node}, n.childAt? key = some d → m.id = d.id
  kept : ∀ {d : Node}, n.childAt? key = some d → segments.head?.map containerFor = some d.kind →
    m = d ∧ t' = t

theorem bridgeSegment_singleton (t : Tree) (s : Segment) (required : Option Kind) (v : Json)
    (id : NodeId) :
    t.bridgeSegment s required v [id] =
      (if required.isSome then (t.reachOrCreate s required v id).1 else [],
        prepare required v (t.reachOrCreate s required v id).2
          (t.reachOrCreate s required v id).1) := by
  rw [bridgeSegment_cons]
  simp [bridgeSegment]

/-- A child that is there is prepared for what follows. -/
theorem advances_of_child (h : t.Sound) (hroot : t.root = Context.fill c n)
    {segments : List Segment} (hd : n.childAt? key = some d)
    (hreach : t.reachOrCreate s (segments.head?.map containerFor) v n.id = ([d.id], t)) :
    ∃ (f : Frame) (m : Node) (t' : Tree), Advances t c n s v key segments f m t' := by
  obtain ⟨f, hn, hf⟩ := Node.opens_of_childAt? hd
  have hchild : t.root = Context.fill (c ++ [f]) d := by
    rw [hroot, Context.fill_append, hn]
    rfl
  have hold : childWith? n.toJson key = some d.toJson := by
    rw [Node.childWith?_toJson, hd, Option.map_some]
  have hsame : ∀ {d' : Node}, n.childAt? key = some d' → d = d' := fun hd' ↦
    Option.some.inj (hd.symm.trans hd')
  have hsegment := t.bridgeSegment_singleton s (segments.head?.map containerFor) v n.id
  rw [hreach] at hsegment
  cases segments with
  | nil =>
    obtain ⟨m, hid, hm, hroot'⟩ := h.root_replaceWith hchild v
    exact ⟨f, m, t.replaceWith d.id v, hsegment, hroot', hf, hm,
      fun hd' ↦ hid.trans (congrArg Node.id (hsame hd')), fun _ hkept ↦ by cases hkept⟩
  | cons next rest =>
    have hkind : t.kind? d.id = some d.kind := kind?_of_node? (h.node?_of_root hchild)
    -- a child of the right kind stays the same node, any other one is emptied
    by_cases hfit : d.kind = containerFor next
    · refine ⟨f, d, t, ?_, hchild, hf, ?_, fun hd' ↦ congrArg Node.id (hsame hd'),
        fun hd' _ ↦ ⟨hsame hd', rfl⟩⟩
      · rw [hsegment]
        simp [prepare, hkind, hfit]
      · rw [hold]
        exact (Json.fit_of_kind ((Node.kind_toJson d).trans hfit)).symm
    · obtain ⟨m, hid, hm, hroot'⟩ := h.root_replaceWith hchild (Json.empty (containerFor next))
      refine ⟨f, m, t.replaceWith d.id (Json.empty (containerFor next)), ?_, hroot', hf, ?_,
        fun hd' ↦ hid.trans (congrArg Node.id (hsame hd')), fun hd' hkept ↦ ?_⟩
      · rw [hsegment, hid]
        simp [prepare, hkind, hfit]
      · rw [hold, hm]
        exact (if_neg fun heq ↦ hfit ((Node.kind_toJson d).symm.trans heq)).symm
      · obtain rfl := hsame hd'
        exact absurd (Option.some.inj hkept).symm hfit

/-- A child that is missing is made. -/
theorem advances_of_missing (h : t.Sound) (hroot : t.root = Context.fill c n)
    (hkey : literalKey? s n = some key) (hkind : n.kind = key.container) (hrange : key.InRange)
    (hnone : n.childAt? key = none) (segments : List Segment) :
    ∃ (f : Frame) (m : Node) (t' : Tree), Advances t c n s v key segments f m t' := by
  have hliteral : (t.node? n.id).bind (literalKey? s) = some key := by
    rw [h.node?_of_root hroot, Option.bind_some, hkey]
  have hchild : t.child? n.id key true = none := by
    rw [child?, h.view_of_root hroot, Node.child?_eq_childAt? hkind hrange, hnone]
    rfl
  have hold : childWith? n.toJson key = none := by
    rw [Node.childWith?_toJson, hnone, Option.map_none]
  have hnever : ∀ {d : Node}, n.childAt? key ≠ some d := fun hd ↦ by
    rw [hnone] at hd
    cases hd
  have hsegment := t.bridgeSegment_singleton s (segments.head?.map containerFor) v n.id
  rw [reachOrCreate_of_some hliteral, hchild] at hsegment
  cases segments with
  | nil =>
    obtain ⟨f, m, hf, hm, -, hroot'⟩ := h.root_insertChild hroot hkind hrange hnone v
    refine ⟨f, m, _, hsegment, ?_, hf, hm, fun hd ↦ absurd hd hnever, fun hd ↦ absurd hd hnever⟩
    rw [Context.fill_append]
    exact hroot'
  | cons next rest =>
    obtain ⟨f, m, hf, hm, hcreated, hroot'⟩ :=
      h.root_insertChild hroot hkind hrange hnone (Json.empty (containerFor next))
    have hroot'' : (t.insertChild n.id key (Json.empty (containerFor next))).2.root =
        Context.fill (c ++ [f]) m := by
      rw [Context.fill_append]
      exact hroot'
    -- the new child is already the container that comes next, so preparing it changes nothing
    have hsound := h.insertChild n.id key (distinct_empty (containerFor next))
    have hfit : (t.insertChild n.id key (Json.empty (containerFor next))).2.kind? m.id =
        some (containerFor next) := by
      rw [kind?_of_node? (hsound.node?_of_root hroot''), ← Node.kind_toJson, hm,
        Path.kind_empty_containerFor]
    refine ⟨f, m, (t.insertChild n.id key (Json.empty (containerFor next))).2, ?_, hroot'', hf, ?_,
      fun hd ↦ absurd hd hnever, fun hd ↦ absurd hd hnever⟩
    · rw [hsegment]
      simp [hcreated, prepare, hfit]
    · rw [hold, hm]
      exact (if_neg fun heq ↦ Path.containerFor_ne_scalar next heq.symm).symm

/-- A segment that names a key of a container takes the bridge down to it. -/
theorem advances_of_literalKey? (h : t.Sound) (hroot : t.root = Context.fill c n)
    (hkey : literalKey? s n = some key) (hkind : n.kind = key.container) (hrange : key.InRange)
    (segments : List Segment) :
    ∃ (f : Frame) (m : Node) (t' : Tree), Advances t c n s v key segments f m t' := by
  cases hd : n.childAt? key with
  | none => exact advances_of_missing h hroot hkey hkind hrange hd segments
  | some d =>
    refine advances_of_child h hroot hd ?_
    have hliteral : (t.node? n.id).bind (literalKey? s) = some key := by
      rw [h.node?_of_root hroot, Option.bind_some, hkey]
    have hchild : t.child? n.id key true = some d.id := by
      rw [child?, h.view_of_root hroot, Node.child?_eq_childAt? hkind hrange, hd]
      rfl
    rw [reachOrCreate_of_some hliteral, hchild]

end Tree

end DocPath

import DocPath.Proofs.Tree.Reachable
import DocPath.Proofs.Tree.Stale

/-!
# The lifetime of handles

A handle is live from the operation that issues it to the one that releases its node, and never
again after that, although its slot is used for other nodes at once. `Transition` is one operation
with any arguments, `History` is what was done between two states of a tree, and the trees with a
history that begins with a document are the reachable ones (`reachable_iff_history`).

To a caller who still holds such a handle the tree looks as if its node had never been there, and
changes through the handle are without effect: the handle is `Gone`, for the rest of the history
(`gone_of_history`).
-/

namespace DocPath.Tree

open DocPath.Path (Segment)

/-- One operation, with any arguments. In an export the other tree has a history of its own. -/
inductive Transition : Tree → Tree → Prop
  | find {t : Tree} {path : String} {found : List NodeId × Tree} (h : t.find path = .ok found) :
    Transition t found.2
  | findValues {t : Tree} {path : String} {found : List Json × Tree}
    (h : t.findValues path = .ok found) : Transition t found.2
  | findFrom (t : Tree) {p : Path} (hp : ∀ s ∈ p.segments, s.selector.WellFormed)
    (start : NodeId) : Transition t (t.findFrom p start).2
  | segmentMatches (t : Tree) {s : Segment} (hs : s.selector.WellFormed) (id : NodeId) :
    Transition t (t.segmentMatches s id).2
  | evaluates (t : Tree) (s : Segment) (id : NodeId) : Transition t (t.evaluates s id).2
  | set (t : Tree) {entries : List (String × Json)} (hv : DistinctValues entries) :
    Transition t (t.set entries).2
  | bridge (t : Tree) {entries : List (String × Json)} (hv : DistinctValues entries) :
    Transition t (t.bridge entries).2
  | transfer (t : Tree) (all moving : Bool) (entries : List (String × String)) :
    Transition t (transfer all moving t entries).2
  | delete (t : Tree) (paths : List String) : Transition t (t.delete paths).2
  | exportFrom (t : Tree) {other : Tree} (hother : other.Reachable) (moving : Bool)
    (paths : List String) : Transition t (exportAll moving t other paths).2.1
  | exportTo (t : Tree) {other : Tree} (hother : other.Reachable) (moving : Bool)
    (paths : List String) : Transition t (exportAll moving other t paths).2.2
  | kill (t : Tree) (id : NodeId) : Transition t (t.kill id).2
  | adopt (t : Tree) {v : Json} (hv : v.Distinct) : Transition t (t.adopt v).2
  | replaceWith (t : Tree) (id : NodeId) {v : Json} (hv : v.Distinct) :
    Transition t (t.replaceWith id v)
  | insertChild (t : Tree) (id : NodeId) (key : Key) {v : Json} (hv : v.Distinct) :
    Transition t (t.insertChild id key v).2
  | deleteChild (t : Tree) (id : NodeId) (key : Key) : Transition t (t.deleteChild id key).2
  | takeLog (t : Tree) : Transition t t.takeLog.2

/-- Operations, one after the other. -/
def History : Tree → Tree → Prop :=
  Relation.ReflTransGen Transition

variable {t t' t'' : Tree} {id : NodeId}

/-! ### Histories and reachable trees -/

theorem Transition.reachable (h : Transition t t') (ht : t.Reachable) : t'.Reachable := by
  cases h with
  | find h => exact .find ht h
  | findValues h => exact .findValues ht h
  | findFrom hp start => exact .findFrom ht hp start
  | segmentMatches hs id => exact .segmentMatches ht hs id
  | evaluates s id => exact .evaluates ht s id
  | set hv => exact .set ht hv
  | bridge hv => exact .bridge ht hv
  | transfer all moving entries => exact .transfer ht all moving entries
  | delete paths => exact .delete ht paths
  | exportFrom hother moving paths => exact .exportFrom ht hother moving paths
  | exportTo hother moving paths => exact .exportTo hother ht moving paths
  | kill id => exact .kill ht id
  | adopt hv => exact .adopt ht hv
  | replaceWith id hv => exact .replaceWith ht id hv
  | insertChild id key hv => exact .insertChild ht id key hv
  | deleteChild id key => exact .deleteChild ht id key
  | takeLog => exact .takeLog ht

/-- An operation is a run of elementary changes. -/
theorem Transition.leads (h : Transition t t') (ht : t.Sound) : t.Leads t' := by
  cases h with
  | find h => exact leads_find h ht
  | findValues h => exact leads_findValues h ht
  | findFrom hp start => exact leads_findFrom hp ht start
  | segmentMatches hs id => exact leads_segmentMatches hs ht id
  | evaluates s id => exact leads_evaluates s t id
  | set hv => exact leads_set hv ht
  | bridge hv => exact leads_bridge hv ht
  | transfer all moving entries => exact leads_transfer all moving entries ht
  | delete paths => exact leads_delete paths ht
  | exportFrom hother moving paths => exact (leads_exportAll moving paths ht hother.sound).1
  | exportTo hother moving paths => exact (leads_exportAll moving paths hother.sound ht).2
  | kill id => exact .single (.kill t id)
  | adopt hv => exact .single (.adopt t hv)
  | replaceWith id hv => exact .single (.replaceWith t id hv)
  | insertChild id key hv => exact leads_insertChild t id key hv
  | deleteChild id key => exact .single (.deleteChild t id key)
  | takeLog => exact .single (.takeLog t)

namespace History

theorem reachable (h : t.History t') (ht : t.Reachable) : t'.Reachable := by
  induction h with
  | refl => exact ht
  | tail _ hlast ih => exact hlast.reachable ih

theorem leads (h : t.History t') (ht : t.Sound) : t.Leads t' := by
  induction h with
  | refl => exact .refl t
  | tail _ hlast ih => exact ih.trans (hlast.leads (ih.sound ht))

end History

/-- A history goes on with one more operation. -/
theorem exists_history_tail (h : ∃ registry v, v.Distinct ∧ (ofJson registry v).History t)
    (hlast : Transition t t') :
    ∃ registry v, v.Distinct ∧ (ofJson registry v).History t' := by
  obtain ⟨registry, v, hv, h⟩ := h
  exact ⟨registry, v, hv, h.tail hlast⟩

/-- The reachable trees are those with a history that begins with the tree of a document. -/
theorem reachable_iff_history :
    t.Reachable ↔ ∃ registry v, v.Distinct ∧ (ofJson registry v).History t := by
  constructor
  · intro h
    induction h with
    | ofJson registry hv => exact ⟨registry, _, hv, .refl⟩
    | find _ h ih => exact exists_history_tail ih (.find h)
    | findValues _ h ih => exact exists_history_tail ih (.findValues h)
    | findFrom _ hp start ih => exact exists_history_tail ih (.findFrom _ hp start)
    | segmentMatches _ hs id ih => exact exists_history_tail ih (.segmentMatches _ hs id)
    | evaluates _ s id ih => exact exists_history_tail ih (.evaluates _ s id)
    | set _ hv ih => exact exists_history_tail ih (.set _ hv)
    | bridge _ hv ih => exact exists_history_tail ih (.bridge _ hv)
    | transfer _ all moving entries ih =>
      exact exists_history_tail ih (.transfer _ all moving entries)
    | delete _ paths ih => exact exists_history_tail ih (.delete _ paths)
    | exportFrom _ hother moving paths ih _ =>
      exact exists_history_tail ih (.exportFrom _ hother moving paths)
    | exportTo ht _ moving paths _ ih =>
      exact exists_history_tail ih (.exportTo _ ht moving paths)
    | kill _ id ih => exact exists_history_tail ih (.kill _ id)
    | adopt _ hv ih => exact exists_history_tail ih (.adopt _ hv)
    | replaceWith _ id hv ih => exact exists_history_tail ih (.replaceWith _ id hv)
    | insertChild _ id key hv ih => exact exists_history_tail ih (.insertChild _ id key hv)
    | deleteChild _ id key ih => exact exists_history_tail ih (.deleteChild _ id key)
    | takeLog _ ih => exact exists_history_tail ih (.takeLog _)
  · rintro ⟨registry, v, hv, h⟩
    exact h.reachable (.ofJson registry hv)

/-! ### Handles without a node -/

/-- What a caller sees and can do through a handle that names nothing. -/
structure Gone (t : Tree) (id : NodeId) : Prop where
  contains : t.contains id = false
  value : t.value id = .null
  children : t.children id = []
  ancestors : t.ancestors id = []
  parent? : t.parent? id = none
  key? : t.key? id = none
  absolutePath? : t.absolutePath? id = none
  kill : t.kill id = (false, t)
  replaceWith : ∀ v, t.replaceWith id v = t
  insertChild : ∀ key v, t.insertChild id key v = (none, t)
  deleteChild : ∀ key, t.deleteChild id key = (none, t)

/-- A handle that is not live names nothing, be it stale or of another tree. -/
theorem gone_of_notMem_ids (h : id ∉ t.ids) : t.Gone id := by
  have hnode : t.node? id = none := node?_eq_none.2 h
  have hroot : id ∉ t.root.ids := fun hid ↦ h (mem_ids_of_mem_root hid)
  -- all that is looked at through the handle is a null, which has no children
  have hview : t.view id = .scalar id .null := by rw [view, hnode, Option.getD_none]
  have hchild : ∀ key exact, (t.view id).child? key exact = none := fun key exact ↦ by
    rw [hview, Node.child?]
  have htrail := trail_of_not_contains h
  constructor
  case contains => rw [contains, hnode, Option.isSome_none]
  case value => rw [value, hview, Node.toJson_scalar]
  case children => rw [children, hview, Node.children]
  case ancestors => rw [ancestors, htrail, List.map_nil, List.reverse_nil]
  case parent? => rw [parent?, lastStep?, htrail, List.getLast?_nil, Option.map_none]
  case key? => rw [key?, lastStep?, htrail, List.getLast?_nil, Option.map_none]
  case absolutePath? => rw [absolutePath?, Node.trail?_of_notMem hroot, Option.map_none]
  case kill => rw [kill, Node.find?_eq_none.2 hroot]
  case replaceWith => exact replaceWith_of_none hnode
  case insertChild =>
    intro key v
    rw [insertChild, child?, hchild, hnode, Option.map_none]
  case deleteChild =>
    intro key
    rw [deleteChild, hchild]

/-- A handle that was live and is stale after some operations names nothing from then on, whatever
else is done and allocated, as long as no slot is released `2 ^ 32` times. -/
theorem gone_of_history (ht : t.Reachable) (h : t.History t') (h' : t'.History t'')
    (hw : t''.slots.Unwrapped) (hlive : t.contains id) (hstale : t'.contains id = false) :
    t''.Gone id := by
  have hl := h.leads ht.sound
  have hl' := h'.leads (hl.sound ht.sound)
  have hgone : id ∉ t'.ids := fun hid ↦ by
    rw [contains_iff.2 hid] at hstale
    cases hstale
  -- the slot was released, and every later handle of it has another generation
  have hspent := hl'.le_slots.spent (hl.spent ht.sound (contains_iff.1 hlive) hgone)
  have hnone := (hl'.sound (hl.sound ht.sound)).node?_of_spent hw hspent
  exact gone_of_notMem_ids (node?_eq_none.1 hnone)

/-- The slot of a released node is used for another one, and the old handle does not name it. -/
theorem gone_of_history_reused :
    (((ofJson .builtin (.object [("a", .object [("b", .bool true)])])).replaceWith ⟨1, 0⟩
        .null).adopt (.bool false)).1 = ⟨2, 1⟩ ∧
      (((ofJson .builtin (.object [("a", .object [("b", .bool true)])])).replaceWith ⟨1, 0⟩
        .null).adopt (.bool false)).2.Gone ⟨2, 0⟩ := by
  refine ⟨by decide, ?_⟩
  exact gone_of_history (.ofJson _ (by simp)) (.single (.replaceWith _ ⟨1, 0⟩ (by simp)))
    (.single (.adopt _ (by simp))) (by decide) (by decide) (by decide)

end DocPath.Tree

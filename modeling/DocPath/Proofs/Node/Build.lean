import DocPath.Proofs.Node.Children
import DocPath.Proofs.Tree.Slots

/-!
# The handles of built nodes

Releasing a node releases every handle at it and below once (`releaseOrder_perm`), and building a
value allocates one handle for each of its parts. Whatever handles are in use before are
in use after, together with those below the built node (`holds_build`); the handle of the node
itself is one of those that were.
-/

namespace DocPath.Node

theorem map_id_descendants (n : Node) : n.descendants.map id = n.childNodes.flatMap ids := by
  have h : n.ids = n.id :: n.descendants.map id := rfl
  rw [ids_eq, List.cons.injEq] at h
  exact h.2.symm

/-- Just the node and what is below it is released with it. -/
theorem releaseOrder_perm (n : Node) : n.releaseOrder.Perm n.ids := by
  induction n using induction_children with
  | step n ih =>
    rw [releaseOrder_eq, releaseOrderBelow_eq, ids_eq]
    exact (List.perm_append_singleton _ _).trans ((List.Perm.flatMap_left _ ih).cons _)

theorem releaseOrderBelow_perm (n : Node) : n.releaseOrderBelow.Perm (n.descendants.map id) := by
  have hperm := n.releaseOrder_perm
  rw [releaseOrder_eq, ids] at hperm
  exact ((List.perm_append_singleton _ _).symm.trans hperm).cons_inv

theorem ids_append_perm (n : Node) (others : List NodeId) :
    (n.ids ++ others).Perm (n.releaseOrderBelow ++ n.id :: others) :=
  List.perm_middle.symm.trans (n.releaseOrderBelow_perm.symm.append_right _)

/-- Without the nodes below it, a node still has its own handle. -/
theorem holds_releaseAll_below {s : Slots} {n : Node} {others : List NodeId}
    (h : s.Holds (n.ids ++ others)) :
    (s.releaseAll n.releaseOrderBelow).Holds (n.id :: others) :=
  Slots.holds_releaseAll _ (h.of_perm (n.ids_append_perm others))

@[simp] theorem map_toJson_buildItems (items : List Json) (s : Slots) :
    (buildItems items s).1.map toJson = items := by
  rw [← toJsonItems_eq, toJsonItems_buildItems]

@[simp] theorem map_toJson_buildEntries (entries : List (String × Json)) (s : Slots) :
    ((buildEntries entries s).1.map fun entry ↦ (entry.1, entry.2.toJson)) = entries := by
  rw [← toJsonEntries_eq, toJsonEntries_buildEntries]

theorem buildItems_append (values others : List Json) (s : Slots) :
    buildItems (values ++ others) s =
      ((buildItems values s).1 ++ (buildItems others (buildItems values s).2).1,
        (buildItems others (buildItems values s).2).2) := by
  induction values generalizing s with
  | nil => rfl
  | cons v rest ih => simp [buildItems, ih]

/-- One more node, whose children are built, before nodes that are built after it. -/
private theorem holds_cons {s : Slots} {live : List NodeId} (n : Node) (rest : List Node)
    (h : s.Holds (rest.flatMap ids ++ (n.childNodes.flatMap ids ++ n.id :: live))) :
    s.Holds ((n :: rest).flatMap ids ++ live) := by
  refine h.of_perm ?_
  rw [List.flatMap_cons, ids_eq n, List.cons_append, List.cons_append, List.append_assoc,
    ← List.append_assoc]
  refine List.perm_middle.trans (.cons _ ?_)
  rw [← List.append_assoc]
  exact List.perm_append_comm.append_right _

mutual

/-- Building a node adds the handles below it to those in use. -/
theorem holds_build {live : List NodeId} (i : NodeId) :
    (v : Json) → (s : Slots) → s.Holds live →
      (build i v s).2.Holds ((build i v s).1.childNodes.flatMap ids ++ live)
  | .scalar _, _, h => by simpa [build] using h
  | .array items, s, h => by simpa [build] using holds_buildItems items s h
  | .object entries, s, h => by
    simpa [build, List.flatMap_map] using holds_buildEntries entries s h

theorem holds_buildItems {live : List NodeId} :
    (items : List Json) → (s : Slots) → s.Holds live →
      (buildItems items s).2.Holds ((buildItems items s).1.flatMap ids ++ live)
  | [], _, h => by simpa [buildItems] using h
  | v :: rest, s, h => by
    have hv := holds_build s.allocate.1 v _ (Slots.holds_allocate h)
    refine holds_cons (build s.allocate.1 v s.allocate.2).1 _ ?_
    rw [id_build]
    exact holds_buildItems rest _ hv

theorem holds_buildEntries {live : List NodeId} :
    (entries : List (String × Json)) → (s : Slots) → s.Holds live →
      (buildEntries entries s).2.Holds
        (((buildEntries entries s).1.flatMap fun entry ↦ entry.2.ids) ++ live)
  | [], _, h => by simpa [buildEntries] using h
  | (k, v) :: rest, s, h => by
    have hv := holds_build s.allocate.1 v _ (Slots.holds_allocate h)
    have hrest := holds_buildEntries rest _ hv
    rw [← List.flatMap_map Prod.snd ids] at hrest ⊢
    refine holds_cons (build s.allocate.1 v s.allocate.2).1 _ ?_
    rw [id_build]
    exact hrest

end

mutual

theorem le_build (i : NodeId) : (v : Json) → (s : Slots) → s.LE (build i v s).2
  | .scalar _, s => .refl s
  | .array items, s => le_buildItems items s
  | .object entries, s => le_buildEntries entries s

theorem le_buildItems : (items : List Json) → (s : Slots) → s.LE (buildItems items s).2
  | [], s => .refl s
  | v :: rest, s =>
    (s.le_allocate.trans (le_build s.allocate.1 v _)).trans (le_buildItems rest _)

theorem le_buildEntries :
    (entries : List (String × Json)) → (s : Slots) → s.LE (buildEntries entries s).2
  | [], s => .refl s
  | (_, v) :: rest, s =>
    (s.le_allocate.trans (le_build s.allocate.1 v _)).trans (le_buildEntries rest _)

end

mutual

/-- Building releases nothing. -/
@[simp] theorem count_build (i : NodeId) :
    (v : Json) → (s : Slots) → (build i v s).2.count = s.count
  | .scalar _, _ => rfl
  | .array items, s => count_buildItems items s
  | .object entries, s => count_buildEntries entries s

theorem count_buildItems : (items : List Json) → (s : Slots) → (buildItems items s).2.count = s.count
  | [], _ => rfl
  | v :: rest, s =>
    (count_buildItems rest _).trans ((count_build s.allocate.1 v _).trans s.count_allocate)

theorem count_buildEntries :
    (entries : List (String × Json)) → (s : Slots) → (buildEntries entries s).2.count = s.count
  | [], _ => rfl
  | (_, v) :: rest, s =>
    (count_buildEntries rest _).trans ((count_build s.allocate.1 v _).trans s.count_allocate)

end

end DocPath.Node

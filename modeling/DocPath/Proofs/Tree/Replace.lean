import DocPath.Proofs.Tree.Exchange
import DocPath.Proofs.Tree.Set

/-!
# Replacing a value

A node that is given another value keeps its handle and its place. The handles below it go, those of
all other nodes stay, and what can be seen through them is what it was, except that the value shows
inside the values above (`Replaced`).

* `Sound.exchanged_replaceWith` — replacing exchanges a node, and brings in no handle that was live
* `replaceWith_exact` — what replacing does, handle by handle
-/

namespace DocPath.Tree

variable {t t' : Tree} {id i : NodeId} {n m : Node} {v : Json}

/-- What is left of a tree after a node was given a value. -/
structure Replaced (t t' : Tree) (id : NodeId) (v : Json) : Prop where
  contains_self : t'.contains id
  value_self : t'.value id = v
  /-- Of the handles that were live, exactly those of the nodes below are not any more. -/
  contains : ∀ {i}, t.contains i → (t'.contains i ↔ i ∉ t.descendants id)
  /-- Whatever is left has the place that it had, the node itself too. -/
  place : ∀ {i}, t.contains i → t'.contains i → t.SamePlace t' i
  kind? : ∀ {i}, t.contains i → t'.contains i → i ≠ id → t'.kind? i = t.kind? i
  /-- The other nodes have the children that they had, under the same keys. -/
  listing : ∀ {i}, t.contains i → t'.contains i → i ≠ id → t'.listing i = t.listing i
  /-- What is not above the node has the value that it had. -/
  value : ∀ {i}, t.contains i → t'.contains i → i ≠ id → i ∉ t.ancestors id →
    t'.value i = t.value i
  /-- What is above the node has its old value with the new one in the place of the node. -/
  overwrite : ∀ {i}, t.contains i → t'.contains i → t'.value i = (t.view i).overwrite [id] v

namespace Sound

/-- The node that is exchanged for one of another value. -/
theorem exchanged_replaceWith (h : t.Sound) (hn : t.node? n.id = some n) (hv : v.Distinct) :
    ∃ new, new.toJson = v ∧ t.Exchanged (t.replaceWith n.id v) n new ∧
      ∀ i ∈ new.ids, i ∈ t.ids → i = n.id := by
  refine ⟨(Node.build n.id v (t.slots.releaseAll n.releaseOrderBelow)).1,
    Node.toJson_build .., ⟨hn, Node.id_build .., tops_replaceWith hn v, h, h.replaceWith n.id hv⟩,
    fun i hi hlive ↦ ?_⟩
  refine h.eq_of_mem_build_of_near hn hv h.handles (.refl _) (fun slot ↦ ?_) hi hlive
  have hcount := h.count_replaceWith_le hn v slot
  omega

end Sound

namespace Exchanged

variable {old new : Node} (h : t.Exchanged t' old new)
  (hfresh : ∀ i ∈ new.ids, i ∈ t.ids → i = old.id)

include h hfresh

/-- If the new node brings in no live handle, then those below the old one are gone. -/
theorem contains_iff_of_fresh (hi : t.contains i) :
    t'.contains i ↔ i ∉ old.descendants.map Node.id := by
  rw [contains_iff] at hi
  constructor
  · intro hi' hbelow
    have hne : i ≠ old.id := by
      rintro rfl
      exact (List.nodup_cons.1 (h.sound.nodup_ids h.node?)).1 hbelow
    obtain ⟨others, hids, hids'⟩ := h.exists_perm
    rcases List.mem_append.1 (hids'.mem_iff.1 (contains_iff.1 hi')) with hnew | hothers
    · exact hne (hfresh i hnew hi)
    · exact List.disjoint_of_nodup_append (hids.nodup_iff.1 h.sound.handles.nodup)
        (List.mem_cons_of_mem _ hbelow) hothers
  · intro hnot
    obtain ⟨m, hm⟩ := exists_node? hi
    exact contains_iff.2 (mem_ids_of_node? (h.node?_of_notMem hm hnot))

/-- An exchange for a node with other handles below replaces the value. -/
theorem replaced : t.Replaced t' old.id new.toJson := by
  -- whatever is left was not below the old node
  have hleft : ∀ {i}, t.contains i → t'.contains i →
      ∃ m, t.node? i = some m ∧ i ∉ old.descendants.map Node.id := by
    intro i hi hi'
    obtain ⟨m, hm⟩ := exists_node? (contains_iff.1 hi)
    exact ⟨m, hm, (h.contains_iff_of_fresh hfresh hi).1 hi'⟩
  have hself := h.node?_self
  exact {
    contains_self := contains_iff.2 (mem_ids_of_node? hself)
    value_self := value_of_node? hself
    contains := fun hi ↦ by
      rw [h.contains_iff_of_fresh hfresh hi, descendants, view_of_node? h.node?]
    place := fun hi hi' ↦ by
      obtain ⟨m, hm, hnot⟩ := hleft hi hi'
      exact h.samePlace hm hnot
    kind? := fun hi hi' hne ↦ by
      obtain ⟨m, hm, hnot⟩ := hleft hi hi'
      exact h.kind?_eq hm hnot hne
    listing := fun hi hi' hne ↦ by
      obtain ⟨m, hm, hnot⟩ := hleft hi hi'
      exact h.listing_eq hm hnot hne
    value := fun hi hi' hne habove ↦ by
      obtain ⟨m, hm, hnot⟩ := hleft hi hi'
      rw [value_of_node? (h.node?_eq hnot hne habove hm), value_of_node? hm]
    overwrite := fun hi hi' ↦ by
      obtain ⟨m, hm, hnot⟩ := hleft hi hi'
      rw [value_of_node? (h.node?_of_notMem hm hnot), view_of_node? hm,
        ← Node.overwrite_replace h.id_eq rfl (fun _ _ hmem ↦ absurd hmem List.not_mem_nil) m,
        Node.overwrite_nil] }

end Exchanged

/-- A node that is given a value shows it, in its old place. The nodes below are gone, and of all
the others only those above have another value, with the new value in place of that of the node.
The tree of a value shows the value too. -/
theorem replaceWith_exact (ht : t.Reachable) (hid : t.contains id) (hv : v.Distinct) :
    t.Replaced (t.replaceWith id v) id v ∧ ∀ registry, (ofJson registry v).document = v := by
  obtain ⟨n, hn⟩ := exists_node? (contains_iff.1 hid)
  obtain rfl := id_of_node? hn
  obtain ⟨new, rfl, hexchanged, hfresh⟩ := ht.sound.exchanged_replaceWith hn hv
  exact ⟨hexchanged.replaced hfresh, fun registry ↦ document_ofJson registry _⟩

/-- A map in a sequence gets a shorter value, in which the slot of an entry is used again. -/
theorem replaceWith_exact_nested :
    ((ofJson .empty (.array [.object [("b", .null), ("a", .null)], .null])).replaceWith ⟨1, 0⟩
        (.array [.null])).document = .array [.array [.null], .null] ∧
      (ofJson .empty (.array [.object [("b", .null), ("a", .null)], .null])).descendants ⟨1, 0⟩ =
        [⟨2, 0⟩, ⟨3, 0⟩] ∧
      (ofJson .empty (.array [.object [("b", .null), ("a", .null)], .null])).Replaced
        ((ofJson .empty (.array [.object [("b", .null), ("a", .null)], .null])).replaceWith ⟨1, 0⟩
          (.array [.null])) ⟨1, 0⟩ (.array [.null]) := by
  have ht : (ofJson .empty (.array [.object [("b", .null), ("a", .null)], .null])).Reachable :=
    .ofJson _ (by simp)
  exact ⟨rfl, rfl, (replaceWith_exact ht (by decide) (by simp)).1⟩

end DocPath.Tree

import DocPath.Proofs.Tree.Reachable
import DocPath.Proofs.Tree.Search

/-!
# Queries are read-only

The nodes of a tree are either *lasting* ones, those of the document and the adopted ones, or they
belong to results of the last query. A query makes and drops results, and that is all:

* what can be seen of a lasting node through its handle is the same afterwards (`Unaltered`)
* what was found is live
* the results that are left are those that hold something that was found

`readOnly_find` puts this together for the search with any path from any node, and for the query
that gives values only and leaves no result behind.
-/

namespace DocPath.Tree

open DocPath.Path (Segment)

variable {t t' : Tree} {id : NodeId} {n : Node}

/-! ### Lasting nodes -/

/-- The handle is live, and not that of a result of a query. -/
def Lasts (t : Tree) (id : NodeId) : Prop :=
  ∃ n ∈ t.lasting, id ∈ n.ids

/-- Through the handle of a live node the same can be seen in both trees. -/
structure Unaltered (t t' : Tree) (id : NodeId) : Prop where
  contains : t'.contains id
  kind? : t'.kind? id = t.kind? id
  value : t'.value id = t.value id
  parent? : t'.parent? id = t.parent? id
  children : t'.children id = t.children id
  key? : t'.key? id = t.key? id

theorem Lasts.mem_ids (h : t.Lasts id) : id ∈ t.ids := by
  obtain ⟨n, hn, hid⟩ := h
  exact List.mem_flatMap.2 ⟨n, List.mem_append_left _ hn, hid⟩

/-- Without results all that is live lasts. -/
theorem contains_iff_lasts (h : t.scratch = []) : t.contains id ↔ t.Lasts id := by
  rw [contains_iff, ids, tops_eq_append, h, List.append_nil, List.mem_flatMap, Lasts]

namespace Sound

/-- No result of a query holds a lasting handle. -/
theorem notMem_ids_of_lasts (h : t.Sound) (hid : t.Lasts id) (hn : n ∈ t.scratch) :
    id ∉ n.ids := by
  intro hmem
  have hnodup := h.handles.nodup
  rw [ids, tops_eq_append, List.flatMap_append] at hnodup
  exact List.disjoint_of_nodup_append hnodup (List.mem_flatMap.2 hid)
    (List.mem_flatMap.2 ⟨n, hn, hmem⟩)

theorem node?_of_lasts (h : t.Sound) (hid : t.Lasts id) :
    t.node? id = t.lasting.findSome? (Node.find? id) := by
  have hnone : t.scratch.findSome? (Node.find? id) = none :=
    List.findSome?_eq_none_iff.2 fun n hn ↦ Node.find?_eq_none.2 (h.notMem_ids_of_lasts hid hn)
  rw [node?, tops_eq_append, List.findSome?_append, hnone, Option.or_none]

theorem trail_of_lasts (h : t.Sound) (hid : t.Lasts id) :
    t.trail id = (t.lasting.findSome? (Node.trail? id)).getD [] := by
  have hnone : t.scratch.findSome? (Node.trail? id) = none :=
    List.findSome?_eq_none_iff.2 fun n hn ↦ Node.trail?_of_notMem (h.notMem_ids_of_lasts hid hn)
  rw [trail, tops_eq_append, List.findSome?_append, hnone, Option.or_none]

/-- What changes nothing but the results of queries leaves every lasting node unaltered. -/
theorem unaltered (h : t.Sound) (h' : t'.Sound) (hlasting : t'.lasting = t.lasting)
    (hid : t.Lasts id) : t.Unaltered t' id := by
  have hid' : t'.Lasts id := by rwa [Lasts, hlasting]
  have hnode : t'.node? id = t.node? id := by
    rw [h.node?_of_lasts hid, h'.node?_of_lasts hid', hlasting]
  have hview : t'.view id = t.view id := by rw [view, view, hnode]
  have hstep : t'.lastStep? id = t.lastStep? id := by
    rw [lastStep?, lastStep?, h.trail_of_lasts hid, h'.trail_of_lasts hid', hlasting]
  constructor
  case contains => exact contains_iff.2 hid'.mem_ids
  case kind? => rw [kind?, kind?, hnode]
  case value => rw [value, value, hview]
  case parent? => rw [parent?, parent?, hstep]
  case children => rw [children, children, hview]
  case key? => rw [key?, key?, hstep]

end Sound

/-! ### What was found is live -/

theorem whileHeld_live : WhileHeld fun t id ↦ id ∈ t.ids where
  grow _ _ hgrows hid := hgrows.ids_subset hid
  release _ hkeep hid := mem_ids_releaseScratch hkeep hid
  below _ hm := by
    obtain ⟨top, htop, -, hid⟩ := exists_top_of_view hm
    exact List.mem_flatMap.2 ⟨top, htop, hid⟩
  result {t v} _ _ := by
    rw [ids_adoptScratch]
    exact List.mem_append_right _ (t.result_mem_ids v)

/-! ### Which results are left -/

/-- A result that was not dropped holds a handle to keep. -/
theorem exists_mem_ids_of_releaseScratch {keep : List NodeId}
    (hn : n ∈ (t.releaseScratch keep).scratch) : ∃ id ∈ keep, id ∈ n.ids := by
  rw [releaseScratch_eq] at hn
  obtain ⟨id, hid, hhas⟩ := List.any_eq_true.1 (List.mem_filter.1 hn).2
  exact ⟨id, hid, Node.find?_isSome.1 hhas⟩

/-- After every segment the results that hold no match are dropped. So of those that were there in
the beginning one can be left only if there was no segment. -/
theorem exists_mem_ids_of_walk {starts : List NodeId} {segments : List Segment}
    (hnil : segments = [] → ∀ n ∈ t.scratch, ∃ id ∈ starts, id ∈ n.ids)
    (hn : n ∈ (t.walk starts segments).2.scratch) :
    ∃ id ∈ (t.walk starts segments).1, id ∈ n.ids := by
  induction segments generalizing t starts with
  | nil => exact hnil rfl n hn
  | cons s rest ih =>
    rw [walk_cons] at hn ⊢
    split at hn
    · rename_i hempty
      obtain ⟨id, hid, -⟩ := exists_mem_ids_of_releaseScratch hn
      rw [List.isEmpty_iff.1 hempty] at hid
      cases hid
    · rename_i hne
      rw [if_neg hne]
      exact ih (fun _ m hm ↦ exists_mem_ids_of_releaseScratch hm) hn

/-- A search drops the results of the query before, except the one it begins in. What is left in the
end holds something that was found. -/
theorem exists_mem_ids_of_findFrom {p : Path} {start : NodeId}
    (hn : n ∈ (t.findFrom p start).2.scratch) : ∃ id ∈ (t.findFrom p start).1, id ∈ n.ids := by
  unfold findFrom at hn ⊢
  dsimp only at hn ⊢
  split at hn
  · rename_i hlive
    rw [if_pos hlive]
    exact exists_mem_ids_of_walk (fun _ m hm ↦ exists_mem_ids_of_releaseScratch hm) hn
  · rename_i hstale
    obtain ⟨id, hid, hmem⟩ := exists_mem_ids_of_releaseScratch hn
    rw [List.mem_singleton.1 hid] at hmem
    have htop : n ∈ (t.releaseScratch [start]).tops := List.mem_append_right (lasting _) hn
    exact absurd (contains_iff.2 (List.mem_flatMap.2 ⟨n, htop, hmem⟩)) hstale

/-- Without a handle to keep all results are dropped. -/
theorem scratch_releaseScratch_nil (t : Tree) : (t.releaseScratch []).scratch = [] := by
  rw [List.eq_nil_iff_forall_not_mem]
  intro n hn
  obtain ⟨id, hid, -⟩ := exists_mem_ids_of_releaseScratch hn
  cases hid

/-! ### Queries -/

/-- A query with a path leaves the document and all lasting nodes as they are. What it finds is
live, and the results it leaves behind hold something that it found; the query that gives values
leaves none. -/
theorem readOnly_find (h : t.Reachable) {raw : String} {p : Path} (hp : Path.parse raw = .ok p)
    (start : NodeId) :
    ((t.findFrom p start).2.document = t.document ∧
        (∀ id, t.Lasts id → t.Unaltered (t.findFrom p start).2 id) ∧
        (∀ id ∈ (t.findFrom p start).1, (t.findFrom p start).2.contains id) ∧
        ∀ n ∈ (t.findFrom p start).2.scratch, ∃ id ∈ (t.findFrom p start).1, id ∈ n.ids) ∧
      ∃ values t', t.findValues raw = .ok (values, t') ∧ t'.document = t.document ∧
        (∀ id, t.Lasts id → t.Unaltered t' id) ∧ t'.scratch = [] ∧
        ∀ id, t'.contains id ↔ t.Lasts id := by
  have hwf := Path.wellFormed_of_parse hp
  have hlasting := t.lasting_findFrom p start
  refine ⟨⟨congrArg Node.toJson (root_eq_of_lasting hlasting), fun id hid ↦ ?_, fun id hid ↦ ?_,
    fun n hn ↦ exists_mem_ids_of_findFrom hn⟩, ?_⟩
  · exact h.sound.unaltered (Reachable.findFrom h hwf start).sound hlasting hid
  · exact contains_iff.2 (whileHeld_live.findFrom h.sound hwf
      (fun _ hlive ↦ contains_iff.1 hlive) id hid)
  · have hvalues : t.findValues raw = .ok ((t.findPath p).1.map (t.findPath p).2.value,
        (t.findPath p).2.releaseScratch []) := by
      rw [findValues_eq, hp]
      rfl
    have hlasting' : ((t.findPath p).2.releaseScratch []).lasting = t.lasting :=
      (lasting_releaseScratch _ _).trans (t.lasting_findFrom p t.root.id)
    have hscratch := scratch_releaseScratch_nil (t.findPath p).2
    refine ⟨_, _, hvalues, congrArg Node.toJson (root_eq_of_lasting hlasting'), fun id hid ↦ ?_,
      hscratch, fun id ↦ ?_⟩
    · exact h.sound.unaltered (Reachable.findValues h hvalues).sound hlasting' hid
    · rw [contains_iff_lasts hscratch, Lasts, hlasting', Lasts]

/-- The first of some sorted items is found in the result of the sorting, which is still there after
the search, next to the unsorted items. -/
theorem readOnly_find_sort :
    ∃ p, Path.parse "a.{sort}.[0]" = .ok p ∧
      ((ofJson .builtin (.object [("a", .array [.ofNat 2, .ofNat 1])])).findFrom p ⟨0, 0⟩).1 =
        [⟨5, 0⟩] ∧
      ((ofJson .builtin (.object [("a", .array [.ofNat 2, .ofNat 1])])).findFrom p
        ⟨0, 0⟩).2.contains ⟨5, 0⟩ ∧
      (ofJson .builtin (.object [("a", .array [.ofNat 2, .ofNat 1])])).Unaltered
        ((ofJson .builtin (.object [("a", .array [.ofNat 2, .ofNat 1])])).findFrom p ⟨0, 0⟩).2
          ⟨2, 0⟩ := by
  have hreachable : (ofJson .builtin (.object [("a", .array [.ofNat 2, .ofNat 1])])).Reachable :=
    .ofJson _ (by simp)
  have hparse : Path.parse "a.{sort}.[0]" =
      .ok ⟨"a.{sort}.[0]", [⟨"a", .key "a", none, false⟩,
        ⟨"{sort}", .special "sort" [], none, false⟩, ⟨"[0]", .index 0, none, false⟩]⟩ := rfl
  obtain ⟨⟨-, hunaltered, hlive, -⟩, -⟩ := readOnly_find hreachable hparse ⟨0, 0⟩
  have hfound : ((ofJson .builtin (.object [("a", .array [.ofNat 2, .ofNat 1])])).findFrom
      ⟨"a.{sort}.[0]", [⟨"a", .key "a", none, false⟩,
        ⟨"{sort}", .special "sort" [], none, false⟩, ⟨"[0]", .index 0, none, false⟩]⟩
      ⟨0, 0⟩).1 = [⟨5, 0⟩] := rfl
  refine ⟨_, hparse, hfound, hlive _ ?_, hunaltered _ ⟨_, List.mem_cons_self .., by decide⟩⟩
  rw [hfound]
  exact List.mem_singleton_self _

end DocPath.Tree

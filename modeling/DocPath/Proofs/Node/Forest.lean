import DocPath.Proofs.Json.Distinct
import DocPath.Proofs.Node.Context

/-!
# Lists of nodes without common handles

The nodes of a tree that are children of no node form a list. A node found by its handle stands in
one of them (`exists_split`), and what is done by that handle is done there and nowhere else
(`map_replace_split`, `map_erase_split`).

The module also says how the keys of a filled context stay distinct when the filling changes.
-/

namespace DocPath.Node

open Context

/-! ### Splitting at a handle -/

variable {before after : List Node} {c : Context} {n : Node} {id : NodeId}

/-- A node that is found in a list of nodes fills a context in one of them. -/
theorem exists_split {ns : List Node} (h : ns.findSome? (find? id) = some n) :
    ∃ before c after, ns = before ++ fill c n :: after := by
  obtain ⟨m, hm, hn⟩ := List.exists_of_findSome?_eq_some h
  obtain ⟨before, after, rfl⟩ := List.append_of_mem hm
  obtain ⟨c, rfl⟩ := exists_fill hn
  exact ⟨before, c, after, rfl⟩

/-- The handles around the place of a node. -/
def outsideIds (before : List Node) (c : Context) (after : List Node) : List NodeId :=
  before.flatMap ids ++ (after.flatMap ids ++ Context.ids c)

theorem outsideIds_concat (before : List Node) (c : Context) (f : Frame) (after : List Node) :
    outsideIds before (c ++ [f]) after = outsideIds before c after ++ f.ids := by
  simp [outsideIds, Context.ids]

/-- The handles of a list are those of the node at a place and those around it. -/
theorem ids_split (before : List Node) (c : Context) (n : Node) (after : List Node) :
    ((before ++ fill c n :: after).flatMap ids).Perm (n.ids ++ outsideIds before c after) := by
  rw [List.flatMap_append, List.flatMap_cons, outsideIds]
  have hfill : ((fill c n).ids ++ after.flatMap ids).Perm
      (n.ids ++ (after.flatMap ids ++ Context.ids c)) := by
    refine (((Context.ids_fill c n).trans List.perm_append_comm).append_right _).trans ?_
    rw [List.append_assoc]
    exact List.perm_append_comm.append_left _
  exact (hfill.append_left _).trans (List.perm_append_comm_assoc ..)

/-- Without repetitions, a handle of the node at a place is not one around it. -/
theorem notMem_outsideIds (h : ((before ++ fill c n :: after).flatMap ids).Nodup)
    (hid : id ∈ n.ids) : id ∉ outsideIds before c after :=
  List.disjoint_of_nodup_append ((ids_split before c n after).nodup_iff.1 h) hid

theorem notMem_context (h : id ∉ outsideIds before c after) : id ∉ Context.ids c :=
  fun hid ↦ h (by simp [outsideIds, hid])

theorem notMem_ids_of_mem_outside (h : id ∉ outsideIds before c after) {m : Node}
    (hm : m ∈ before ++ after) : id ∉ m.ids := by
  intro hid
  refine h ?_
  rw [outsideIds, ← List.append_assoc, ← List.flatMap_append]
  exact List.mem_append_left _ (List.mem_flatMap.2 ⟨m, hm, hid⟩)

/-- A node in a frame is none of the nodes of the list. -/
theorem id_ne_of_mem_split {f : Frame} (h : id ∉ outsideIds before (c ++ [f]) after) {m : Node}
    (hm : m ∈ before ++ fill (c ++ [f]) n :: after) : m.id ≠ id := by
  rw [List.mem_append, List.mem_cons] at hm
  rcases hm with hm | rfl | hm
  · exact fun heq ↦
      notMem_ids_of_mem_outside h (List.mem_append_left _ hm) (heq ▸ id_mem_ids m)
  · exact id_fill_concat_ne (notMem_context h)
  · exact fun heq ↦
      notMem_ids_of_mem_outside h (List.mem_append_right _ hm) (heq ▸ id_mem_ids m)

/-- A change that leaves alone all nodes except the one with the place. -/
theorem map_split {g : Node → Node} (m : Node) (h : ∀ d ∈ before ++ after, g d = d) :
    (before ++ m :: after).map g = before ++ g m :: after := by
  have hb : before.map g = before := by
    simpa using List.map_congr_left fun d hd ↦ h d (List.mem_append_left _ hd)
  have ha : after.map g = after := by
    simpa using List.map_congr_left fun d hd ↦ h d (List.mem_append_right _ hd)
  rw [List.map_append, List.map_cons, hb, ha]

theorem map_replace_split (new : Node) (h : id ∉ outsideIds before c after) :
    (before ++ fill c n :: after).map (replace id new) =
      before ++ fill c (replace id new n) :: after := by
  rw [map_split _ fun d hd ↦ replace_of_notMem new (notMem_ids_of_mem_outside h hd),
    replace_fill new (notMem_context h)]

theorem map_erase_split {f : Frame} (h : n.id ∉ outsideIds before (c ++ [f]) after) :
    (before ++ fill (c ++ [f]) n :: after).map (erase n.id) =
      before ++ fill c f.close :: after := by
  rw [map_split _ fun d hd ↦ erase_of_notMem (notMem_ids_of_mem_outside h hd),
    erase_id_fill f (notMem_context h)]

theorem findSome?_find?_split (h : id ∉ outsideIds before c after) :
    (before ++ fill c n :: after).findSome? (find? id) = n.find? id := by
  have hnone : ∀ m ∈ before ++ after, m.find? id = none := fun m hm ↦
    find?_eq_none.2 (notMem_ids_of_mem_outside h hm)
  rw [List.findSome?_append, List.findSome?_cons, find?_fill (notMem_context h),
    List.findSome?_eq_none_iff.2 fun d hd ↦ hnone d (List.mem_append_left _ hd),
    List.findSome?_eq_none_iff.2 fun d hd ↦ hnone d (List.mem_append_right _ hd)]
  cases n.find? id <;> rfl

theorem findSome?_trail?_split (h : id ∉ outsideIds before c after) :
    (before ++ fill c n :: after).findSome? (trail? id) =
      (n.trail? id).map (Context.steps c n ++ ·) := by
  have hnone : ∀ m ∈ before ++ after, m.trail? id = none := fun m hm ↦
    trail?_of_notMem (notMem_ids_of_mem_outside h hm)
  rw [List.findSome?_append, List.findSome?_cons, trail?_fill (notMem_context h),
    List.findSome?_eq_none_iff.2 fun d hd ↦ hnone d (List.mem_append_left _ hd),
    List.findSome?_eq_none_iff.2 fun d hd ↦ hnone d (List.mem_append_right _ hd)]
  cases n.trail? id <;> rfl

/-! ### Distinct keys -/

namespace Frame

theorem distinct_of_fill {f : Frame} (h : (f.fill n).toJson.Distinct) : n.toJson.Distinct := by
  cases f with
  | sequence i before after =>
    rw [fill, toJson_sequence, Json.distinct_array] at h
    exact h _ (by simp)
  | map i before name after =>
    rw [fill, toJson_map, Json.distinct_object] at h
    exact h.2 (name, n.toJson) (by simp)

theorem distinct_fill {f : Frame} {new : Node} (h : (f.fill n).toJson.Distinct)
    (hnew : new.toJson.Distinct) : (f.fill new).toJson.Distinct := by
  cases f with
  | sequence i before after =>
    rw [fill, toJson_sequence, Json.distinct_array] at h ⊢
    simp only [List.map_append, List.map_cons, List.mem_append, List.mem_cons] at h ⊢
    rintro v (hv | rfl | hv)
    · exact h v (.inl hv)
    · exact hnew
    · exact h v (.inr (.inr hv))
  | map i before name after =>
    rw [fill, toJson_map, Json.distinct_object] at h ⊢
    simp only [List.map_append, List.map_cons, List.mem_append, List.mem_cons] at h ⊢
    refine ⟨h.1, ?_⟩
    rintro entry (he | rfl | he)
    · exact h.2 entry (.inl he)
    · exact hnew
    · exact h.2 entry (.inr (.inr he))

theorem distinct_close {f : Frame} (h : (f.fill n).toJson.Distinct) :
    f.close.toJson.Distinct := by
  cases f with
  | sequence i before after =>
    rw [fill, toJson_sequence, Json.distinct_array] at h
    rw [close, toJson_sequence, Json.distinct_array]
    simp only [List.map_append, List.map_cons, List.mem_append, List.mem_cons] at h ⊢
    exact fun v hv ↦ h v (hv.imp_right .inr)
  | map i before name after =>
    rw [fill, toJson_map, Json.distinct_object] at h
    rw [close, toJson_map, Json.distinct_object]
    simp only [List.map_append, List.map_cons, List.mem_append, List.mem_cons] at h ⊢
    refine ⟨h.1.sublist ((List.sublist_cons_self ..).append_left _), fun entry he ↦ ?_⟩
    exact h.2 entry (he.imp_right .inr)

end Frame

namespace Context

theorem distinct_of_fill (h : (fill c n).toJson.Distinct) : n.toJson.Distinct := by
  induction c with
  | nil => exact h
  | cons f c ih => exact ih (Frame.distinct_of_fill h)

theorem distinct_fill {new : Node} (h : (fill c n).toJson.Distinct)
    (hnew : new.toJson.Distinct) : (fill c new).toJson.Distinct := by
  induction c with
  | nil => exact hnew
  | cons f c ih => exact Frame.distinct_fill h (ih (Frame.distinct_of_fill h))

end Context

/-- What holds of a node and passes from nodes to their children holds of all nodes below. -/
theorem forall_descendants {p : Node → Prop} (hstep : ∀ n, p n → ∀ c ∈ n.childNodes, p c)
    (hn : p n) : ∀ m ∈ n.descendants, p m := by
  induction n using induction_children with
  | step n ih =>
    intro m hm
    rw [descendants_eq, List.mem_flatMap] at hm
    obtain ⟨c, hc, hm⟩ := hm
    rcases List.mem_cons.1 hm with rfl | hm
    · exact hstep n hn m hc
    · exact ih c hc (hstep n hn c hc) m hm

theorem distinct_of_mem_childNodes {c : Node} (h : c ∈ n.childNodes) (hn : n.toJson.Distinct) :
    c.toJson.Distinct := by
  obtain ⟨key, hkey⟩ := mem_childNodes.1 h
  obtain ⟨f, rfl, -⟩ := exists_frame hkey
  exact Frame.distinct_of_fill hn

theorem distinct_of_mem_descendants {m : Node} (h : m ∈ n.descendants)
    (hn : n.toJson.Distinct) : m.toJson.Distinct :=
  forall_descendants (fun _ hn _ hc ↦ distinct_of_mem_childNodes hc hn) hn m h

end DocPath.Node

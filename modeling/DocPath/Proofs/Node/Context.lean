import DocPath.Proofs.Node.Children
import Mathlib.Data.List.Perm.Basic

/-!
# Nodes in their surroundings

A `Frame` is a container with one child left out, and a context is a list of frames, the outermost
first. Every node found by its handle splits the node searched into a context and itself
(`exists_fill`), and the operations by handle are local: they leave a context alone that does not
hold their handle.

* `find?_fill`, `replace_fill`, `erase_id_fill` and `trail?_fill` move an operation inside a
  context;
* `ids_fill` splits the handles of a filled context, up to their order, into those of the context
  and those of the filling, so that a list of handles without repetition keeps the two apart.
-/

namespace DocPath

namespace Node

/-- A container with one child left out. -/
inductive Frame
  | sequence (id : NodeId) (before after : List Node)
  | map (id : NodeId) (before : List (String × Node)) (name : String)
    (after : List (String × Node))

namespace Frame

/-- The container with a node for the child that was left out. -/
def fill : Frame → Node → Node
  | sequence i before after, n => .sequence i (before ++ n :: after)
  | map i before name after, n => .map i (before ++ (name, n) :: after)

/-- The container without the child. -/
def close : Frame → Node
  | sequence i before after => .sequence i (before ++ after)
  | map i before _ after => .map i (before ++ after)

/-- The key of the child that was left out. -/
def key : Frame → Key
  | sequence _ before _ => .index before.length
  | map _ _ name _ => .name name

/-- The handles of the container and of its other children. -/
def ids (f : Frame) : List NodeId :=
  f.close.ids

@[simp] theorem id_fill (f : Frame) (n : Node) : (f.fill n).id = f.close.id := by
  cases f <;> rfl

@[simp] theorem kind_fill (f : Frame) (n : Node) : (f.fill n).kind = f.close.kind := by
  cases f <;> rfl

/-- The children of a filled frame: the filling, and around it the children of the closed frame. -/
theorem children_fill (f : Frame) :
    ∃ before after : List (Key × Node),
      (before ++ after).map Prod.snd = f.close.childNodes ∧
      ∀ n, (f.fill n).children = before ++ (f.key, n) :: after := by
  cases f with
  | sequence i before after =>
    refine ⟨before.zipIdx.map fun item ↦ (.index item.2, item.1),
      (after.zipIdx (before.length + 1)).map fun item ↦ (.index item.2, item.1), ?_, fun n ↦ ?_⟩
    · simp [close, Function.comp_def]
    · simp [fill, children, key, List.zipIdx_append, List.zipIdx_cons]
  | map i before name after =>
    refine ⟨before.map fun entry ↦ (.name entry.1, entry.2),
      after.map fun entry ↦ (.name entry.1, entry.2), ?_, fun n ↦ ?_⟩
    · simp [close, Function.comp_def]
    · simp [fill, children, key]

theorem childNodes_fill (f : Frame) :
    ∃ before after, before ++ after = f.close.childNodes ∧
      ∀ n, (f.fill n).childNodes = before ++ n :: after := by
  obtain ⟨before, after, hclose, hfill⟩ := f.children_fill
  refine ⟨before.map Prod.snd, after.map Prod.snd, by rw [← hclose, List.map_append], fun n ↦ ?_⟩
  rw [childNodes, hfill, List.map_append, List.map_cons]

theorem key_mem_children_fill (f : Frame) (n : Node) : (f.key, n) ∈ (f.fill n).children := by
  obtain ⟨before, after, -, hfill⟩ := f.children_fill
  simp [hfill]

/-- The handles of a filled frame are those of the frame and of the filling. -/
theorem ids_fill (f : Frame) (n : Node) : (f.fill n).ids.Perm (f.ids ++ n.ids) := by
  obtain ⟨before, after, hclose, hfill⟩ := f.childNodes_fill
  rw [ids, ids_eq, ids_eq f.close, id_fill, ← hclose, hfill]
  simp only [List.flatMap_append, List.flatMap_cons, List.cons_append, List.append_assoc]
  exact .cons _ (.append_left _ List.perm_append_comm)

theorem id_close_mem_ids (f : Frame) : f.close.id ∈ f.ids :=
  id_mem_ids _

/-- A change of every child that leaves all children alone except the filling. -/
theorem mapChildren_fill {g : Node → Node} {f : Frame} (n : Node)
    (h : ∀ c ∈ f.close.childNodes, g c = c) : (f.fill n).mapChildren g = f.fill (g n) := by
  cases f with
  | sequence i before after =>
    simp only [close, childNodes_sequence, List.mem_append] at h
    have hb : before.map g = before := by
      simpa using List.map_congr_left fun c hc ↦ h c (.inl hc)
    have ha : after.map g = after := by
      simpa using List.map_congr_left fun c hc ↦ h c (.inr hc)
    simp [fill, mapChildren, hb, ha]
  | map i before name after =>
    simp only [close, childNodes_map, List.map_append, List.mem_append] at h
    have hb : before.map (fun e ↦ (e.1, g e.2)) = before := by
      simpa using List.map_congr_left fun e (he : e ∈ before) ↦
        congrArg (Prod.mk e.1) (h e.2 (.inl (List.mem_map_of_mem he)))
    have ha : after.map (fun e ↦ (e.1, g e.2)) = after := by
      simpa using List.map_congr_left fun e (he : e ∈ after) ↦
        congrArg (Prod.mk e.1) (h e.2 (.inr (List.mem_map_of_mem he)))
    simp [fill, mapChildren, hb, ha]

end Frame

/-! ### Where a handle does not occur -/

theorem notMem_ids_of_mem_childNodes {n c : Node} {id : NodeId} (h : id ∉ n.ids)
    (hc : c ∈ n.childNodes) : id ∉ c.ids :=
  fun hid ↦ h (ids_subset_of_mem_childNodes hc hid)

theorem replace_of_notMem {n : Node} {id : NodeId} (new : Node) (h : id ∉ n.ids) :
    replace id new n = n := by
  induction n using induction_children with
  | step n ih =>
    have hne : n.id ≠ id := fun heq ↦ h (heq ▸ id_mem_ids n)
    rw [replace_of_ne new hne]
    exact mapChildren_eq_self fun c hc ↦ ih c hc (notMem_ids_of_mem_childNodes h hc)

theorem dropChild_of_forall_ne {n : Node} {id : NodeId} (h : ∀ c ∈ n.childNodes, c.id ≠ id) :
    n.dropChild id = n := by
  cases n with
  | scalar i s => rfl
  | sequence i items =>
    rw [childNodes_sequence] at h
    simpa [dropChild] using h
  | map i entries =>
    rw [childNodes_map] at h
    simp only [dropChild, map.injEq, true_and, List.filter_eq_self]
    exact fun e he ↦ decide_eq_true (h e.2 (List.mem_map_of_mem he))

theorem erase_of_notMem {n : Node} {id : NodeId} (h : id ∉ n.ids) : n.erase id = n := by
  induction n using induction_children with
  | step n ih =>
    have hne : ∀ c ∈ n.childNodes, c.id ≠ id := fun c hc heq ↦
      notMem_ids_of_mem_childNodes h hc (heq ▸ id_mem_ids c)
    rw [erase_eq, dropChild_of_forall_ne hne]
    exact mapChildren_eq_self fun c hc ↦ ih c hc (notMem_ids_of_mem_childNodes h hc)

theorem trail?_of_notMem {n : Node} {id : NodeId} (h : id ∉ n.ids) : n.trail? id = none := by
  induction n using induction_children with
  | step n ih =>
    have hne : n.id ≠ id := fun heq ↦ h (heq ▸ id_mem_ids n)
    rw [trail?_eq, if_neg hne, List.findSome?_eq_none_iff]
    intro child hchild
    have hc : child.2 ∈ n.childNodes := mem_childNodes.2 ⟨child.1, hchild⟩
    rw [ih _ hc (notMem_ids_of_mem_childNodes h hc), Option.map_none]

/-! ### Frames around children -/

/-- A child of a node fills a frame of its key. -/
theorem exists_frame {n d : Node} {key : Key} (h : (key, d) ∈ n.children) :
    ∃ f : Frame, n = f.fill d ∧ f.key = key := by
  cases n with
  | scalar i s => simp [children] at h
  | sequence i items =>
    obtain ⟨⟨d', k⟩, hmem, heq⟩ := List.mem_map.1 h
    obtain ⟨rfl, rfl⟩ : Key.index k = key ∧ d' = d := by simpa using heq
    obtain ⟨hk, hd⟩ := List.mem_zipIdx' hmem
    refine ⟨.sequence i (items.take k) (items.drop (k + 1)), ?_, ?_⟩
    · rw [Frame.fill, hd, List.getElem_cons_drop, List.take_append_drop]
    · simp [Frame.key, Nat.le_of_lt hk]
  | map i entries =>
    obtain ⟨⟨name, d'⟩, hmem, heq⟩ := List.mem_map.1 h
    obtain ⟨rfl, rfl⟩ : Key.name name = key ∧ d' = d := by simpa using heq
    obtain ⟨before, after, rfl⟩ := List.append_of_mem hmem
    exact ⟨.map i before name after, rfl, rfl⟩

namespace Frame

variable {f : Frame} {id : NodeId}

/-- The filling of a frame that has not the frame's handles is erased by closing the frame. -/
theorem erase_fill_self {n : Node} (h : n.id ∉ f.ids) : (f.fill n).erase n.id = f.close := by
  have hne : ∀ c ∈ f.close.childNodes, c.id ≠ n.id := fun c hc heq ↦
    notMem_ids_of_mem_childNodes h hc (heq ▸ id_mem_ids c)
  have hdrop : (f.fill n).dropChild n.id = f.close.dropChild n.id := by
    cases f <;> simp [fill, close, dropChild]
  rw [erase_eq, hdrop, dropChild_of_forall_ne hne]
  exact mapChildren_eq_self fun c hc ↦ erase_of_notMem (notMem_ids_of_mem_childNodes h hc)

theorem erase_fill_of_ne {n : Node} (h : id ∉ f.ids) (hn : n.id ≠ id) :
    (f.fill n).erase id = f.fill (n.erase id) := by
  obtain ⟨before, after, hclose, hfill⟩ := f.childNodes_fill
  have hmem : ∀ c ∈ before ++ after, id ∉ c.ids := fun c hc ↦
    notMem_ids_of_mem_childNodes h (hclose ▸ hc)
  have hne : ∀ c ∈ (f.fill n).childNodes, c.id ≠ id := by
    intro c hc
    rw [hfill, List.mem_append, List.mem_cons] at hc
    rcases hc with hc | rfl | hc
    · exact fun heq ↦ hmem c (List.mem_append_left _ hc) (heq ▸ id_mem_ids c)
    · exact hn
    · exact fun heq ↦ hmem c (List.mem_append_right _ hc) (heq ▸ id_mem_ids c)
  rw [erase_eq, dropChild_of_forall_ne hne, mapChildren_fill]
  exact fun c hc ↦ erase_of_notMem (notMem_ids_of_mem_childNodes h hc)

end Frame

/-! ### Contexts -/

/-- Containers around a place, the outermost first. -/
abbrev Context := List Frame

namespace Context

/-- The context with a node at its place. -/
def fill (c : Context) (n : Node) : Node :=
  c.foldr Frame.fill n

/-- The handles of a context. -/
def ids (c : Context) : List NodeId :=
  c.flatMap Frame.ids

/-- The keys that lead to the place of a context. -/
def keys (c : Context) : List Key :=
  c.map Frame.key

/-- The steps that lead to the place of a context when a node fills it. -/
def steps : Context → Node → List Step
  | [], _ => []
  | f :: c, n => ⟨f.fill (fill c n), f.key⟩ :: steps c n

@[simp] theorem fill_nil (n : Node) : fill [] n = n := rfl

@[simp] theorem fill_cons (f : Frame) (c : Context) (n : Node) :
    fill (f :: c) n = f.fill (fill c n) := rfl

theorem fill_append (c d : Context) (n : Node) : fill (c ++ d) n = fill c (fill d n) := by
  simp [fill]

theorem steps_append (c d : Context) (n : Node) :
    steps (c ++ d) n = steps c (fill d n) ++ steps d n := by
  induction c with
  | nil => rfl
  | cons f c ih => simp [steps, ih, fill_append]

@[simp] theorem ids_cons (f : Frame) (c : Context) : ids (f :: c) = f.ids ++ ids c := rfl

/-- The handles of a filled context are those of the context and of the filling. -/
theorem ids_fill (c : Context) (n : Node) : (fill c n).ids.Perm (ids c ++ n.ids) := by
  induction c with
  | nil => exact .refl _
  | cons f c ih =>
    rw [fill_cons, ids_cons, List.append_assoc]
    exact (f.ids_fill _).trans (ih.append_left _)

theorem mem_ids_fill {c : Context} {n : Node} {id : NodeId} :
    id ∈ (fill c n).ids ↔ id ∈ ids c ∨ id ∈ n.ids := by
  rw [(ids_fill c n).mem_iff, List.mem_append]

variable {c : Context} {n : Node} {id : NodeId}

/-- Without repetitions, no handle of a context is one of the filling. -/
theorem notMem_ids_of_nodup (h : (fill c n).ids.Nodup) (hid : id ∈ n.ids) : id ∉ ids c :=
  fun hc ↦ List.disjoint_of_nodup_append ((ids_fill c n).nodup_iff.1 h) hc hid

theorem nodup_of_nodup_fill (h : (fill c n).ids.Nodup) : n.ids.Nodup :=
  (List.nodup_append.1 ((ids_fill c n).nodup_iff.1 h)).2.1

/-- A filled frame around a place has a handle of its own. -/
private theorem id_fill_ne {f : Frame} (h : id ∉ f.ids) : (f.fill n).id ≠ id := by
  rw [Frame.id_fill]
  exact fun heq ↦ h (heq ▸ f.id_close_mem_ids)

theorem replace_fill (new : Node) (h : id ∉ ids c) :
    replace id new (fill c n) = fill c (replace id new n) := by
  induction c with
  | nil => rfl
  | cons f c ih =>
    rw [ids_cons, List.mem_append, not_or] at h
    rw [fill_cons, replace_of_ne new (id_fill_ne h.1), Frame.mapChildren_fill, ih h.2, fill_cons]
    exact fun d hd ↦ replace_of_notMem new (notMem_ids_of_mem_childNodes h.1 hd)

theorem find?_fill (h : id ∉ ids c) : (fill c n).find? id = n.find? id := by
  induction c with
  | nil => rfl
  | cons f c ih =>
    rw [ids_cons, List.mem_append, not_or] at h
    obtain ⟨before, after, hclose, hfill⟩ := f.childNodes_fill
    have hnone : ∀ d ∈ before ++ after, d.find? id = none := fun d hd ↦
      find?_eq_none.2 (notMem_ids_of_mem_childNodes h.1 (hclose ▸ hd))
    rw [fill_cons, find?_eq, if_neg (id_fill_ne h.1), hfill, List.findSome?_append,
      List.findSome?_cons, ih h.2,
      List.findSome?_eq_none_iff.2 fun d hd ↦ hnone d (List.mem_append_left _ hd),
      List.findSome?_eq_none_iff.2 fun d hd ↦ hnone d (List.mem_append_right _ hd)]
    cases n.find? id <;> rfl

theorem trail?_fill (h : id ∉ ids c) :
    (fill c n).trail? id = (n.trail? id).map (steps c n ++ ·) := by
  induction c with
  | nil => simp [steps]
  | cons f c ih =>
    rw [ids_cons, List.mem_append, not_or] at h
    obtain ⟨before, after, hclose, hfill⟩ := f.children_fill
    have hnone : ∀ child ∈ before ++ after,
        (child.2.trail? id).map (⟨f.fill (fill c n), child.1⟩ :: ·) = none := fun child hd ↦ by
      have hmem : child.2 ∈ f.close.childNodes := hclose ▸ List.mem_map_of_mem hd
      rw [trail?_of_notMem (notMem_ids_of_mem_childNodes h.1 hmem), Option.map_none]
    rw [fill_cons, trail?_eq, if_neg (id_fill_ne h.1)]
    simp only [hfill, List.findSome?_append, List.findSome?_cons, ih h.2]
    rw [List.findSome?_eq_none_iff.2 fun d hd ↦ hnone d (List.mem_append_left _ hd),
      List.findSome?_eq_none_iff.2 fun d hd ↦ hnone d (List.mem_append_right _ hd)]
    cases n.trail? id <;> simp [steps]

/-- Replacing the filling of a context by its handle. -/
theorem replace_id_fill (new : Node) (h : n.id ∉ ids c) :
    replace n.id new (fill c n) = fill c new := by
  rw [replace_fill new h, replace_self]

/-- A context with at least one frame puts a handle of its own at the top. -/
theorem id_fill_concat_ne {f : Frame} (h : id ∉ ids (c ++ [f])) :
    (fill (c ++ [f]) n).id ≠ id := by
  cases c with
  | nil => exact id_fill_ne (by simpa [ids] using h)
  | cons g c =>
    rw [List.cons_append, ids_cons, List.mem_append, not_or] at h
    exact id_fill_ne h.1

/-- Erasing the filling of a context with at least one frame closes the innermost frame. -/
theorem erase_id_fill (f : Frame) (h : n.id ∉ ids (c ++ [f])) :
    (fill (c ++ [f]) n).erase n.id = fill c f.close := by
  induction c with
  | nil => exact Frame.erase_fill_self (by simpa [ids] using h)
  | cons g c ih =>
    rw [List.cons_append, ids_cons, List.mem_append, not_or] at h
    rw [List.cons_append, fill_cons, Frame.erase_fill_of_ne h.1 (id_fill_concat_ne h.2), ih h.2,
      fill_cons]

end Context

/-- A node that is found by its handle fills a context. -/
theorem exists_fill {n m : Node} {id : NodeId} (h : n.find? id = some m) :
    ∃ c : Context, n = Context.fill c m := by
  induction n using induction_children with
  | step n ih =>
    rw [find?_eq] at h
    split at h
    · exact ⟨[], (Option.some.inj h)⟩
    · obtain ⟨d, hd, hm⟩ := List.exists_of_findSome?_eq_some h
      obtain ⟨c, rfl⟩ := ih d hd hm
      obtain ⟨key, hkey⟩ := mem_childNodes.1 hd
      obtain ⟨f, rfl, -⟩ := exists_frame hkey
      exact ⟨f :: c, rfl⟩

end Node

end DocPath

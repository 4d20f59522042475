import DocPath.Arena.Basic
import DocPath.Proofs.Tree.Kill

/-!
# Cells in slots

The state of an arena is told by its slots and by a list of the cells that are in use, each with the
handle it has (`Arena.withCells`). Every primitive of the arena does something simple to such a
list: it changes the first cell, puts a cell in front or takes the first one away
(`update_withCells`, `allocate_withCells`, `vacate_withCells`), and the order of the list does not
matter (`withCells_perm`). What these need is that the slots hold the handles of the list.

The cells of a node are its own and those of its children (`Node.cells_eq`). A node that fills a
context can be told apart from the cells around it, which see of the node no more than its handle
(`Node.exists_cells_split`).
-/

namespace DocPath

open Arena (Cell)

namespace Node

/-! ### The cells of nodes -/

/-- The value of a scalar, and a null for containers. -/
def leaf : Node → Scalar
  | scalar _ s => s
  | sequence _ _ => .null
  | map _ _ => .null

/-- What is stored of a node. -/
def cell (n : Node) (parent : Option NodeId) : Cell :=
  ⟨n.kind, n.leaf, n.listing, parent⟩

/-- What is stored of a node and of those below it, under their handles. -/
def cells (parent : Option NodeId) (n : Node) : List (NodeId × Cell) :=
  (n.id, n.cell parent) :: n.childNodes.attach.flatMap fun c ↦ cells (some n.id) c.1
termination_by sizeOf n
decreasing_by exact sizeOf_lt_of_mem_childNodes c.2

/-- What is stored of the nodes below a node. -/
def cellsBelow (n : Node) : List (NodeId × Cell) :=
  n.childNodes.flatMap (cells (some n.id))

theorem cells_eq (parent : Option NodeId) (n : Node) :
    n.cells parent = (n.id, n.cell parent) :: n.cellsBelow := by
  rw [cells, cellsBelow, List.flatMap_subtype (g := cells (some n.id)) fun _ _ ↦ rfl,
    List.unattach_attach]

/-- The cells of a node have its handle and those below it. -/
theorem map_fst_cells (parent : Option NodeId) (n : Node) :
    (n.cells parent).map Prod.fst = n.ids := by
  induction n using induction_children generalizing parent with
  | step n ih =>
    rw [cells_eq, ids_eq, List.map_cons, cellsBelow, List.map_flatMap]
    exact congrArg _ (List.flatMap_congr fun c hc ↦ ih c hc (some n.id))

theorem map_fst_flatMap_cells (parent : Option NodeId) (ns : List Node) :
    (ns.flatMap (cells parent)).map Prod.fst = ns.flatMap ids := by
  rw [List.map_flatMap]
  exact List.flatMap_congr fun n _ ↦ map_fst_cells parent n

/-! ### Around a place -/

variable {n m : Node}

theorem listing_fill (f : Frame) (h : n.id = m.id) : (f.fill n).listing = (f.fill m).listing := by
  obtain ⟨before, after, -, hfill⟩ := f.children_fill
  simp [listing, hfill, h]

/-- A container sees no more of its child than the handle. -/
theorem cell_fill (f : Frame) (h : n.id = m.id) (parent : Option NodeId) :
    (f.fill n).cell parent = (f.fill m).cell parent := by
  have hleaf : (f.fill n).leaf = (f.fill m).leaf := by cases f <;> rfl
  rw [cell, cell, listing_fill f h, hleaf, Frame.kind_fill, Frame.kind_fill]

/-- The cells of a container with and without a child: apart from its own cell and those of the
child they are the same. -/
theorem Frame.exists_cells (f : Frame) : ∃ others,
    (∀ n parent, ((f.fill n).cells parent).Perm
      ((f.close.id, (f.fill n).cell parent) :: (n.cells (some f.close.id) ++ others))) ∧
    ∀ parent, f.close.cells parent = (f.close.id, f.close.cell parent) :: others := by
  obtain ⟨before, after, hclose, hfill⟩ := f.childNodes_fill
  refine ⟨f.close.cellsBelow, fun n parent ↦ ?_, fun parent ↦ cells_eq parent f.close⟩
  rw [cells_eq, cellsBelow, cellsBelow, Frame.id_fill, hfill, ← hclose, List.flatMap_append,
    List.flatMap_cons, List.flatMap_append]
  exact .cons _ (List.perm_append_comm_assoc ..)

namespace Context

theorem id_fill_congr (c : Context) (h : n.id = m.id) : (fill c n).id = (fill c m).id := by
  cases c with
  | nil => exact h
  | cons f c => rw [fill_cons, fill_cons, Frame.id_fill, Frame.id_fill]

/-- The parent of what fills a context that has a parent itself. -/
def parent? : Context → Option NodeId → Option NodeId
  | [], above => above
  | f :: c, _ => parent? c (some f.close.id)

theorem parent?_concat (c : Context) (f : Frame) (above : Option NodeId) :
    parent? (c ++ [f]) above = some f.close.id := by
  induction c generalizing above with
  | nil => rfl
  | cons g c ih => exact ih _

/-- The cells of a filled context are those of the filling and others that see its handle only. -/
theorem exists_cells (c : Context) (i : NodeId) (above : Option NodeId) : ∃ others,
    ∀ n : Node, n.id = i → ((fill c n).cells above).Perm (n.cells (parent? c above) ++ others) := by
  induction c generalizing above with
  | nil => exact ⟨[], fun n _ ↦ by rw [fill_nil, List.append_nil, parent?]⟩
  | cons f c ih =>
    obtain ⟨inner, hinner⟩ := ih (some f.close.id)
    obtain ⟨outer, houter, -⟩ := f.exists_cells
    refine ⟨(f.close.id, (f.fill (fill c (.scalar i .null))).cell above) :: (inner ++ outer),
      fun n hn ↦ ?_⟩
    have hid : (fill c n).id = (fill c (.scalar i .null)).id := id_fill_congr c hn
    rw [fill_cons, ← cell_fill f hid above]
    refine (houter (fill c n) above).trans (.trans (.cons _ ?_) List.perm_middle.symm)
    rw [← List.append_assoc]
    exact (hinner n hn).append_right _

end Context

/-- The cells of nodes, one of which fills a context, are those of the filling and others that see
its handle only. -/
theorem exists_cells_split (before : List Node) (c : Context) (after : List Node) (i : NodeId) :
    ∃ others, ∀ n : Node, n.id = i → ((before ++ Context.fill c n :: after).flatMap
      (cells none)).Perm (n.cells (Context.parent? c none) ++ others) := by
  obtain ⟨inner, hinner⟩ := Context.exists_cells c i none
  refine ⟨inner ++ (before.flatMap (cells none) ++ after.flatMap (cells none)), fun n hn ↦ ?_⟩
  rw [List.flatMap_append, List.flatMap_cons, ← List.append_assoc (n.cells _)]
  exact (List.perm_append_comm_assoc ..).trans ((hinner n hn).append_right _)

end Node

namespace Arena

variable {A : Arena} {s : Slots} {cells others : List (NodeId × Cell)} {id : NodeId} {c : Cell}

/-! ### Lists of cells -/

theorem lookup_eq_some_iff (hnodup : (cells.map Prod.fst).Nodup) :
    cells.lookup id = some c ↔ (id, c) ∈ cells := by
  induction cells with
  | nil => simp
  | cons entry rest ih =>
    obtain ⟨i, d⟩ := entry
    rw [List.map_cons, List.nodup_cons] at hnodup
    rw [List.lookup_cons, List.mem_cons, Prod.mk.injEq]
    by_cases hi : id = i
    · subst hi
      have hnot : (id, c) ∉ rest := fun h ↦ hnodup.1 (List.mem_map.2 ⟨_, h, rfl⟩)
      simp [hnot, eq_comm]
    · have hne : (id == i) = false := beq_false_of_ne hi
      simp [hne, hi, ih hnodup.2]

theorem lookup_eq_none (h : id ∉ cells.map Prod.fst) : cells.lookup id = none := by
  rw [List.lookup_eq_none_iff]
  exact fun entry hentry ↦ bne_iff_ne.2 fun heq ↦ h (heq ▸ List.mem_map_of_mem hentry)

theorem lookup_cons_of_ne {i : NodeId} (h : id ≠ i) (c : Cell) (cells : List (NodeId × Cell)) :
    ((i, c) :: cells).lookup id = cells.lookup id := by
  rw [List.lookup_cons, beq_false_of_ne h]

/-! ### Arenas of cells -/

/-- The arena with just these cells in its slots. -/
def withCells (A : Arena) (s : Slots) (cells : List (NodeId × Cell)) : Arena :=
  { A with
    entries := .ofFn fun slot : Fin s.size ↦
      ⟨(s.current slot).generation, cells.lookup (s.current slot)⟩
    free := s.free }

theorem getElem?_withCells (A : Arena) (s : Slots) (cells : List (NodeId × Cell)) (slot : Nat) :
    (A.withCells s cells).entries[slot]? =
      if slot < s.size then
        some ⟨(s.current slot).generation, cells.lookup (s.current slot)⟩
      else none := by
  simp only [withCells, Array.getElem?_ofFn]
  split <;> rfl

/-- An arena is one of cells if all its slots say so. -/
theorem eq_withCells {B : Arena} (hfree : B.free = s.free)
    (hrest : { B with entries := A.entries, free := A.free } = A)
    (hentries : ∀ slot : Nat, B.entries[slot]? = (A.withCells s cells).entries[slot]?) :
    B = A.withCells s cells := by
  have hall : B.entries = (A.withCells s cells).entries := Array.ext_getElem? hentries
  rw [← hrest] at hall ⊢
  simp only [withCells] at *
  rw [← hall, ← hfree]

/-- The order of the cells does not matter. -/
theorem withCells_perm (hnodup : (cells.map Prod.fst).Nodup) (hperm : cells.Perm others) :
    A.withCells s cells = A.withCells s others := by
  have hnodup' := (hperm.map Prod.fst).nodup_iff.1 hnodup
  have hlookup : ∀ id, cells.lookup id = others.lookup id := fun id ↦ Option.ext fun c ↦ by
    rw [lookup_eq_some_iff hnodup, lookup_eq_some_iff hnodup', hperm.mem_iff]
  simp only [withCells, hlookup]

theorem cell?_withCells (h : s.Holds (cells.map Prod.fst)) (id : NodeId) :
    (A.withCells s cells).cell? id = cells.lookup id := by
  rw [cell?, getElem?_withCells]
  by_cases hcurrent : id.slot < s.size ∧ s.current id.slot = id
  · simp [hcurrent, Option.filter]
  · rw [lookup_eq_none fun hid ↦ hcurrent ⟨h.slot_lt hid, h.current id hid⟩]
    split
    · -- the slot is of another generation
      rename_i hlt
      have hne : (s.current id.slot).generation ≠ id.generation := fun heq ↦
        hcurrent ⟨hlt, by rw [Slots.current_eq] at heq ⊢; exact congrArg _ heq⟩
      simp [Option.filter, hne]
    · rfl

/-! ### Primitives -/

theorem update_withCells (h : s.Holds (id :: cells.map Prod.fst)) (f : Cell → Cell) :
    (A.withCells s ((id, c) :: cells)).update id f = A.withCells s ((id, f c) :: cells) := by
  refine eq_withCells rfl rfl fun slot ↦ ?_
  simp only [update, Array.getElem?_modify, getElem?_withCells]
  have hid := h.current id (List.mem_cons_self ..)
  by_cases hslot : id.slot = slot
  · subst hslot
    simp [hid, h.slot_lt]
  · have hne : s.current slot ≠ id := fun heq ↦ hslot (congrArg NodeId.slot heq).symm
    simp [hslot, lookup_cons_of_ne hne]

/-- Without a free slot, a node gets a new one. -/
private theorem allocate_of_free_eq_nil (hfree : s.free = []) (parent : Option NodeId) :
    (A.withCells s cells).allocate parent =
      (s.allocate.1, A.withCells s.allocate.2 ((s.allocate.1, .blank parent) :: cells)) := by
  have hnew : s.current s.size = ⟨s.size, 0⟩ := by simp [Slots.current, Slots.size]
  have hall : s.allocate = (s.current s.size, { s with releases := s.releases.push 0 }) := by
    rw [Slots.allocate, hfree]
  have hcurrent := s.current_allocate
  rw [hall] at hcurrent
  have hsize : (A.withCells s cells).entries.size = s.size := Array.size_ofFn
  have harena : (A.withCells s cells).free = [] := hfree
  rw [allocate, harena, hall]
  refine Prod.ext (by simp [hnew, hsize]) (eq_withCells hfree.symm rfl fun i ↦ ?_)
  simp only [Array.getElem?_push, getElem?_withCells, hcurrent, hsize]
  have hgrown : (⟨s.releases.push 0, s.free⟩ : Slots).size = s.size + 1 := Array.size_push ..
  rw [hgrown]
  by_cases hi : i = s.size
  · subst hi
    simp [hnew]
  · have hne : s.current i ≠ s.current s.size := fun heq ↦ hi (congrArg NodeId.slot heq)
    have hlt : i < s.size + 1 ↔ i < s.size := by omega
    simp [hi, hlt, lookup_cons_of_ne hne]

/-- Otherwise a node gets the slot that was released last. -/
private theorem allocate_of_free_eq_cons {slot : Nat} {free : List Nat}
    (hfree : s.free = slot :: free) (hlt : slot < s.size) (parent : Option NodeId) :
    (A.withCells s cells).allocate parent =
      (s.allocate.1, A.withCells s.allocate.2 ((s.allocate.1, .blank parent) :: cells)) := by
  have hall : s.allocate = (s.current slot, { s with free := free }) := by
    rw [Slots.allocate, hfree]
  have hcurrent := s.current_allocate
  rw [hall] at hcurrent
  have hentry := A.getElem?_withCells s cells slot
  rw [if_pos hlt] at hentry
  have harena : (A.withCells s cells).free = slot :: free := hfree
  rw [allocate, harena, hall]
  refine Prod.ext (by simp only [hentry]; rfl) (eq_withCells rfl rfl fun i ↦ ?_)
  have hsize : (⟨s.releases, free⟩ : Slots).size = s.size := rfl
  simp only [Array.getElem?_modify, getElem?_withCells, hcurrent, hsize]
  by_cases hi : slot = i
  · subst hi
    simp [hlt]
  · have hne : s.current i ≠ s.current slot := fun heq ↦ hi (congrArg NodeId.slot heq).symm
    simp [hi, lookup_cons_of_ne hne]

theorem allocate_withCells (h : s.Holds (cells.map Prod.fst)) (parent : Option NodeId) :
    (A.withCells s cells).allocate parent =
      (s.allocate.1, A.withCells s.allocate.2 ((s.allocate.1, .blank parent) :: cells)) := by
  cases hfree : s.free with
  | nil => exact allocate_of_free_eq_nil hfree parent
  | cons slot free =>
    exact allocate_of_free_eq_cons hfree (h.mem_free.1 (hfree ▸ List.mem_cons_self ..)).1 parent

theorem vacate_withCells (h : s.Holds (id :: cells.map Prod.fst)) :
    (A.withCells s ((id, c) :: cells)).vacate id.slot = A.withCells (s.release id) cells := by
  refine eq_withCells rfl rfl fun slot ↦ ?_
  have hlt := h.slot_lt (List.mem_cons_self ..)
  simp only [vacate, Array.getElem?_modify, getElem?_withCells, Slots.size_release]
  by_cases hslot : id.slot = slot
  · subst hslot
    have hnext : (s.current id.slot).generation + 1 =
        ((s.release id).current id.slot).generation := by
      simp [Slots.current_eq, Slots.count_release s id hlt]
    have hnone : cells.lookup ((s.release id).current id.slot) = none := by
      have hslots := h.nodup_slots
      rw [List.map_cons, List.nodup_cons] at hslots
      exact lookup_eq_none fun hmem ↦ hslots.1 (List.mem_map.2 ⟨_, hmem, rfl⟩)
    simp [hlt, hnone, hnext]
  · have hne : s.current slot ≠ id := fun heq ↦ hslot (congrArg NodeId.slot heq).symm
    have hcount : (s.release id).current slot = s.current slot := by
      rw [Slots.current_eq, Slots.count_release s id hlt, if_neg (Ne.symm hslot)]
      rfl
    simp [hslot, lookup_cons_of_ne hne, hcount]

end Arena

end DocPath

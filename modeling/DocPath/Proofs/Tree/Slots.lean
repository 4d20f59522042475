import DocPath.Tree.Slots
import Mathlib.Data.List.Nodup
import Mathlib.Data.List.Range
import Mathlib.Data.List.Perm.Basic

/-!
# The slots in use

`Slots.Holds s live` says that the handles `live` are in use: their slots and the free ones are all
slots there are, each once, and every handle has the generation its slot gives now. Allocating adds
a handle (`holds_allocate`) and releasing takes one away (`holds_release`); no other property of the
free list is ever needed.

Releases are only ever counted up (`Slots.LE`), which is what makes a released handle stale for good
as long as no count reaches `2 ^ 32` (`Slots.Unwrapped`): it is `Slots.Spent`, and no handle in use
ever is.
-/

namespace DocPath.Slots

/-- The handles in use: every slot is the slot of exactly one of them or is free exactly once, and
each of them is of the current generation of its slot. -/
structure Holds (s : Slots) (live : List NodeId) : Prop where
  perm : (live.map NodeId.slot ++ s.free).Perm (List.range s.size)
  current : ∀ id ∈ live, s.current id.slot = id

namespace Holds

variable {s : Slots} {live : List NodeId}

theorem of_perm {live' : List NodeId} (h : s.Holds live) (hp : live.Perm live') :
    s.Holds live' where
  perm := ((hp.map _).symm.append_right _).trans h.perm
  current id hid := h.current id (hp.mem_iff.2 hid)

theorem nodup_append (h : s.Holds live) : (live.map NodeId.slot ++ s.free).Nodup :=
  h.perm.nodup_iff.2 List.nodup_range

theorem nodup_slots (h : s.Holds live) : (live.map NodeId.slot).Nodup :=
  (List.nodup_append.1 h.nodup_append).1

/-- No handle is in use twice. -/
theorem nodup (h : s.Holds live) : live.Nodup :=
  h.nodup_slots.of_map

theorem nodup_free (h : s.Holds live) : s.free.Nodup :=
  (List.nodup_append.1 h.nodup_append).2.1

theorem slot_lt (h : s.Holds live) {id : NodeId} (hid : id ∈ live) : id.slot < s.size :=
  List.mem_range.1 (h.perm.mem_iff.1 (List.mem_append_left _ (List.mem_map_of_mem hid)))

theorem eq_of_slot_eq (h : s.Holds live) {a b : NodeId} (ha : a ∈ live) (hb : b ∈ live)
    (hab : a.slot = b.slot) : a = b := by
  rw [← h.current a ha, ← h.current b hb, hab]

/-- The free slots are those of no handle in use. -/
theorem mem_free (h : s.Holds live) {slot : Nat} :
    slot ∈ s.free ↔ slot < s.size ∧ ∀ id ∈ live, id.slot ≠ slot := by
  have hmem := h.perm.mem_iff (a := slot)
  rw [List.mem_append, List.mem_range] at hmem
  constructor
  · intro hfree
    refine ⟨hmem.1 (.inr hfree), fun id hid heq ↦ ?_⟩
    have hslot : slot ∈ live.map NodeId.slot := heq ▸ List.mem_map_of_mem hid
    exact List.disjoint_of_nodup_append h.nodup_append hslot hfree
  · rintro ⟨hlt, hne⟩
    refine (hmem.2 hlt).resolve_left fun hslot ↦ ?_
    obtain ⟨id, hid, heq⟩ := List.mem_map.1 hslot
    exact hne id hid heq

end Holds

/-! ### Allocating -/

/-- How often a slot was released. -/
def count (s : Slots) (slot : Nat) : Nat :=
  s.releases.getD slot 0

theorem current_eq (s : Slots) (slot : Nat) :
    s.current slot = ⟨slot, UInt32.ofNat (s.count slot)⟩ :=
  rfl

@[simp] theorem count_allocate (s : Slots) : s.allocate.2.count = s.count := by
  funext slot
  unfold allocate
  split
  · rfl
  · simp only [count, Array.getD_eq_getD_getElem?, Array.getElem?_push]
    split
    · simp [*]
    · rfl

@[simp] theorem current_allocate (s : Slots) : s.allocate.2.current = s.current := by
  funext slot
  rw [current_eq, current_eq, count_allocate]

/-- An allocated handle is in use, together with those that were. -/
theorem holds_allocate {s : Slots} {live : List NodeId} (h : s.Holds live) :
    s.allocate.2.Holds (s.allocate.1 :: live) where
  perm := by
    have hp := h.perm
    unfold allocate
    split
    · -- the slot goes from the free ones to those in use
      rename_i slot free hfree
      rw [hfree] at hp
      simp only [List.map_cons, current, List.cons_append]
      exact List.perm_middle.symm.trans hp
    · -- all slots are in use, and there is one more
      rename_i hfree
      rw [hfree, List.append_nil] at hp
      simp only [List.map_cons, current, hfree, List.append_nil, size, Array.size_push]
      rw [List.range_succ]
      exact (hp.cons _).trans (List.perm_append_singleton _ _).symm
  current id hid := by
    rw [current_allocate]
    rcases List.mem_cons.1 hid with rfl | hid
    · unfold allocate
      split <;> rfl
    · exact h.current id hid

/-! ### Releasing -/

theorem count_release (s : Slots) (id : NodeId) (hlt : id.slot < s.size) (slot : Nat) :
    (s.release id).count slot = s.count slot + if slot = id.slot then 1 else 0 := by
  simp only [count, release, Array.getD_eq_getD_getElem?, Array.getElem?_modify]
  by_cases h : slot = id.slot
  · subst h
    simp [Array.getElem?_eq_getElem hlt]
  · simp [h, Ne.symm h]

/-- A slot is released as often as it is the slot of a handle to release. -/
theorem count_releaseAll (s : Slots) (ids : List NodeId) (h : ∀ id ∈ ids, id.slot < s.size)
    (slot : Nat) :
    (s.releaseAll ids).count slot = s.count slot + (ids.map NodeId.slot).count slot := by
  induction ids generalizing s with
  | nil => rfl
  | cons id rest ih =>
    obtain ⟨hid, hrest⟩ := List.forall_mem_cons.1 h
    have hstep := ih (s.release id) fun i hi ↦ by rw [size_release]; exact hrest i hi
    rw [releaseAll, List.foldl_cons, ← releaseAll, hstep, count_release s id hid, List.map_cons,
      List.count_cons]
    by_cases heq : slot = id.slot
    · simp only [heq, if_true, BEq.rfl]
      omega
    · simp [heq, Ne.symm heq]

/-- A released handle is no longer in use, and the others still are. -/
theorem holds_release {s : Slots} {live : List NodeId} {id : NodeId}
    (h : s.Holds (id :: live)) : (s.release id).Holds live where
  perm := by
    rw [size_release]
    exact List.perm_middle.trans h.perm
  current other hother := by
    have hne : other.slot ≠ id.slot := fun heq ↦ by
      have := h.eq_of_slot_eq (List.mem_cons_of_mem _ hother) (List.mem_cons_self ..) heq
      exact (List.nodup_cons.1 h.nodup).1 (this ▸ hother)
    have hlt := h.slot_lt (List.mem_cons_self ..)
    rw [current_eq, count_release s id hlt, if_neg hne]
    exact h.current other (List.mem_cons_of_mem _ hother)

theorem holds_releaseAll {s : Slots} {live : List NodeId} (ids : List NodeId)
    (h : s.Holds (ids ++ live)) : (s.releaseAll ids).Holds live := by
  induction ids generalizing s with
  | nil => exact h
  | cons id rest ih => exact ih (holds_release h)

/-- Handles in use are different, so releasing some of them releases no slot twice. -/
theorem count_releaseAll_le {s : Slots} {live : List NodeId} (ids : List NodeId)
    (h : s.Holds (ids ++ live)) (slot : Nat) :
    (s.releaseAll ids).count slot ≤ s.count slot + 1 := by
  have hnodup := h.nodup_slots
  rw [List.map_append] at hnodup
  rw [count_releaseAll s ids fun id hid ↦ h.slot_lt (List.mem_append_left _ hid)]
  exact Nat.add_le_add_left (List.nodup_iff_count_le_one.1 (List.nodup_append.1 hnodup).1 slot) _

/-- No slots hold no handles. -/
theorem holds_none : none.Holds [] :=
  ⟨.refl _, by simp⟩

/-! ### Counts of releases -/

/-- What slots can become: none goes, releases are only counted up, and a slot that was in use and
has become free was released. -/
protected structure LE (s s' : Slots) : Prop where
  size : s.size ≤ s'.size
  count : ∀ slot, s.count slot ≤ s'.count slot
  freed : ∀ slot < s.size, slot ∉ s.free → slot ∈ s'.free → s.count slot < s'.count slot

/-- No slot was released so often that its generations have come back. -/
def Unwrapped (s : Slots) : Prop :=
  ∀ slot, s.count slot < 0x100000000

theorem unwrapped_iff {s : Slots} : s.Unwrapped ↔ ∀ n ∈ s.releases.toList, n < 0x100000000 := by
  constructor
  · intro h n hn
    obtain ⟨slot, hslot, rfl⟩ := List.mem_iff_getElem.1 hn
    have hlt : slot < s.releases.size := by simpa using hslot
    simpa [count, Array.getElem?_eq_getElem hlt] using h slot
  · intro h slot
    rw [count, Array.getD_eq_getD_getElem?]
    cases hslot : s.releases[slot]? with
    | none => decide
    | some n => exact h n (Array.mem_toList_iff.2 (Array.mem_of_getElem? hslot))

instance (s : Slots) : Decidable s.Unwrapped :=
  decidable_of_iff _ unwrapped_iff.symm

/-- The slot of the handle was released after it had the handle's generation. -/
def Spent (s : Slots) (id : NodeId) : Prop :=
  id.generation.toNat < s.count id.slot

/-- Between the two, no slot was released so often that its generations have come back. -/
def Near (s s' : Slots) : Prop :=
  ∀ slot, s'.count slot < s.count slot + 0x100000000

namespace LE

protected theorem refl (s : Slots) : s.LE s :=
  ⟨Nat.le_refl _, fun _ ↦ Nat.le_refl _, fun _ _ hfree hfree' ↦ absurd hfree' hfree⟩

protected theorem trans {s s' s'' : Slots} (h : s.LE s') (h' : s'.LE s'') : s.LE s'' where
  size := Nat.le_trans h.size h'.size
  count slot := Nat.le_trans (h.count slot) (h'.count slot)
  freed slot hlt hfree hfree'' := by
    by_cases hfree' : slot ∈ s'.free
    · exact Nat.lt_of_lt_of_le (h.freed slot hlt hfree hfree') (h'.count slot)
    · have hlt' := Nat.lt_of_lt_of_le hlt h.size
      exact Nat.lt_of_le_of_lt (h.count slot) (h'.freed slot hlt' hfree' hfree'')

theorem unwrapped {s s' : Slots} (h : s.LE s') (hs : s'.Unwrapped) : s.Unwrapped :=
  fun slot ↦ Nat.lt_of_le_of_lt (h.count slot) (hs slot)

theorem spent {s s' : Slots} {id : NodeId} (h : s.LE s') (hid : s.Spent id) : s'.Spent id :=
  Nat.lt_of_lt_of_le hid (h.count id.slot)

end LE

theorem le_allocate (s : Slots) : s.LE s.allocate.2 where
  size := by
    unfold allocate
    split
    · exact Nat.le_refl _
    · simp [size]
  count slot := by rw [count_allocate]
  freed slot hlt hfree hfree' := by
    refine absurd ?_ hfree
    unfold allocate at hfree'
    split at hfree'
    · rename_i first free heq
      rw [heq]
      exact List.mem_cons_of_mem first hfree'
    · exact hfree'

theorem count_le_count_release (s : Slots) (id : NodeId) (slot : Nat) :
    s.count slot ≤ (s.release id).count slot := by
  simp only [count, release, Array.getD_eq_getD_getElem?, Array.getElem?_modify]
  split
  · cases s.releases[slot]? <;> simp
  · exact Nat.le_refl _

theorem le_release (s : Slots) (id : NodeId) : s.LE (s.release id) where
  size := by rw [size_release]
  count := s.count_le_count_release id
  freed slot hlt hfree hfree' := by
    obtain rfl : slot = id.slot := (List.mem_cons.1 hfree').resolve_right hfree
    rw [count_release s id hlt, if_pos rfl]
    exact Nat.lt_succ_self _

theorem le_releaseAll (s : Slots) (ids : List NodeId) : s.LE (s.releaseAll ids) := by
  induction ids generalizing s with
  | nil => exact .refl _
  | cons id rest ih => exact (s.le_release id).trans (ih _)

/-! ### Spent handles -/

namespace Holds

variable {s s' : Slots} {live live' : List NodeId} {id : NodeId}

theorem generation_eq (h : s.Holds live) (hid : id ∈ live) :
    id.generation = UInt32.ofNat (s.count id.slot) := by
  have hcurrent := congrArg NodeId.generation (h.current id hid)
  rwa [current_eq, eq_comm] at hcurrent

/-- As long as generations have not come back, no handle in use is spent. -/
theorem not_spent (h : s.Holds live) (hs : s.Unwrapped) (hid : id ∈ live) : ¬ s.Spent id := by
  have hcount := hs id.slot
  rw [Spent, h.generation_eq hid, UInt32.toNat_ofNat', Nat.mod_eq_of_lt hcount]
  exact Nat.lt_irrefl _

/-- The slot of a handle that was in use and no longer is was released. -/
theorem count_lt (h : s.Holds live) (h' : s'.Holds live') (hle : s.LE s') (hid : id ∈ live)
    (hgone : id ∉ live') : s.count id.slot < s'.count id.slot := by
  have hslot := h.slot_lt hid
  by_cases hfree' : id.slot ∈ s'.free
  · refine hle.freed _ hslot (fun hfree ↦ ?_) hfree'
    exact (h.mem_free.1 hfree).2 id hid rfl
  · -- another handle has the slot now, so the generation has changed
    obtain ⟨other, hother, heq⟩ : ∃ other ∈ live', other.slot = id.slot := by
      by_contra hunused
      refine hfree' (h'.mem_free.2 ⟨Nat.lt_of_lt_of_le hslot hle.size, fun other ho heq ↦ ?_⟩)
      exact hunused ⟨other, ho, heq⟩
    refine Nat.lt_of_le_of_ne (hle.count _) fun hcount ↦ hgone ?_
    rw [← h.current id hid, current_eq, hcount, ← heq, ← current_eq, h'.current other hother]
    exact hother

/-- A handle that was in use and no longer is, is spent. -/
theorem spent (h : s.Holds live) (h' : s'.Holds live') (hle : s.LE s') (hid : id ∈ live)
    (hgone : id ∉ live') : s'.Spent id := by
  have hgeneration : id.generation.toNat ≤ s.count id.slot := by
    rw [h.generation_eq hid, UInt32.toNat_ofNat']
    exact Nat.mod_le _ _
  exact Nat.lt_of_le_of_lt hgeneration (h.count_lt h' hle hid hgone)

/-- A handle that is no longer in use does not come back before its slot was released `2 ^ 32`
times. -/
theorem notMem_of_near {s'' : Slots} {live'' : List NodeId} (h : s.Holds live)
    (h' : s'.Holds live') (h'' : s''.Holds live'') (hle : s.LE s') (hle' : s'.LE s'')
    (hnear : s.Near s'') (hid : id ∈ live) (hgone : id ∉ live') : id ∉ live'' := by
  intro hback
  have hlt := Nat.lt_of_lt_of_le (h.count_lt h' hle hid hgone) (hle'.count id.slot)
  have hbound := hnear id.slot
  have hsame : (UInt32.ofNat (s.count id.slot)).toNat =
      (UInt32.ofNat (s''.count id.slot)).toNat := by
    rw [← h.generation_eq hid, ← h''.generation_eq hback]
  rw [UInt32.toNat_ofNat', UInt32.toNat_ofNat'] at hsame
  omega

end Holds

end DocPath.Slots

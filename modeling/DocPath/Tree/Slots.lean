/-!
# Handles and slots

Every node of a tree has a handle: a slot, and the generation of that slot when the node was made.
Releasing a node begins the next generation of its slot, so the handle of a released node names
nothing from then on, whatever the slot is used for later. Generations are words of 32 bits, so they
come back after `2 ^ 32` releases of one slot. Released slots are used again, the one released last
first, before new ones are added.
-/

namespace DocPath

/-- The handle of a node. -/
structure NodeId where
  slot : Nat
  generation : UInt32
deriving DecidableEq

/-- How often every slot was released, and the slots that no node has, the one released last
first. -/
structure Slots where
  releases : Array Nat
  free : List Nat

namespace Slots

/-- No slots at all. -/
def none : Slots :=
  ⟨#[], []⟩

/-- How many slots there are. -/
def size (s : Slots) : Nat :=
  s.releases.size

/-- The handle that a slot gives now. -/
def current (s : Slots) (slot : Nat) : NodeId :=
  ⟨slot, UInt32.ofNat (s.releases.getD slot 0)⟩

/-- A handle that no node has, and the slots with its slot in use. -/
def allocate (s : Slots) : NodeId × Slots :=
  match s.free with
  | slot :: free => (s.current slot, { s with free := free })
  | [] => (s.current s.size, { s with releases := s.releases.push 0 })

/-- The slots without the node of a handle. -/
def release (s : Slots) (id : NodeId) : Slots :=
  ⟨s.releases.modify id.slot (· + 1), id.slot :: s.free⟩

/-- The slots without the nodes of some handles. -/
def releaseAll (s : Slots) (ids : List NodeId) : Slots :=
  ids.foldl release s

@[simp] theorem size_none : none.size = 0 := rfl

@[simp] theorem size_release (s : Slots) (id : NodeId) : (s.release id).size = s.size := by
  simp [size, release]

@[simp] theorem size_releaseAll (s : Slots) (ids : List NodeId) :
    (s.releaseAll ids).size = s.size := by
  induction ids generalizing s with
  | nil => rfl
  | cons id rest ih => exact (ih _).trans (s.size_release id)

end Slots

end DocPath

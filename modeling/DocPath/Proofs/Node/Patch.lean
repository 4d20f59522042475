import DocPath.Proofs.Node.Context
import DocPath.Proofs.Node.Rename

/-!
# Patching nodes

A node is patched at a handle by putting another node there, or by taking away what is there. Patches
at two handles can be done in either order if none of them brings the other handle in
(`patch_comm`), wherever in the node the two handles are.

Patches commute with renaming (`patch_rename`), and so do the keys on the way down to a handle
(`keysTo?_rename`).
-/

namespace DocPath.Node

variable {n : Node} {a b id : NodeId} {x y new : Option Node} {σ : Renaming}

/-- Puts another node in the place of the one with a handle, or takes that one away. -/
def patch (id : NodeId) (new : Option Node) (n : Node) : Node :=
  match new with
  | some m => replace id m n
  | none => n.erase id

/-- The handles that a patch brings in. -/
def patchIds (new : Option Node) : List NodeId :=
  new.toList.flatMap ids

theorem id_patch (h : ∀ m ∈ new, m.id = id) (n : Node) : (patch id new n).id = n.id := by
  cases new with
  | none => exact id_erase id n
  | some m => exact id_replace (h m rfl) n

/-! ### Order -/

theorem dropChild_mapChildren {f : Node → Node} (h : ∀ c ∈ n.childNodes, (f c).id = c.id) :
    (n.mapChildren f).dropChild id = (n.dropChild id).mapChildren f := by
  cases n with
  | scalar i s => rfl
  | sequence i items =>
    rw [childNodes_sequence] at h
    simp only [mapChildren, dropChild, List.filter_map]
    refine congrArg (fun items ↦ Node.sequence i (items.map f)) (List.filter_congr fun c hc ↦ ?_)
    simp [h c hc]
  | map i entries =>
    rw [childNodes_map] at h
    simp only [mapChildren, dropChild, List.filter_map]
    refine congrArg (fun entries : List (String × Node) ↦
      Node.map i (entries.map fun entry ↦ (entry.1, f entry.2))) (List.filter_congr fun e he ↦ ?_)
    simp [h e.2 (List.mem_map_of_mem he)]

theorem dropChild_comm (a b : NodeId) (n : Node) :
    (n.dropChild b).dropChild a = (n.dropChild a).dropChild b := by
  cases n <;> simp [dropChild, Bool.and_comm]

theorem replace_comm {l r : Node} (hab : a ≠ b) (hl : b ∉ l.ids) (hr : a ∉ r.ids) (n : Node) :
    replace a l (replace b r n) = replace b r (replace a l n) := by
  induction n using induction_children with
  | step n ih =>
    by_cases ha : n.id = a
    · have hb : n.id ≠ b := fun hb ↦ hab (ha.symm.trans hb)
      subst ha
      rw [replace_self, replace_of_notMem r hl, replace_of_ne r hb, replace_eq, id_mapChildren,
        if_pos rfl]
    · by_cases hb : n.id = b
      · subst hb
        rw [replace_self, replace_of_notMem l hr, replace_of_ne l ha, replace_eq, id_mapChildren,
          if_pos rfl]
      · have hid : ∀ f, (n.mapChildren f).id = n.id := fun f ↦ id_mapChildren f n
        rw [replace_of_ne r hb, replace_of_ne l ha, replace_of_ne l (by rwa [hid]),
          replace_of_ne r (by rwa [hid]), mapChildren_mapChildren, mapChildren_mapChildren]
        exact mapChildren_congr ih

theorem replace_erase_comm {l : Node} (hab : a ≠ b) (hid : l.id = a) (hl : b ∉ l.ids) (n : Node) :
    replace a l (n.erase b) = (replace a l n).erase b := by
  induction n using induction_children with
  | step n ih =>
    by_cases ha : n.id = a
    · subst ha
      rw [replace_self, erase_of_notMem hl, replace_eq, id_erase, if_pos rfl]
    · rw [replace_of_ne l ha, replace_of_ne l (by rwa [id_erase]), erase_eq, erase_eq,
        dropChild_mapChildren fun c _ ↦ id_replace hid c, mapChildren_mapChildren,
        mapChildren_mapChildren]
      refine mapChildren_congr fun c hc ↦ ih c ?_
      rw [childNodes_dropChild] at hc
      exact List.mem_of_mem_filter hc

theorem erase_comm (a b : NodeId) (n : Node) : (n.erase b).erase a = (n.erase a).erase b := by
  induction n using induction_children with
  | step n ih =>
    rw [erase_eq b, erase_eq a, erase_eq a n, erase_eq b,
      dropChild_mapChildren fun c _ ↦ id_erase b c, dropChild_mapChildren fun c _ ↦ id_erase a c,
      mapChildren_mapChildren, mapChildren_mapChildren, dropChild_comm]
    refine mapChildren_congr fun c hc ↦ ih c ?_
    rw [childNodes_dropChild, childNodes_dropChild] at hc
    exact List.mem_of_mem_filter (List.mem_of_mem_filter hc)

/-- Patches at two handles can be done in either order. -/
theorem patch_comm (hab : a ≠ b) (hx : ∀ m ∈ x, m.id = a) (hy : ∀ m ∈ y, m.id = b)
    (hbx : b ∉ patchIds x) (hay : a ∉ patchIds y) (n : Node) :
    patch a x (patch b y n) = patch b y (patch a x n) := by
  have hids : ∀ m : Node, patchIds (some m) = m.ids := fun m ↦ List.flatMap_singleton ids m
  cases x with
  | none =>
    cases y with
    | none => exact erase_comm a b n
    | some r =>
      exact (replace_erase_comm hab.symm (hy r rfl) (hids r ▸ hay) n).symm
  | some l =>
    cases y with
    | none => exact replace_erase_comm hab (hx l rfl) (hids l ▸ hbx) n
    | some r => exact replace_comm hab (hids l ▸ hbx) (hids r ▸ hay) n

/-! ### Renaming -/

theorem patch_rename (σ : Renaming) (id : NodeId) (new : Option Node) (n : Node) :
    patch (σ id) (new.map (rename σ)) (n.rename σ) = (patch id new n).rename σ := by
  cases new with
  | none => exact erase_rename σ id n
  | some m => exact replace_rename σ id m n

/-- The keys on the way down to a handle. -/
def keysTo? (id : NodeId) (n : Node) : Option (List Key) :=
  (n.trail? id).map fun steps ↦ steps.map Step.key

theorem keysTo?_eq (id : NodeId) (n : Node) :
    n.keysTo? id = if n.id = id then some [] else
      n.children.findSome? fun child ↦ (child.2.keysTo? id).map (child.1 :: ·) := by
  rw [keysTo?, trail?_eq]
  split
  · rfl
  · rw [List.map_findSome?]
    refine congrArg (List.findSome? · _) (funext fun child ↦ ?_)
    simp [keysTo?, Function.comp_def]

theorem findSome?_congr {α β : Type} {f g : α → Option β} {l : List α} (h : ∀ a ∈ l, f a = g a) :
    l.findSome? f = l.findSome? g := by
  induction l with
  | nil => rfl
  | cons a rest ih =>
    obtain ⟨ha, hrest⟩ := List.forall_mem_cons.1 h
    rw [List.findSome?_cons, List.findSome?_cons, ha, ih hrest]

/-- Renaming leaves the keys on the way down as they are. -/
theorem keysTo?_rename (σ : Renaming) (id : NodeId) (n : Node) :
    (n.rename σ).keysTo? (σ id) = n.keysTo? id := by
  induction n using induction_children with
  | step n ih =>
    rw [keysTo?_eq, keysTo?_eq id n, id_rename, children_rename, List.findSome?_map]
    simp only [σ.injective.eq_iff]
    refine congrArg (ite _ _) (findSome?_congr fun child hchild ↦ ?_)
    rw [Function.comp_apply, ih child.2 (mem_childNodes.2 ⟨child.1, hchild⟩)]

end DocPath.Node

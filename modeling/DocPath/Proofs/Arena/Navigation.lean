import DocPath.Proofs.Arena.Reachable

/-!
# Finding one's way in an arena

Downward one goes along the lists of children, upward along the links to parents. An arena is
`Navigable` if the two fit together: what is below a node is what has it above, the list of what is
below a node goes through the children in order and lists each right before all that is below that
child, and a node and its entry among the children of its parent name each other.

That it is so is the `Consistent` part of the story told from the other side: in the arena of a sound
tree, lists and links both say what the tree says, and there going up is the inverse of going down
(`Tree.Sound.mem_descendants_iff`). A key leads back to its node since it is in range, with so few
slots.

* `Lists` — the place of a node among the children of its parent
* `navigable_of_reachable` — every arena that comes up is navigable
-/

namespace DocPath

namespace Arena

/-- The children of a node split at the entry of one of them. -/
structure Lists (A : Arena) (p d : NodeId) (key : Key) (before after : List (Key × NodeId)) :
    Prop where
  children : A.children p = before ++ (key, d) :: after
  /-- The entry shares neither its key nor its node with another one. -/
  only : ∀ entry ∈ before ++ after, entry.1 ≠ key ∧ entry.2 ≠ d
  key? : A.key? d = some key
  index? : A.index? d = some before.length
  child? : ∀ exact, A.child? p key exact = some d
  siblings : A.siblings d = (before ++ after).map Prod.snd

/-- Going down along lists of children and going up along links to parents fit together. -/
structure Navigable (A : Arena) : Prop where
  /-- Going down and going up come to an end. -/
  ends : ∀ n, (A.descendants n).isSome ∧ (A.ancestors n).isSome ∧ (A.rootOf n).isSome
  /-- What is below a node has the node above it. -/
  below_iff_above : ∀ {n d below above}, A.descendants n = some below →
    A.ancestors d = some above → (d ∈ below ↔ n ∈ above)
  /-- No node is listed twice below another one, nor above. -/
  once : ∀ {n below above}, A.descendants n = some below → A.ancestors n = some above →
    below.Nodup ∧ above.Nodup
  /-- A node comes before those below it. -/
  before_below : ∀ {n a b below inner}, A.descendants n = some below →
    A.descendants a = some inner → a ∈ below → b ∈ inner → [a, b].Sublist below
  /-- What is at or below a child comes before what is at or below a later child. -/
  before_later : ∀ {n p a b x y below first second}, A.descendants n = some below →
    p ∈ n :: below → [a, b].Sublist ((A.children p).map Prod.snd) →
    A.descendants a = some first → x ∈ a :: first →
    A.descendants b = some second → y ∈ b :: second → [x, y].Sublist below
  /-- A node with a parent has an entry there. -/
  entry : ∀ {p d}, A.parent? d = some p → ∃ key before after, A.Lists p d key before after
  /-- Of a node and those above it the top is the one that has no parent. -/
  top : ∀ {d r above}, A.ancestors d = some above →
    (r ∈ d :: above ∧ A.parent? r = none ↔ A.rootOf d = some r)

theorem fits_of_reachable {A : Arena} (h : A.Reachable) : A.Fits := by
  cases h with
  | ofJson registry hv hfits => exact hfits
  | step hA h hfits => exact hfits
  | exportFrom hA hother h hfits hfits' => exact hfits
  | exportTo hA hother h hfits hfits' => exact hfits'

end Arena

namespace Tree.Sound

variable {t : Tree} {p d : NodeId}

/-- In the arena, an entry is where the tree has it. -/
theorem lists_arena (h : t.Sound) (hfits : t.arena.Fits) (hp : t.parent? d = some p) :
    ∃ key before after, t.arena.Lists p d key before after := by
  obtain ⟨key, before, after, hentry⟩ := h.exists_entry hp
  have hmem : (key, d) ∈ t.listing p := by simp [hentry.listing]
  have hsize : t.slots.size ≤ 0x8000000000000000 :=
    (Tree.fits_arena.1 hfits).le.trans (by decide)
  refine ⟨key, before, after, ?_, hentry.only, ?_, ?_, fun exact ↦ ?_, ?_⟩
  · rw [h.children_arena, hentry.listing]
  · rw [h.key?_arena, hentry.key?]
  · rw [h.index?_arena, hentry.index?]
  · rw [h.child?_arena, hentry.child? (h.inRange_of_mem_listing hsize hmem)]
  · rw [h.siblings_arena, hentry.siblings]

theorem navigable_arena (h : t.Sound) (hfits : t.arena.Fits) : t.arena.Navigable := by
  constructor
  case ends =>
    intro n
    rw [h.descendants_arena, h.ancestors_arena, h.rootOf_arena]
    exact ⟨rfl, rfl, rfl⟩
  case entry =>
    intro p d hp
    rw [h.parent?_arena] at hp
    exact h.lists_arena hfits hp
  all_goals simp only [h.descendants_arena, h.ancestors_arena, h.rootOf_arena, h.parent?_arena,
    h.children_arena, Option.some.injEq]
  case below_iff_above =>
    rintro n d _ _ rfl rfl
    exact h.mem_descendants_iff
  case once =>
    rintro n _ _ rfl rfl
    exact ⟨h.nodup_descendants n, h.nodup_ancestors n⟩
  case before_below =>
    rintro n a b _ _ rfl rfl
    exact h.before_below
  case before_later =>
    rintro n p a b x y _ _ _ rfl hp hab rfl hx rfl hy
    exact h.before_later hp hab hx hy
  case top =>
    rintro d r _ rfl
    rw [h.eq_rootOf_iff, eq_comm]

end Tree.Sound

namespace Arena

/-- Whatever was done with an arena, going down and going up in it fit together. -/
theorem navigable_of_reachable {A : Arena} (h : A.Reachable) : A.Navigable := by
  obtain ⟨t, rfl, ht, -⟩ := exists_tree_of_reachable h
  exact ht.navigable_arena (fits_of_reachable h)

/-- Slots that are used for the second time, by nodes of another place. -/
theorem navigable_of_reachable_reused :
    ∃ A B, (ofJson .empty (.object [("a", .array [.null]), ("b", .array [.null])])).kill ⟨1, 0⟩ =
        some (true, A) ∧
      A.insertChild ⟨0, 0⟩ (.name "a") (.array [.null]) = some (some ⟨1, 1⟩, B) ∧
      B.descendants ⟨0, 0⟩ = some [⟨3, 0⟩, ⟨4, 0⟩, ⟨1, 1⟩, ⟨2, 1⟩] ∧ B.Navigable := by
  have ht : (Tree.ofJson .empty
      (.object [("a", .array [.null]), ("b", .array [.null])])).Sound :=
    Tree.sound_ofJson _ (by simp)
  have hkill := ht.kill_arena (by decide) ⟨1, 0⟩
  have hinsert := (ht.kill ⟨1, 0⟩).insertChild_arena ⟨0, 0⟩ (.name "a") (.array [.null])
  rw [← Tree.arena_ofJson] at hkill
  refine ⟨_, _, hkill, hinsert, ?_, navigable_of_reachable
    (.step (.step (.ofJson _ (by simp) ?_) (.kill hkill) ?_) (.insertChild (by simp) hinsert) ?_)⟩
  · rw [((ht.kill ⟨1, 0⟩).insertChild ⟨0, 0⟩ (.name "a") (by simp)).descendants_arena]
    decide
  · rw [Tree.arena_ofJson, Tree.fits_arena]
    decide
  · rw [Tree.fits_arena]
    decide
  · rw [Tree.fits_arena]
    decide

end Arena

end DocPath

import DocPath.Proofs.Flat.Leaves
import DocPath.Proofs.Path.Absolute
import DocPath.Proofs.Tree.Write

/-!
# Squishing and expanding

The flat document of a value has one path for every leaf, and expanding it gives the value back
(`expand_squish`). Each path is read back as the keys of its leaf, so what `Flat.expand` does to the
document of its tree is to write the leaves, one after the other (`document_bridge_leaves`).
-/

namespace DocPath

open Json (writeIn)

namespace Tree

variable {t : Tree}

/-- Bridging leaves of a value at their paths writes them, in a document that is still to become a
container or has already become one of the kind of the value. -/
theorem document_bridge_leaves {v : Json} (hv : v.Addressable)
    {leaves : List (List Key × Json)} (hleaves : leaves ⊆ Flat.leaves v) (ht : t.Sound)
    (hkind : t.document.kind = .scalar ∨ t.document.kind = v.kind) :
    ∃ t', t.bridge (leaves.map fun leaf ↦ (Flat.pathOf leaf.1, leaf.2)) = (.ok (), t') ∧
      t'.document = t.document.writeAll leaves := by
  induction leaves generalizing t with
  | nil => exact ⟨t, rfl, rfl⟩
  | cons leaf rest ih =>
    have hmem : leaf ∈ Flat.leaves v := hleaves (List.mem_cons_self ..)
    have hrange := Flat.inRange_of_mem_leaves hv leaf hmem
    have hdistinct := Flat.distinct_of_mem_leaves v leaf hmem
    obtain ⟨p, hp, hkeys⟩ : ∃ p, Path.parse (Flat.pathOf leaf.1) = .ok p ∧
        Literal p.segments leaf.1 :=
      ⟨_, Path.parse_pathOf hrange, Path.literal?_segments leaf.1⟩
    have hone : t.bridgeOne (Flat.pathOf leaf.1, leaf.2) = .ok (t.bridgePath p leaf.2) := by
      rw [bridgeOne_eq, hp]
      rfl
    have hdocument : (t.bridgePath p leaf.2).document = writeIn leaf.2 leaf.1 t.document := by
      refine document_bridgePath hkeys (Path.wellFormed_of_parse hp) hdistinct ht
        (fun key hkey ↦ ?_) hrange
      rw [← Flat.head?_of_mem_leaves v leaf hmem key hkey]
      exact hkind
    have hsound := (leads_bridgePath hp hdistinct ht).sound ht
    obtain ⟨t', hbridge, ht'⟩ := ih (fun l hl ↦ hleaves (List.mem_cons_of_mem leaf hl)) hsound
      (.inr (hdocument ▸ Flat.kind_writeIn_of_mem_leaves hmem _))
    refine ⟨t', ?_, ?_⟩
    · rw [List.map_cons, bridge, forEach_cons_ok hone]
      exact hbridge
    · rw [ht', hdocument]
      rfl

end Tree

namespace Flat

/-- The flat document of a value has distinct paths, and expanding it gives the value back, every
object with its keys in their order. -/
theorem expand_squish {v : Json} (hv : v.Distinct) (hsize : v.Addressable) :
    ((squish v).map Prod.fst).Nodup ∧ expand (squish v) = .ok v := by
  constructor
  · have hpaths : (squish v).map Prod.fst = ((leaves v).map Prod.fst).map pathOf := by
      simp [squish]
    rw [hpaths]
    refine (nodup_leaves hv).map_on fun keys hkeys others hothers heq ↦ ?_
    obtain ⟨leaf, hleaf, rfl⟩ := List.mem_map.1 hkeys
    obtain ⟨leaf', hleaf', rfl⟩ := List.mem_map.1 hothers
    exact Path.pathOf_injective (inRange_of_mem_leaves hsize leaf hleaf)
      (inRange_of_mem_leaves hsize leaf' hleaf') heq
  · have hsound : (Tree.ofJson .builtin .null).Sound := Tree.sound_ofJson _ trivial
    obtain ⟨t, hbridge, ht⟩ := Tree.document_bridge_leaves hsize (List.Subset.refl _) hsound
      (.inl rfl)
    rw [Tree.document_ofJson, writeAll_leaves v hv] at ht
    rw [expand, squish, hbridge, ← ht]

/-- Keys that look like paths, positions or other keys all come back. -/
theorem expand_squish_awkward :
    expand (squish (.object [("", .object []), ("a.b", .array [.null, .bool true]), (":a", .null),
        ("a", .array []), ("0", .object [("*", .bool false), ("[0]", .null)])])) =
      .ok (.object [("", .object []), ("a.b", .array [.null, .bool true]), (":a", .null),
        ("a", .array []), ("0", .object [("*", .bool false), ("[0]", .null)])]) := by
  refine (expand_squish ?_ ?_).2 <;> simp

end Flat

end DocPath

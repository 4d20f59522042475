import DocPath.Proofs.Node.Position
import DocPath.Proofs.Path.Absolute
import DocPath.Proofs.Tree.Reachable

/-!
# Absolute paths

The absolute path of a node of the document is the path of the keys at which it is found
(`Sound.absolutePath?_of_at?`). Read back, it has one segment for each step down to the node, which
selects exactly the key of that step, and so it is the path of no other node of the document
(`parse_absolutePath`).
-/

namespace DocPath.Tree

variable {t : Tree} {id : NodeId} {n : Node} {keys : List Key}

namespace Sound

/-- The steps down to a node of the document have the keys at which it is found. -/
theorem trail_of_at? (h : t.Sound) (hn : t.root.at? keys = some n) :
    (t.trail n.id).map Step.key = keys := by
  obtain ⟨steps, hsteps, hkeys⟩ := Node.trail?_of_at? h.nodup_ids_root hn
  rw [trail, tops, List.findSome?_cons, hsteps]
  exact hkeys

theorem absolutePath?_of_at? (h : t.Sound) (hn : t.root.at? keys = some n) :
    t.absolutePath? n.id = some (Flat.pathOf keys) := by
  obtain ⟨steps, hsteps, rfl⟩ := Node.trail?_of_at? h.nodup_ids_root hn
  rw [absolutePath?, hsteps, Option.map_some, Flat.pathOf, List.map_map]
  rfl

/-- Nodes of the document with one absolute path are the same. -/
theorem eq_of_absolutePath? (h : t.Sound) {other : NodeId} (hid : id ∈ t.root.ids)
    (hother : other ∈ t.root.ids) (heq : t.absolutePath? other = t.absolutePath? id) :
    other = id := by
  have hposition : ∀ i ∈ t.root.ids, ∃ (m : Node) (keys : List Key), m.id = i ∧
      t.root.at? keys = some m := by
    intro i hi
    obtain ⟨m, hm⟩ := Node.exists_find? hi
    obtain ⟨keys, hkeys⟩ := Node.exists_at? h.distinct_root (Node.mem_of_find? hm)
    exact ⟨m, keys, Node.id_of_find? hm, hkeys⟩
  obtain ⟨m, keys, rfl, hm⟩ := hposition id hid
  obtain ⟨m', keys', rfl, hm'⟩ := hposition other hother
  rw [h.absolutePath?_of_at? hm, h.absolutePath?_of_at? hm', Option.some.injEq] at heq
  -- the same keys lead to the same node
  rw [Path.pathOf_inj heq, hm, Option.some.injEq] at hm'
  rw [hm']

end Sound

/-- The absolute path of a node of the document is read back as one segment for each step down to
the node: it selects exactly the key of the step, filters nothing and reaches no deeper. No other
node of the document has the same absolute path. -/
theorem parse_absolutePath (ht : t.Reachable) (hn : t.root.find? id = some n) :
    ∃ raw, t.absolutePath? id = some raw ∧
      t.root.at? ((t.trail id).map Step.key) = some n ∧
      ((∀ step ∈ t.trail id, step.key.InRange) → ∃ p, Path.parse raw = .ok p ∧
        p.segments.map (fun s ↦ (s.selector, s.formula, s.recursive)) =
          (t.trail id).map fun step ↦ (Path.selectorOf step.key, none, false)) ∧
      ∀ other ∈ t.root.ids, t.absolutePath? other = some raw → other = id := by
  have h := ht.sound
  obtain rfl := Node.id_of_find? hn
  obtain ⟨keys, hat⟩ := Node.exists_at? h.distinct_root (Node.mem_of_find? hn)
  have htrail := h.trail_of_at? hat
  have hpath := h.absolutePath?_of_at? hat
  refine ⟨Flat.pathOf keys, hpath, htrail ▸ hat, fun hrange ↦ ?_, fun other hother heq ↦ ?_⟩
  · have hkeys : ∀ key ∈ keys, key.InRange := by
      rw [← htrail]
      exact List.forall_mem_map.2 hrange
    refine ⟨_, Path.parse_pathOf hkeys, ?_⟩
    rw [← htrail, List.map_map, List.map_map]
    rfl
  · exact h.eq_of_absolutePath? (Node.mem_ids_of_at? hat) hother (heq.trans hpath.symm)

/-- An empty name, a position and a name full of characters with a meaning. -/
theorem parse_absolutePath_awkward :
    ∃ raw p, (ofJson .builtin (.object [("", .array [.null, .object [("a.[0]/*", .null)]])])
        ).absolutePath? ⟨4, 0⟩ = some raw ∧ Path.parse raw = .ok p ∧
      p.segments.map (fun s ↦ (s.selector, s.formula, s.recursive)) =
        [(.key "", none, false), (.index 1, none, false), (.key "a.[0]/*", none, false)] := by
  have hreachable : (ofJson .builtin (.object [("", .array [.null,
      .object [("a.[0]/*", .null)]])])).Reachable := .ofJson _ (by simp)
  have hfind : (ofJson .builtin (.object [("", .array [.null,
      .object [("a.[0]/*", .null)]])])).root.find? ⟨4, 0⟩ = some (.scalar ⟨4, 0⟩ .null) := rfl
  obtain ⟨raw, hraw, -, hparse, -⟩ := parse_absolutePath hreachable hfind
  obtain ⟨p, hp, hsegments⟩ := hparse (by
    show ∀ step ∈ [_, _, _], _
    simp [Key.InRange])
  exact ⟨raw, p, hraw, hp, hsegments⟩

end DocPath.Tree

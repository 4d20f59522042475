import DocPath.Proofs.Tree.Document
import DocPath.Proofs.Tree.Write

/-!
# Reading back what a bridge wrote

A bridge along a plain path takes segments in ways that a search does not: it counts positions from
the end of an array, and reads names as positions at a root that is an array. When the segments are
exchanged for what they were taken for, the path is `settled`, and a search by it finds what the
bridge wrote (`bridge_readBack`). A bridge that wrote nothing has left the document as it was,
unless it is stranded.
-/

namespace DocPath

namespace Path

variable {s : Segment} {segments : List Segment} {key : Key} {keys : List Key} {r : Registry}
  {m n : Node} {ns : List Node}

/-- A segment that finds a key matches the child under it. -/
theorem Segment.Finds.mem_hits (h : s.Finds key) (hm : n.childAt? key = some m) :
    m ∈ s.hits r n := by
  rw [hits_of_plain h.plain]
  refine List.mem_map.2 ⟨(key, m), List.mem_filter.2 ⟨?_, h.takes _⟩, rfl⟩
  exact Node.mem_children_of_childAt? hm

/-! ### Segments that find keys -/

theorem wellFormed_of_finds (h : List.Forall₂ Segment.Finds segments keys) :
    ∀ s ∈ segments, s.selector.WellFormed := by
  induction h with
  | nil =>
    intro s hs
    cases hs
  | cons hfirst _ ih => exact List.forall_mem_cons.2 ⟨hfirst.wellFormed, ih⟩

/-- Segments that find some keys lead to the node at the end of the keys. -/
theorem mem_hitsAlong_of_at? (h : List.Forall₂ Segment.Finds segments keys)
    (hm : n.at? keys = some m) (hn : n ∈ ns) : m ∈ hitsAlong r ns segments := by
  induction h generalizing n ns with
  | nil => exact Option.some.inj hm ▸ hn
  | cons hfirst _ ih =>
    rw [Node.at?_cons, Option.bind_eq_some_iff] at hm
    obtain ⟨d, hd, hm⟩ := hm
    exact ih hm (List.mem_flatMap.2 ⟨n, hn, hfirst.mem_hits hd⟩)

end Path

namespace Tree

variable {t : Tree} {p : Path} {keys : List Key} {v : Json}

/-- A value at the end of some keys is found along segments that find the keys. -/
theorem Sound.exists_mem_findPath (h : t.Sound)
    (hfinds : List.Forall₂ Path.Segment.Finds p.segments keys) (hv : t.document.at? keys = some v) :
    ∃ id ∈ (t.findPath p).1, t.value id = v := by
  rw [document, ← Node.toJson_at?, Option.map_eq_some_iff] at hv
  obtain ⟨m, hm, rfl⟩ := hv
  have hmem : m ∈ t.attached (t.findPath p).1 := by
    rw [h.attached_findPath (Path.wellFormed_of_finds hfinds)]
    exact Path.mem_hitsAlong_of_at? hfinds hm (List.mem_singleton_self _)
  obtain ⟨hid, hfind⟩ := mem_attached.1 hmem
  exact ⟨m.id, hid, value_of_node? (node?_of_find?_root hfind)⟩

/-- Bridging a value along a plain path succeeds. Unless the bridge is stranded, it has written the
value at the keys of its course, or has left the document as it is where there is no course. What it
has written is found by the path as it was taken: a position that was counted from the end is
counted from the front, and a name that was read as a position at a root that is an array is written
as one. A path that counts nothing from the end, at a root that is no array, is taken as it is and
always written. -/
theorem bridge_readBack (ht : t.Reachable) {raw : String} (hp : Path.parse raw = .ok p)
    (hplain : ∀ s ∈ p.segments, s.Plain) (hv : v.Distinct)
    (hstranded : ¬ p.Stranded t.document) :
    ∃ t', t.bridge [(raw, v)] = (.ok (), t') ∧
      ((∃ keys, p.course? t.document = some keys ∧
          t'.document = Json.writeIn v keys t.document ∧
          ∃ id ∈ (t'.findPath (p.settled t.document)).1, t'.value id = v) ∨
        p.course? t.document = none ∧ t'.document = t.document) ∧
      ((∀ s ∈ p.segments, ¬ s.Backwards) → t.document.kind ≠ .sequence →
        p.settled t.document = p ∧
          ∃ found, t'.find raw = .ok found ∧ ∃ id ∈ found.1, t'.value id = v) := by
  have hwf := Path.wellFormed_of_parse hp
  have hbridge := bridge_singleton (t := t) hp v
  have hsound : (t.bridgePath p v).Sound := by
    have hentries : DistinctValues [(raw, v)] := List.forall_mem_singleton.2 hv
    have hreachable := ht.bridge hentries
    rw [hbridge] at hreachable
    exact hreachable.sound
  have hroot := t.root_bridgePath p v
  have hwritten : ∀ keys, p.course? t.document = some keys →
      (t.bridgePath p v).document = Json.writeIn v keys t.document ∧
        ∃ id ∈ ((t.bridgePath p v).findPath (p.settled t.document)).1,
          (t.bridgePath p v).value id = v := by
    intro keys hcourse
    have hdocument : (t.bridgePath p v).document = Json.writeIn v keys t.document := by
      rw [document, hroot]
      exact (written_of_course hplain hwf hv ht.sound hcourse).toJson
    refine ⟨hdocument, ?_⟩
    rw [Path.settled_of_course? hcourse]
    refine hsound.exists_mem_findPath (Path.finds_settle_course hplain hwf hcourse) ?_
    rw [hdocument, Json.at?_writeIn]
  refine ⟨t.bridgePath p v, hbridge, ?_, fun hforward hkind ↦ ?_⟩
  · cases hcourse : p.course? t.document with
    | some keys => exact .inl ⟨keys, rfl, hwritten keys hcourse⟩
    | none =>
      refine .inr ⟨rfl, ?_⟩
      rw [document, hroot, root_writeThrough_of_not_stranded hplain hwf ht.sound hcourse hstranded]
      rfl
  · have hsettled := Path.settled_eq_self hplain hwf hforward hkind
    obtain ⟨keys, hcourse⟩ := Path.exists_course? hplain hwf hforward hkind
    obtain ⟨-, hfound⟩ := hwritten keys hcourse
    rw [hsettled] at hfound
    exact ⟨hsettled, _, by rw [find_eq, hp]; rfl, hfound⟩

/-- A name, and a position counted from the end. -/
theorem parse_last :
    Path.parse "x.[-1]" = .ok ⟨"x.[-1]", [⟨"x", .key "x", none, false⟩,
      ⟨"[-1]", .index (-1), none, false⟩]⟩ :=
  rfl

/-- The last item of an array is found by its position from the front. -/
theorem bridge_readBack_last :
    ∃ t', (ofJson .builtin (.object [("x", .array [.null, .null])])).bridge
        [("x.[-1]", .bool true)] = (.ok (), t') ∧
      t'.document = .object [("x", .array [.null, .bool true])] ∧
      ∃ id ∈ (t'.findPath ⟨"x.[-1]", [⟨"x", .key "x", none, false⟩,
        ⟨"[-1]", .index 1, none, false⟩]⟩).1, t'.value id = .bool true := by
  have hreachable : (ofJson .builtin (.object [("x", .array [.null, .null])])).Reachable :=
    .ofJson _ (by simp)
  obtain ⟨t', hbridge, hread, -⟩ := bridge_readBack (v := .bool true) hreachable parse_last
    (List.forall_mem_cons.2 ⟨.key _ _, List.forall_mem_singleton.2 (.index _ _)⟩) trivial <| by
      rintro (⟨hscalar, -⟩ | hstranded)
      · cases hscalar
      · cases hstranded with
        | made hkey hmade =>
          cases hkey
          exact hmade _ rfl rfl
        | kept _ _ _ h => cases h
  refine ⟨t', hbridge, ?_⟩
  obtain ⟨keys, hcourse, hdocument, hfound⟩ | ⟨hnone, -⟩ := hread
  · obtain rfl : [.name "x", .index 1] = keys := Option.some.inj hcourse
    exact ⟨hdocument, hfound⟩
  · cases hnone

/-- The path itself does not find what was written at a position counted from the end. -/
theorem bridge_from_end :
    (∃ p, Path.parse "x.[-1]" = .ok p ∧ p.segments ≠ [] ∧ ∀ s ∈ p.segments, s.Plain) ∧
      ∃ t', (ofJson .builtin (.object [("x", .array [.ofNat 1, .ofNat 2, .ofNat 3])])).bridge
          [("x.[-1]", .ofNat 9)] = (.ok (), t') ∧
        t'.document = .object [("x", .array [.ofNat 1, .ofNat 2, .ofNat 9])] ∧
        t'.document ≠ .object [("x", .array [.ofNat 1, .ofNat 2, .ofNat 3])] ∧
        (t'.find "x.[-1]").map Prod.fst = .ok [] := by
  refine ⟨⟨_, parse_last, List.cons_ne_nil _ _, List.forall_mem_cons.2
    ⟨.key _ _, List.forall_mem_singleton.2 (.index _ _)⟩⟩, _, bridge_singleton parse_last _, ?_⟩
  refine ⟨rfl, fun hsame ↦ ?_, ?_⟩
  · have hvalues : Json.object [("x", .array [.ofNat 1, .ofNat 2, .ofNat 9])] =
        .object [("x", .array [.ofNat 1, .ofNat 2, .ofNat 3])] := hsame
    have hnumbers : Number.ofNat 9 = Number.ofNat 3 := by simpa using hvalues
    exact absurd hnumbers (by decide)
  · rw [find_eq, parse_last]
    rfl

end Tree

end DocPath

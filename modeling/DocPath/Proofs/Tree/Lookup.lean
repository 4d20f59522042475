import DocPath.Proofs.Tree.AbsolutePath
import DocPath.Proofs.Tree.Document

/-!
# Finding a node by its absolute path

An absolute path spells keys exactly, while a search takes keys up to equivalence: a position or a
name matches all keys with the same normal form (`matchesKey_readBack`). So a search by the absolute
path of a node finds the node, and it finds others too only if on the way there is a child of a map
with an equivalent name next to it (`find_absolutePath`).
-/

namespace DocPath

namespace Key

/-- Positions with one normal form are the same. -/
theorem eq_of_normal_eq {i j : Nat} (h : (index i).normal = (index j).normal) : i = j :=
  indexText_injective h

end Key

namespace Path

/-- Among keys of the kind of its own, a key as it is read back takes those with its normal form. -/
theorem matchesKey_readBack {key other : Key} (h : other.container = key.container) (size : Nat) :
    (readBack key).matchesKey size other = true ↔ other.normal = key.normal := by
  cases key with
  | name k =>
    cases other with
    | index j => cases h
    | name k' =>
      simp only [readBack, Selector.matchesKey, Key.text, Key.normal, Bool.or_eq_true, beq_iff_eq]
      exact or_iff_right_of_imp fun heq ↦ heq ▸ rfl
  | index i =>
    cases other with
    | name k => cases h
    | index j =>
      have hself : Key.indexText j = Key.indexText i ↔ j = i :=
        ⟨fun heq ↦ Key.indexText_injective heq, fun heq ↦ heq ▸ rfl⟩
      by_cases hi : i < 0x8000000000000000
      · simp only [readBack, if_pos hi, Selector.matchesKey, Key.int?, Key.normal, hself,
          beq_iff_eq]
        split
        · rw [Option.some.injEq, Int.natCast_inj]
        · simp only [reduceCtorEq, false_iff]
          omega
      · simp only [readBack, if_neg hi, Selector.matchesKey, Key.text, Key.normal,
          Key.normalName_indexText, Bool.or_self, beq_iff_eq]

theorem plain_readSegment (key : Key) : (readSegment key).Plain := by
  unfold readSegment readBack
  split
  · exact .key _ _
  · split
    · exact .index _ _
    · exact .key _ _

end Path

/-- No other child of the parent has an equivalent key. -/
def Step.Lone (step : Step) : Prop :=
  ∀ child ∈ step.parent.children, child.1.normal = step.key.normal → child.1 = step.key

instance : DecidablePred Step.Lone := fun step ↦
  inferInstanceAs (Decidable (∀ child ∈ step.parent.children, _ → _))

namespace Path

open Node (Context Frame)

variable {r : Registry} {f : Frame} {c : Context} {n d : Node} {ns : List Node}

/-! ### One step -/

/-- A segment read back from a key matches the children with its normal form. -/
theorem hits_readSegment (key : Key) (r : Registry) (n : Node) (h : key.container = n.kind) :
    (readSegment key).hits r n =
      (n.children.filter fun child ↦ child.1.normal = key.normal).map Prod.snd := by
  rw [Segment.hits_of_plain (plain_readSegment key)]
  refine congrArg (List.map Prod.snd) (List.filter_congr fun child hchild ↦ ?_)
  have hkind := (Node.container_of_mem_children hchild).trans h.symm
  exact Bool.eq_iff_iff.2 ((matchesKey_readBack hkind _).trans decide_eq_true_iff.symm)

theorem mem_hits_readSegment (f : Frame) (r : Registry) (d : Node) :
    d ∈ (readSegment f.key).hits r (f.fill d) := by
  have hd := f.key_mem_children_fill d
  rw [hits_readSegment _ _ _ (Node.container_of_mem_children hd)]
  exact List.mem_map.2 ⟨_, List.mem_filter.2 ⟨hd, decide_eq_true rfl⟩, rfl⟩

/-- A child with an equivalent key is a child of a map, and another one unless there are none with
equivalent names. -/
theorem hits_readSegment_eq (hn : (f.fill d).ids.Nodup) (hd : (f.fill d).toJson.Distinct)
    (hlone : (f.fill d).kind = .map → Step.Lone ⟨f.fill d, f.key⟩) :
    (readSegment f.key).hits r (f.fill d) = [d] := by
  have hchild := f.key_mem_children_fill d
  have hkind := Node.container_of_mem_children hchild
  have hnodup : (f.fill d).children.Nodup :=
    .of_map _ (.of_map _ (Node.nodup_map_id_childNodes hn))
  have hone : ((f.fill d).children.filter fun child ↦ child.1.normal = f.key.normal) =
      [(f.key, d)] := by
    refine filter_eq_singleton hnodup hchild fun child hmem ↦ ?_
    rw [decide_eq_true_iff]
    refine ⟨fun hnormal ↦ ?_, fun heq ↦ heq ▸ rfl⟩
    -- a child with an equivalent key has the same key, and is the same child
    have hkey : child.1 = f.key := by
      have hcontainer := (Node.container_of_mem_children hmem).trans hkind.symm
      cases hf : f.key with
      | name k => exact hf ▸ hlone (by rw [← hkind, hf]; rfl) child hmem hnormal
      | index i =>
        rw [hf] at hcontainer hnormal
        cases hc : child.1 with
        | name k => rw [hc] at hcontainer; cases hcontainer
        | index j =>
          rw [hc] at hnormal
          rw [Key.eq_of_normal_eq hnormal]
    have hat := (Node.childAt?_eq_some_iff hd).2 hmem
    rw [hkey, (Node.childAt?_eq_some_iff hd).2 hchild] at hat
    exact Prod.ext hkey (Option.some.inj hat).symm
  rw [hits_readSegment _ _ _ hkind, hone]
  rfl

/-! ### All steps -/

/-- The segments read back from the keys of a context lead to its filling. -/
theorem mem_hitsAlong_keys (h : Context.fill c n ∈ ns) :
    n ∈ hitsAlong r ns ((Context.keys c).map readSegment) := by
  induction c generalizing ns with
  | nil => exact h
  | cons f c ih =>
    rw [Context.keys_cons, List.map_cons, hitsAlong]
    exact ih (List.mem_flatMap.2 ⟨_, h, mem_hits_readSegment f r (Context.fill c n)⟩)

theorem hitsAlong_keys_eq (hn : (Context.fill c n).ids.Nodup)
    (hd : (Context.fill c n).toJson.Distinct)
    (hlone : ∀ step ∈ Context.steps c n, step.parent.kind = .map → step.Lone) :
    hitsAlong r [Context.fill c n] ((Context.keys c).map readSegment) = [n] := by
  induction c with
  | nil => rfl
  | cons f c ih =>
    obtain ⟨hfirst, hrest⟩ := List.forall_mem_cons.1 hlone
    rw [Context.fill_cons] at hn hd ⊢
    rw [Context.keys_cons, List.map_cons, hitsAlong, List.flatMap_singleton,
      hits_readSegment_eq hn hd hfirst]
    exact ih (Context.nodup_of_nodup_fill (c := [f]) hn) (Frame.distinct_of_fill hd) hrest

end Path

namespace Tree

open DocPath.Path (Segment)
open Node (Context)

variable {t : Tree} {s : Segment} {id : NodeId} {n : Node} {ids : List NodeId}

/-! ### Searches without operations -/

/-- A segment that invokes no operation finds nodes of the document from nodes of the document. -/
theorem Sound.mem_root_of_mem_segmentMatchesAll (h : t.Sound) (hs : s.selector.WellFormed)
    (hplain : ∀ operation args, s.selector ≠ .special operation args)
    (hids : ∀ i ∈ ids, i ∈ t.root.ids) :
    ∀ i ∈ (t.segmentMatchesAll s ids).1, i ∈ t.root.ids := by
  induction ids generalizing t with
  | nil =>
    intro i hi
    cases hi
  | cons start rest ih =>
    obtain ⟨hstart, hrest⟩ := List.forall_mem_cons.1 hids
    have hroot := t.root_segmentMatches s start
    intro i hi
    rw [segmentMatchesAll_cons] at hi
    rcases List.mem_append.1 hi with hi | hi
    · unfold segmentMatches at hi
      split at hi
      · rename_i operation args hselector
        exact absurd hselector (hplain operation args)
      · obtain ⟨c, hc, rfl⟩ := List.mem_map.1 hi
        obtain ⟨m, hm, hmid⟩ := mem_descendants_of_mem_candidates (List.mem_of_mem_filter hc)
        obtain ⟨top, hfind⟩ := Node.exists_find? hstart
        rw [view_of_node? (node?_of_find?_root hfind)] at hm
        rw [← hmid]
        exact Node.id_mem_ids_of_mem (List.mem_cons_of_mem _
          (Node.descendants_subset_of_mem (Node.mem_of_find? hfind) hm))
    · rw [← hroot]
      exact ih ((leads_segmentMatches hs h start).sound h) (hroot ▸ hrest) i hi

theorem Sound.mem_root_of_mem_walk (h : t.Sound) {segments : List Segment}
    (hs : ∀ s ∈ segments, s.selector.WellFormed)
    (hplain : ∀ s ∈ segments, ∀ operation args, s.selector ≠ .special operation args)
    (hids : ∀ i ∈ ids, i ∈ t.root.ids) : ∀ i ∈ (t.walk ids segments).1, i ∈ t.root.ids := by
  induction segments generalizing t ids with
  | nil => exact hids
  | cons s rest ih =>
    obtain ⟨hfirst, hrest⟩ := List.forall_mem_cons.1 hs
    obtain ⟨hplain, hplain'⟩ := List.forall_mem_cons.1 hplain
    have hroot := t.root_segmentMatchesAll s ids
    intro i hi
    rw [walk_cons] at hi
    split at hi
    · cases hi
    · rw [← hroot]
      refine ih (((leads_segmentMatchesAll hfirst h ids).sound h).releaseScratch _) hrest hplain' ?_
        i hi
      rw [root_releaseScratch, hroot]
      exact h.mem_root_of_mem_segmentMatchesAll hfirst hplain hids

/-- Where no operation is invoked, all that is found is in the document. -/
theorem Sound.map_id_attached_findPath (h : t.Sound) {p : Path}
    (hp : ∀ s ∈ p.segments, s.selector.WellFormed)
    (hplain : ∀ s ∈ p.segments, ∀ operation args, s.selector ≠ .special operation args) :
    (t.attached (t.findPath p).1).map Node.id = (t.findPath p).1 := by
  have hroot : ∀ i ∈ (t.findPath p).1, i ∈ t.root.ids := by
    rw [findPath_eq_walk]
    refine (h.releaseScratch _).mem_root_of_mem_walk hp hplain fun i hi ↦ ?_
    rw [List.mem_singleton.1 hi]
    exact t.root.id_mem_ids
  generalize (t.findPath p).1 = found at hroot
  induction found with
  | nil => rfl
  | cons i rest ih =>
    obtain ⟨hi, hrest⟩ := List.forall_mem_cons.1 hroot
    obtain ⟨m, hfind⟩ := Node.exists_find? hi
    rw [attached_cons, hfind, List.map_append, ih hrest]
    exact congrArg (· :: rest) (Node.id_of_find? hfind)

/-! ### The absolute path -/

/-- A search by the absolute path of a node of the document finds the node. It finds nothing else
unless, on the way down to the node, a child of a map has another one with an equivalent name next
to it. -/
theorem find_absolutePath (ht : t.Reachable) (hn : t.root.find? id = some n) :
    ∃ raw found, t.absolutePath? id = some raw ∧ t.find raw = .ok found ∧ id ∈ found.1 ∧
      ((∀ step ∈ t.trail id, step.parent.kind = .map → step.Lone) → found.1 = [id]) := by
  have h := ht.sound
  obtain rfl := Node.id_of_find? hn
  obtain ⟨c, hroot⟩ := Node.exists_fill_of_mem (Node.mem_of_find? hn)
  have hat : t.root.at? (Context.keys c) = some n := by
    have hd := h.distinct_root
    rw [hroot] at hd ⊢
    exact Context.at?_fill hd
  have hparse := Path.parse_pathOf_eq (Context.keys c)
  have hwf := Path.wellFormed_of_parse hparse
  have hfound := h.map_id_attached_findPath hwf fun s hs ↦ by
    obtain ⟨key, -, rfl⟩ := List.mem_map.1 hs
    exact (Path.plain_readSegment key).ne_special
  rw [h.attached_findPath hwf, hroot] at hfound
  refine ⟨_, _, h.absolutePath?_of_at? hat, by rw [find_eq, hparse]; rfl, ?_, fun hlone ↦ ?_⟩
  · rw [← hfound]
    exact List.mem_map_of_mem (Path.mem_hitsAlong_keys (List.mem_singleton_self _))
  · have hnodup := h.nodup_ids_root
    have hd := h.distinct_root
    rw [hroot] at hnodup hd
    rw [h.trail_root hroot] at hlone
    rw [← hfound, Path.hitsAlong_keys_eq hnodup hd hlone]
    rfl

/-- Below a name with a colon that has no equivalent one next to it. -/
theorem find_absolutePath_colon :
    ∃ raw found, (ofJson .builtin (.object [(":a", .array [.null, .null])])).absolutePath? ⟨3, 0⟩ =
        some raw ∧
      (ofJson .builtin (.object [(":a", .array [.null, .null])])).find raw = .ok found ∧
      found.1 = [⟨3, 0⟩] := by
  have hreachable : (ofJson .builtin (.object [(":a", .array [.null, .null])])).Reachable :=
    .ofJson _ (by simp)
  have hfind : (ofJson .builtin (.object [(":a", .array [.null, .null])])).root.find? ⟨3, 0⟩ =
      some (.scalar ⟨3, 0⟩ .null) := rfl
  obtain ⟨raw, found, hraw, hfound, -, hlone⟩ := find_absolutePath hreachable hfind
  exact ⟨raw, found, hraw, hfound, hlone (by decide)⟩

end Tree

end DocPath

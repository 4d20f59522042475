import DocPath.Proofs.Path.Course
import DocPath.Proofs.Tree.Bridge

/-!
# Bridging along plain segments

At a container of the document one plain segment either lands at a key, and then takes the bridge
down to it (`advances_of_land?`), or it finds and makes nothing (`reachOrCreate_of_land?`). So a
bridge along plain segments writes at the keys of its course (`bridgeFrom_course`), and if there is
no course it leaves the document as it is, unless it is stranded (`root_bridgeFrom_of_not_stranded`).
-/

namespace DocPath

namespace Tree

open DocPath.Path (Segment courseFrom? courseFrom?_cons_eq_some StrandedFrom)
open Node (Context Frame Written)
open Json (writeIn)

variable {t t' : Tree} {c : Context} {n : Node} {key : Key} {s : Segment} {v : Json}

/-! ### Matches of a plain segment -/

/-- Verdicts that are no failures are not logged. -/
theorem reportAll_of_forall_ok {segment : String}
    {verdicts : List (NodeId × Except FormulaError Bool)}
    (h : ∀ entry ∈ verdicts, ∃ b, entry.2 = .ok b) : t.reportAll segment verdicts = t := by
  induction verdicts with
  | nil => rfl
  | cons entry rest ih =>
    obtain ⟨id, verdict⟩ := entry
    obtain ⟨b, rfl⟩ := h _ (List.mem_cons_self ..)
    exact ih fun e he ↦ h e (List.mem_cons_of_mem _ he)

/-- A plain segment matches the children whose keys its selector takes, and logs nothing. -/
theorem segmentMatches_of_plain (hs : s.Plain) (id : NodeId) :
    t.segmentMatches s id =
      (((t.children id).filter fun child ↦
          s.selector.matchesKey (t.children id).length child.1).map fun child ↦ child.2.id, t) := by
  have hverdict : ∀ v, s.verdict v = .ok true := fun v ↦ by rw [Segment.verdict, hs.formula_eq]
  have hcandidates : s.candidates (t.view id) =
      ((t.children id).filter fun child ↦
        s.selector.matchesKey (t.children id).length child.1).map fun child ↦
          (child.2.id, .ok true) := by
    simp [Segment.candidates, Segment.reach, hs.recursive_eq, hverdict, Node.childEdges, children,
      List.filter_map, Function.comp_def]
  have hmatches : t.segmentMatches s id =
      (((s.candidates (t.view id)).filter fun c ↦ accepts c.2).map Prod.fst,
        t.reportAll s.raw (s.candidates (t.view id))) := by
    unfold segmentMatches
    split
    · exact absurd ‹_› (hs.ne_special _ _)
    · rfl
  rw [hmatches, hcandidates, reportAll_of_forall_ok]
  · simp [List.filter_map, Function.comp_def, accepts]
  · intro entry hentry
    obtain ⟨child, -, rfl⟩ := List.mem_map.1 hentry
    exact ⟨true, rfl⟩

/-- A property of exactly one position filters the item at that position. -/
theorem filter_zipIdx {α : Type} {items : List α} {j : Nat} {p : Nat → Bool}
    (hlt : j < items.length) (hp : ∀ i, p i ↔ i = j) :
    (items.zipIdx.filter fun item ↦ p item.2) = [(items[j], j)] := by
  refine filter_eq_singleton (.of_map Prod.snd (by simp [List.nodup_range']))
    (List.mem_zipIdx_iff_getElem?.2 (List.getElem?_eq_getElem hlt)) ?_
  rintro ⟨d, i⟩ hmem
  rw [hp]
  constructor
  · rintro rfl
    obtain ⟨-, hd⟩ := List.mem_zipIdx' hmem
    rw [hd]
  · rintro ⟨⟩
    rfl

/-- The items whose position a name is equivalent to: one or none. -/
theorem filter_equivalent (items : List Node) (k : String) :
    (items.zipIdx.filter fun item ↦ normalName k = Key.indexText item.2).map Prod.fst =
      (((Json.array (items.map Node.toJson)).equivalent? (.name k)).bind fun j ↦
        items[j]?).toList := by
  cases hequiv : (Json.array (items.map Node.toJson)).equivalent? (.name k) with
  | none =>
    rw [List.filter_eq_nil_iff.2]
    · rfl
    · rintro ⟨d, j⟩ hmem
      obtain ⟨hlt, -⟩ := List.mem_zipIdx' hmem
      have hne := List.find?_eq_none.1 hequiv j (by simpa using hlt)
      simpa using hne
  | some j =>
    obtain ⟨hlt, hj⟩ := Json.equivalent?_eq_some.1 hequiv
    rw [List.length_map] at hlt
    -- positions with the same text are the same, so there is one match
    have hunique : ∀ j', decide (normalName k = Key.indexText j') ↔ j' = j := fun j' ↦ by
      rw [decide_eq_true_eq, hj]
      exact ⟨fun heq ↦ (Key.indexText_injective heq).symm, fun heq ↦ heq ▸ rfl⟩
    rw [filter_zipIdx hlt hunique, Option.bind_some, List.getElem?_eq_getElem hlt]
    rfl

/-- A name matches in a sequence the child whose position it is equivalent to. -/
theorem segmentMatches_sequence {k : String} {i : NodeId} {items : List Node}
    (hs : s.Plain) (hselector : s.selector = .key k) {id : NodeId}
    (hview : t.view id = .sequence i items) :
    t.segmentMatches s id =
      (((((Node.sequence i items).toJson.equivalent? (.name k)).bind fun j ↦
        items[j]?).map Node.id).toList, t) := by
  have htakes : ∀ j size, s.selector.matchesKey size (.index j) =
      decide (normalName k = Key.indexText j) := by
    intro j size
    rw [hselector, Path.Selector.matchesKey, Key.text, Key.normal, Bool.eq_iff_iff]
    simp only [Bool.or_eq_true, beq_iff_eq, decide_eq_true_eq]
    constructor
    · rintro (rfl | heq)
      · exact Key.normalName_indexText j
      · exact heq.symm
    · exact fun heq ↦ .inr heq.symm
  have hfilter : (((Node.sequence i items).children.filter fun child ↦
      s.selector.matchesKey (Node.sequence i items).children.length child.1).map fun child ↦
        child.2.id) =
      ((items.zipIdx.filter fun item ↦ normalName k = Key.indexText item.2).map Prod.fst).map
        Node.id := by
    simp [Node.children, List.filter_map, Function.comp_def, htakes]
  rw [segmentMatches_of_plain hs, children, hview, hfilter, filter_equivalent, Node.toJson_sequence,
    Option.toList_map]

/-- A position that counts from the end matches nothing in a sequence. -/
theorem segmentMatches_of_backwards (hs : s.Plain) (hback : s.Backwards) {i : NodeId}
    {items : List Node} {id : NodeId} (hview : t.view id = .sequence i items) :
    t.segmentMatches s id = ([], t) := by
  obtain ⟨j, hj, hselector⟩ := hback
  rw [segmentMatches_of_plain hs, children, hview, List.filter_eq_nil_iff.2]
  · rfl
  · intro child hchild hmatch
    obtain ⟨item, -, rfl⟩ := List.mem_map.1 hchild
    rw [hselector, Path.Selector.matchesKey, Key.int?, beq_iff_eq] at hmatch
    split at hmatch
    · have heq : (item.2 : Int) = j := Option.some.inj hmatch
      omega
    · cases hmatch

/-! ### One segment -/

/-- The key that a plain segment names under a node is the one that its key aims at. -/
theorem literalKey?_eq_aim? (hs : s.Plain) (n : Node) :
    literalKey? s n = (s.key? n.toJson).bind n.toJson.aim? := by
  cases hs with
  | key raw name => cases n <;> rfl
  | index raw i =>
    by_cases hi : 0 ≤ i
    · have hkey : ∀ d, Segment.key? ⟨raw, .index i, none, false⟩ d = some (.index i.toNat) := fun d ↦
        if_pos hi
      have hpos : ¬ i < 0 := Int.not_lt.2 hi
      rw [hkey, Option.bind_some]
      cases n with
      | scalar id v => rfl
      | sequence id items => simp [literalKey?, Node.toJson, Json.aim?, hpos]
      | map id entries =>
        have htext : String.ofList (Number.intText i) = Key.indexText i.toNat := by
          rw [← intText_ofNat, Int.toNat_of_nonneg hi]
        simp [literalKey?, Node.toJson, Json.aim?, Key.text, htext]
    · have hneg : i < 0 := Int.not_le.1 hi
      cases n with
      | scalar id v => simp [literalKey?, Node.toJson, Segment.key?, hi]
      | map id entries => simp [literalKey?, Node.toJson, Segment.key?, hi, Json.aim?, Key.text]
      | sequence id items =>
        rw [Node.toJson_sequence]
        simp only [literalKey?, Segment.key?, if_neg hi, if_pos hneg, List.length_map]
        by_cases hend : 0 ≤ (items.length : Int) + i
        · rw [if_pos hend, if_neg (Int.not_lt.2 hend)]
          rfl
        · rw [if_neg hend, if_pos (Int.not_le.1 hend)]
          rfl

/-- A segment that finds and makes nothing ends the bridge. -/
theorem bridgeFrom_of_nothing {id : NodeId} {segments : List Segment}
    (h : t.reachOrCreate s (segments.head?.map containerFor) v id = ([], t)) :
    t.bridgeFrom v [id] (s :: segments) = t := by
  rw [bridgeFrom_cons, bridgeSegment_singleton, h]
  simp [prepare]

/-- A place that no array can have is neither found nor made. -/
theorem reachOrCreate_of_not_inRange {required : Option Kind} {id : NodeId}
    (hn : t.node? id = some n) (hkey : literalKey? s n = some key) (hrange : ¬ key.InRange)
    (hkind : n.kind = key.container) : t.reachOrCreate s required v id = ([], t) := by
  cases key with
  | name k => exact absurd trivial hrange
  | index k =>
    cases n with
    | scalar i value => cases hkind
    | map i entries => cases hkind
    | sequence i items =>
      have hint : (Key.index k).int? = none := if_neg hrange
      have hliteral : (t.node? id).bind (literalKey? s) = some (.index k) := by
        rw [hn, Option.bind_some, hkey]
      have hchild : t.child? id (.index k) true = none := by
        rw [child?_of_node? hn, Node.child?_sequence, hint]
        rfl
      have hinsert : ∀ w, t.insertChild id (.index k) w = (none, t) := fun w ↦ by
        rw [insertChild, hchild, hn]
        simp only [hint]
      rw [reachOrCreate_of_some hliteral, hchild]
      cases required <;> simp [hinsert]

/-- A segment that stands for no key finds nothing and makes nothing: it counts from the end of a
sequence with too few items. -/
theorem reachOrCreate_of_key? {required : Option Kind} {id : NodeId} (hs : s.Plain)
    (hn : t.node? id = some n) (hkind : n.kind ≠ .scalar) (h : s.key? n.toJson = none) :
    t.reachOrCreate s required v id = ([], t) := by
  have hliteral := literalKey?_eq_aim? hs n
  rw [h, Option.bind_none] at hliteral
  obtain ⟨hback, hmap⟩ := Segment.backwards_of_key? hs h
  rw [reachOrCreate_of_none (by rw [hn, Option.bind_some, hliteral])]
  cases n with
  | scalar i w => exact absurd rfl hkind
  | map i entries => rw [Node.toJson_map] at hmap; exact absurd rfl hmap
  | sequence i items => exact segmentMatches_of_backwards hs hback (view_of_node? hn)

/-- A segment whose key aims at nothing finds at most a child that the key is equivalent to: it is a
name at a sequence. -/
theorem reachOrCreate_of_aim? {required : Option Kind} {id : NodeId} (hs : s.Plain)
    (hn : t.node? id = some n) (hkind : n.kind ≠ .scalar) (hkey : s.key? n.toJson = some key)
    (haim : n.toJson.aim? key = none) :
    t.reachOrCreate s required v id =
      (((n.toJson.equivalent? key).bind fun j ↦ n.childAt? (.index j)).map Node.id |>.toList, t) := by
  have hliteral := literalKey?_eq_aim? hs n
  rw [hkey, Option.bind_some, haim] at hliteral
  rw [reachOrCreate_of_none (by rw [hn, Option.bind_some, hliteral])]
  cases n with
  | scalar i w => exact absurd rfl hkind
  | map i entries => rw [Node.toJson_map] at haim; cases haim
  | sequence i items =>
    cases key with
    | index k => rw [Node.toJson_sequence] at haim; cases haim
    | name k =>
      have hselector := Segment.selector_of_key?_name hs hkey (by rw [Node.kind_toJson]; rfl)
      exact segmentMatches_sequence hs hselector (view_of_node? hn)

/-- A plain segment that lands nowhere finds nothing and makes nothing. -/
theorem reachOrCreate_of_land? {required : Option Kind} {id : NodeId} (hs : s.Plain)
    (hn : t.node? id = some n) (hkind : n.kind ≠ .scalar) (h : s.land? n.toJson = none) :
    t.reachOrCreate s required v id = ([], t) := by
  cases hkey : s.key? n.toJson with
  | none => exact reachOrCreate_of_key? hs hn hkind hkey
  | some key =>
    rw [Segment.land?, hkey, Option.bind_some, Json.land?] at h
    cases haim : n.toJson.aim? key with
    | some aimed =>
      -- the name spells a place, but the insertion refuses it
      have hliteral := literalKey?_eq_aim? hs n
      rw [hkey, Option.bind_some, haim] at hliteral
      rw [haim] at h
      have hrange : ¬ aimed.InRange := fun hrange ↦ by simp [hrange] at h
      exact reachOrCreate_of_not_inRange hn hliteral hrange
        ((Node.kind_toJson n).symm.trans (Json.kind_of_aim? haim))
    | none =>
      rw [haim] at h
      rw [reachOrCreate_of_aim? hs hn hkind hkey haim, Option.map_eq_none_iff.1 h]
      rfl

/-- A plain segment that lands at a key takes the bridge down to it. -/
theorem advances_of_land? (hs : s.Plain) (ht : t.Sound) (hroot : t.root = Context.fill c n)
    (h : s.land? n.toJson = some key) (segments : List Segment) :
    ∃ (f : Frame) (m : Node) (t' : Tree), Advances t c n s v key segments f m t' := by
  obtain ⟨key', hkey, hland⟩ := Option.bind_eq_some_iff.1 h
  obtain ⟨haim, hrange⟩ | ⟨haim, j, hj, rfl⟩ := Json.land?_eq_some.1 hland
  · have hliteral := literalKey?_eq_aim? hs n
    rw [hkey, Option.bind_some] at hliteral
    exact advances_of_literalKey? ht hroot (hliteral.trans haim)
      ((Node.kind_toJson n).symm.trans (Json.kind_of_aim? haim)) hrange segments
  · -- the segment matches the position that the name is equivalent to
    have hkind : n.kind ≠ .scalar := by
      rw [← Node.kind_toJson, Json.kind_of_equivalent? hj]
      simp
    obtain ⟨w, hw⟩ := Json.exists_childWith?_of_equivalent? hj
    rw [Node.childWith?_toJson] at hw
    obtain ⟨d, hd, -⟩ := Option.map_eq_some_iff.1 hw
    refine advances_of_child ht hroot hd ?_
    rw [reachOrCreate_of_aim? hs (ht.node?_of_root hroot) hkind hkey haim, hj, Option.bind_some, hd]
    rfl

/-! ### Several segments -/

theorem writeIn_stopValue {segments : List Segment} {rest : List Key} (v : Json)
    (h : segments.head?.map containerFor = rest.head?.map Key.container) (old : Option Json) :
    writeIn v rest (stopValue v segments old) = writeIn v rest (old.getD .null) := by
  cases segments with
  | nil =>
    cases rest with
    | nil => rfl
    | cons key rest => cases h
  | cons next segments =>
    cases rest with
    | nil => cases h
    | cons key rest =>
      rw [stopValue, Option.some.inj h]
      exact Json.writeIn_fit v key rest _

/-- A bridge that has gone down to one key and writes at the rest has written at all keys. -/
theorem written_of_advances {rest : List Key} {segments : List Segment} {f : Frame} {m : Node}
    (ha : Advances t c n s v key segments f m t') (hkind : n.toJson.kind = key.container)
    (hkeys : segments.head?.map containerFor = rest.head?.map Key.container)
    (hrest : segments ≠ [] → ∃ m', (t'.bridgeFrom v [m.id] segments).root =
      Context.fill (c ++ [f]) m' ∧ Written v rest m m') :
    ∃ n', (t.bridgeFrom v [n.id] (s :: segments)).root = Context.fill c n' ∧
      Written v (key :: rest) n n' := by
  rw [bridgeFrom_cons, ha.result]
  cases segments with
  | nil =>
    obtain rfl : rest = [] := by
      cases rest with
      | nil => rfl
      | cons key rest => cases hkeys
    refine ⟨f.fill m, ?_, Written.open ha.opens hkind ?_ ha.id ?_⟩
    · show t'.root = _
      rw [ha.root, Context.fill_append]
      rfl
    · exact ha.value
    · intro d _ hkept
      cases hkept
  | cons next segments =>
    obtain ⟨m', hroot', hm'⟩ := hrest (List.cons_ne_nil _ _)
    refine ⟨f.fill m', ?_, Written.open ha.opens hkind ?_ ?_ ?_⟩
    · show (t'.bridgeFrom v [m.id] (next :: segments)).root = _
      rw [hroot', Context.fill_append]
      rfl
    · rw [hm'.toJson, ha.value, writeIn_stopValue v hkeys]
    · exact fun hd ↦ hm'.id.trans (ha.id hd)
    · intro d hd hkept
      obtain ⟨rfl, -⟩ := ha.kept hd (hkeys.trans (hkept.trans (congrArg some (Node.kind_toJson d))))
      exact hm'

/-- The tree is still sound after one segment. -/
theorem Advances.sound {segments : List Segment} {f : Frame} {m : Node}
    (ha : Advances t c n s v key segments f m t') (hs : s.selector.WellFormed) (hv : v.Distinct)
    (ht : t.Sound) : t'.Sound := by
  have hleads := leads_bridgeSegment hs hv ht (segments.head?.map containerFor) [n.id]
  rw [ha.result] at hleads
  exact hleads.sound ht

/-- The node that a bridge goes on with has the value from which the course goes on. -/
theorem Advances.toJson_eq_enter {segments : List Segment} {f : Frame} {m : Node}
    (ha : Advances t c n s v key segments f m t') (hne : segments ≠ []) :
    m.toJson = Path.enter n.toJson key segments := by
  cases segments with
  | nil => exact absurd rfl hne
  | cons next segments => exact ha.value

/-- A bridge along plain segments writes at the keys of its course. -/
theorem bridgeFrom_course {segments : List Segment} {keys : List Key} (hne : segments ≠ [])
    (hplain : ∀ s ∈ segments, s.Plain) (hs : ∀ s ∈ segments, s.selector.WellFormed)
    (hv : v.Distinct) (ht : t.Sound) (hroot : t.root = Context.fill c n)
    (hcourse : courseFrom? n.toJson segments = some keys) :
    ∃ n', (t.bridgeFrom v [n.id] segments).root = Context.fill c n' ∧ Written v keys n n' := by
  -- the tree changes with every step, and the context grows by the frame that the step opens
  induction segments generalizing t c n keys with
  | nil => exact absurd rfl hne
  | cons s segments ih =>
    obtain ⟨key, rest, hland, hrest, rfl⟩ := courseFrom?_cons_eq_some.1 hcourse
    obtain ⟨hfirst, hplain⟩ := List.forall_mem_cons.1 hplain
    obtain ⟨hwf, hs⟩ := List.forall_mem_cons.1 hs
    obtain ⟨f, m, t', ha⟩ := advances_of_land? (v := v) hfirst ht hroot hland segments
    refine written_of_advances ha (Path.kind_of_segment_land? hland)
      (Path.head?_of_courseFrom? hrest (Path.kind_enter _ key segments)) fun hne' ↦ ?_
    rw [← ha.toJson_eq_enter hne'] at hrest
    exact ih hne' hplain hs (ha.sound hwf hv ht) ha.root hrest

/-- A bridge along plain segments that has no course changes nothing, unless it is stranded. -/
theorem root_bridgeFrom_of_not_stranded {segments : List Segment}
    (hplain : ∀ s ∈ segments, s.Plain) (hs : ∀ s ∈ segments, s.selector.WellFormed)
    (ht : t.Sound) (hroot : t.root = Context.fill c n) (hkind : n.kind ≠ .scalar)
    (hcourse : courseFrom? n.toJson segments = none)
    (hstranded : ¬ StrandedFrom n.toJson segments) :
    (t.bridgeFrom v [n.id] segments).root = t.root := by
  induction segments generalizing t c n with
  | nil => rfl
  | cons s segments ih =>
    obtain ⟨hfirst, hplain⟩ := List.forall_mem_cons.1 hplain
    obtain ⟨-, hs⟩ := List.forall_mem_cons.1 hs
    cases hland : s.land? n.toJson with
    | none =>
      exact congrArg root (bridgeFrom_of_nothing
        (reachOrCreate_of_land? hfirst (ht.node?_of_root hroot) hkind hland))
    | some key =>
      obtain ⟨f, m, t', ha⟩ := advances_of_land? (v := v) hfirst ht hroot hland segments
      cases segments with
      | nil =>
        rw [courseFrom?, hland] at hcourse
        cases hcourse
      | cons next segments =>
        -- the container that comes next is there, and the bridge goes on from it
        obtain ⟨w, hw, hwkind, hwcourse, hwstranded⟩ :=
          Path.exists_kept hplain hs hland hcourse hstranded
        rw [Node.childWith?_toJson] at hw
        obtain ⟨d, hd, rfl⟩ := Option.map_eq_some_iff.1 hw
        rw [Node.kind_toJson] at hwkind
        obtain ⟨rfl, rfl⟩ := ha.kept hd (congrArg some hwkind.symm)
        rw [bridgeFrom_cons, ha.result]
        exact ih hplain hs ht ha.root (hwkind ▸ Path.containerFor_ne_scalar next) hwcourse
          hwstranded

end Tree

end DocPath

import DocPath.Proofs.Tree.Bridge
import DocPath.Proofs.Tree.Replace

/-!
# Inserting a child

A value that is put under a key is found there afterwards by an exact lookup, whatever the key is: a
lookup and an insertion read names that spell positions, and positions that are names, in the same
way. Either a child was there, and then its value is replaced, or the container gets new children at
its end (`Extended`). Everything else is as it was (`Inserted`).

An insertion at the end exchanges the container for one with more children
(`Exchanged.node?_of_mem_descendants`), so the new handles are none of those that were live
(`Exchanged.notMem_ids_more`).

* `insertChild_exact` — what inserting does, handle by handle
-/

namespace DocPath

namespace Node

variable {i : NodeId} {key : Key}

/-- A name that is new to a map is found at its end. -/
theorem child?_append_entry {entries : List (String × Node)}
    (hnone : (map i entries).child? key true = none) (c : Node) :
    (map i (entries ++ [(key.text, c)])).child? key true = some c := by
  rw [child?_map_exact, Option.map_eq_none_iff] at hnone
  rw [child?_map_exact, List.find?_append, hnone]
  simp

/-- A position is found at the end of a sequence that is filled up to it. -/
theorem child?_append_items {items pads : List Node} {k : Nat} (hkey : key.int? = some (k : Int))
    (hlength : (items ++ pads).length = k) (c : Node) :
    (sequence i (items ++ pads ++ [c])).child? key true = some c := by
  have hk : ¬ (k : Int) < 0 := by omega
  rw [child?_sequence, hkey, Option.bind_some, if_neg hk, Int.toNat_natCast, ← hlength]
  exact List.getElem?_concat_length

/-- A position at which a sequence has nothing is not before its end. -/
theorem length_le_of_child?_eq_none {items : List Node} {k : Nat} (hkey : key.int? = some (k : Int))
    (hnone : (sequence i items).child? key true = none) : items.length ≤ k := by
  have hk : ¬ (k : Int) < 0 := by omega
  rw [child?_sequence, hkey, Option.bind_some, if_neg hk, Int.toNat_natCast] at hnone
  exact List.getElem?_eq_none_iff.1 hnone

theorem listing_append_entry (i : NodeId) (entries : List (String × Node)) (name : String)
    (c : Node) : (map i (entries ++ [(name, c)])).listing =
      (map i entries).listing ++ [(.name name, c.id)] := by
  simp [listing, children]

theorem listing_append_items (i : NodeId) (items pads : List Node) (c : Node) :
    (sequence i (items ++ pads ++ [c])).listing = (sequence i items).listing ++
      ((pads.map id).zipIdx items.length).map (fun pad ↦ (.index pad.2, pad.1)) ++
        [(.index (items ++ pads).length, c.id)] := by
  simp [listing, children, List.zipIdx_append, List.zipIdx_map, Function.comp_def]

end Node

namespace Tree

variable {t t' : Tree} {id i c : NodeId} {n m old new : Node} {more : List Node} {key : Key}
  {v : Json}

/-! ### Children at the end -/

namespace Exchanged

variable (h : t.Exchanged t' old new) (hmore : new.childNodes = old.childNodes ++ more)

include h hmore

/-- What was below a node that gets more children is as it was. -/
theorem node?_of_mem_descendants (hm : t.node? i = some m)
    (hi : i ∈ old.descendants.map Node.id) : t'.node? i = some m := by
  obtain ⟨d, hd, rfl⟩ := List.mem_map.1 hi
  have hlive := h.sound.node?_of_mem h.node? (List.mem_cons_of_mem old hd)
  rw [hm, Option.some.injEq] at hlive
  subst hlive
  refine h.sound'.node?_of_mem h.node?_self (List.mem_cons_of_mem new ?_)
  rw [Node.descendants_eq] at hd
  rw [Node.descendants_eq, hmore, List.flatMap_append]
  exact List.mem_append_left _ hd

/-- The new children have handles that were not live. -/
theorem notMem_ids_more (hi : i ∈ more.flatMap Node.ids) : i ∉ t.ids := by
  intro hlive
  have hnew : new.ids = old.id :: (old.childNodes.flatMap Node.ids ++ more.flatMap Node.ids) := by
    rw [Node.ids_eq, hmore, List.flatMap_append, h.id_eq]
  have hnodup := h.sound'.nodup_ids h.node?_self
  have hold := h.mem_ids_old hlive
  rw [hnew] at hnodup hold
  obtain ⟨hself, hrest⟩ := List.nodup_cons.1 hnodup
  have hmem := hold (List.mem_cons_of_mem _ (List.mem_append_right _ hi))
  rw [Node.ids_eq, List.mem_cons] at hmem
  rcases hmem with rfl | hmem
  · exact hself (List.mem_append_right _ hi)
  · exact List.disjoint_of_nodup_append hrest hmem hi

/-- Everything stays live, and nothing changes that is neither the node nor above it. -/
theorem exists_node?_more (hm : t.node? i = some m) :
    ∃ m', t'.node? i = some m' ∧ (i ≠ old.id → i ∉ t.ancestors old.id → m' = m) := by
  by_cases hi : i ∈ old.descendants.map Node.id
  · exact ⟨m, h.node?_of_mem_descendants hmore hm hi, fun _ _ ↦ rfl⟩
  · refine ⟨_, h.node?_of_notMem hm hi, fun hne habove ↦ ?_⟩
    exact Option.some.inj ((h.node?_of_notMem hm hi).symm.trans (h.node?_eq hi hne habove hm))

/-- A new child is live, with the value of its node. -/
theorem node?_more (hm : m ∈ more) : t'.node? m.id = some m := by
  refine h.sound'.node?_of_mem h.node?_self (List.mem_cons_of_mem new ?_)
  refine Node.mem_descendants_of_mem_childNodes ?_
  rw [hmore]
  exact List.mem_append_right _ hm

end Exchanged

/-! ### What an insertion does -/

/-- The children at a handle before and after a child was put under a key. -/
inductive Extended (t t' : Tree) (id : NodeId) (key : Key) (c : NodeId) : Prop
  /-- There was a child with exactly that key, which keeps its handle. -/
  | child (hchild : t.child? id key true = some c) (hlisting : t'.listing id = t.listing id)
  /-- A map has one child more, at its end. -/
  | entry (hchild : t.child? id key true = none) (hkind : t.kind? id = some .map)
    (hnew : ¬ t.contains c) (hlisting : t'.listing id = t.listing id ++ [(.name key.text, c)])
  /-- A sequence is filled up to the position with nulls. -/
  | item (k : Nat) (pads : List NodeId) (hchild : t.child? id key true = none)
    (hkind : t.kind? id = some .sequence) (hkey : key.int? = some (k : Int))
    (hnew : ¬ t.contains c)
    (hpads : ∀ pad ∈ pads, ¬ t.contains pad ∧ t'.contains pad ∧ t'.value pad = .scalar .null)
    (hlength : (t'.listing id).length = k + 1)
    (hlisting : t'.listing id = t.listing id ++
      (pads.zipIdx (t.listing id).length).map (fun pad ↦ (.index pad.2, pad.1)) ++ [(.index k, c)])

/-- What a tree is like after a child was put under a key. -/
structure Inserted (t t' : Tree) (id : NodeId) (key : Key) (v : Json) (c : NodeId) : Prop where
  contains_self : t'.contains c
  value_self : t'.value c = v
  child? : t'.child? id key true = some c
  extended : t.Extended t' id key c
  /-- The other children have the values that they had. -/
  siblings : ∀ {k d}, (k, d) ∈ t.listing id → d ≠ c → t'.contains d ∧ t'.value d = t.value d
  /-- What was not below a child that was there is still live. -/
  contains : ∀ {i}, t.contains i → i ∉ t.descendants c → t'.contains i
  /-- And it has the value that it had, unless it is above the child. -/
  value : ∀ {i}, t.contains i → i ∉ t.descendants c → i ≠ c → i ≠ id → i ∉ t.ancestors id →
    t'.value i = t.value i

/-- The value at a handle is that of its node. -/
theorem contains_and_value (hm : t.node? i = some m) (hm' : t'.node? i = some m) :
    t'.contains i ∧ t'.value i = t.value i := by
  exact ⟨contains_iff.2 (mem_ids_of_node? hm'),
    (value_of_node? hm').trans (value_of_node? hm).symm⟩

namespace Exchanged

/-- A container with more children, where the last one is found by the key. -/
theorem inserted_more {pads : List Node} (h : t.Exchanged t' old new)
    (hmore : new.childNodes = old.childNodes ++ (pads ++ [m]))
    (hfound : new.child? key true = some m) (hextended : t.Extended t' old.id key m.id) :
    t.Inserted t' old.id key m.toJson m.id := by
  have hlast := h.node?_more hmore (List.mem_append_right pads (List.mem_singleton_self m))
  exact {
    contains_self := contains_iff.2 (mem_ids_of_node? hlast)
    value_self := value_of_node? hlast
    child? := by rw [child?_of_node? h.node?_self, hfound, Option.map_some]
    extended := hextended
    siblings := fun {k d} hd _ ↦ by
      rw [listing_of_node? h.node?] at hd
      obtain ⟨⟨k', c⟩, hc, heq⟩ := List.mem_map.1 hd
      obtain ⟨rfl, rfl⟩ := Prod.mk.inj heq
      have hbelow := Node.mem_descendants_of_mem_childNodes (Node.mem_childNodes.2 ⟨k', hc⟩)
      have hm := h.sound.node?_of_mem h.node? (List.mem_cons_of_mem old hbelow)
      exact contains_and_value hm
        (h.node?_of_mem_descendants hmore hm (List.mem_map_of_mem hbelow))
    contains := fun hi _ ↦ by
      obtain ⟨m', hm'⟩ := exists_node? (contains_iff.1 hi)
      obtain ⟨m'', hm'', -⟩ := h.exists_node?_more hmore hm'
      exact contains_iff.2 (mem_ids_of_node? hm'')
    value := fun hi _ _ hne habove ↦ by
      obtain ⟨m', hm'⟩ := exists_node? (contains_iff.1 hi)
      obtain ⟨m'', hm'', hsame⟩ := h.exists_node?_more hmore hm'
      rw [hsame hne habove] at hm''
      exact (contains_and_value hm' hm'').2 }

/-- A child that was there, exchanged for one without live handles below. -/
theorem inserted_child (h : t.Exchanged t' old new) (hfresh : ∀ i ∈ new.ids, i ∈ t.ids → i = old.id)
    (hm : t.node? id = some m) (hchild : m.child? key true = some old) :
    t.Inserted t' id key new.toJson old.id := by
  have hreplaced := h.replaced hfresh
  have hmem := Node.mem_childNodes_of_child? hchild
  have hparent : t.parent? old.id = some id :=
    h.sound.parent?_eq_some_iff.2 ⟨m, hm, List.mem_map_of_mem hmem⟩
  have hout : id ∉ old.ids := fun hin ↦ (List.nodup_cons.1 (h.sound.nodup_ids h.node?)).1
    (h.sound.mem_descendants_of_parent? h.node? hparent hin)
  rw [Node.ids, List.mem_cons, not_or] at hout
  have hlookup : t.child? id key true = some old.id := by
    rw [child?_of_node? hm, hchild, Option.map_some]
  have hbelow : ∀ {i}, i ∉ t.descendants old.id → i ∉ old.descendants.map Node.id := by
    intro i hi
    rwa [descendants, view_of_node? h.node?] at hi
  exact {
    contains_self := hreplaced.contains_self
    value_self := hreplaced.value_self
    child? := by
      have hne : m.id ≠ old.id := id_of_node? hm ▸ hout.1
      rw [child?_of_node? (h.node?_of_notMem hm hout.2), Node.replace_of_ne new hne,
        Node.child?_mapChildren, hchild, Option.map_some, Option.map_some, Node.replace_self,
        h.id_eq]
    extended := .child hlookup (h.listing_eq hm hout.2 hout.1)
    siblings := fun {k d} hd hne ↦ by
      rw [listing_of_node? hm] at hd
      obtain ⟨⟨k', c⟩, hc, heq⟩ := List.mem_map.1 hd
      obtain ⟨rfl, rfl⟩ := Prod.mk.inj heq
      have hcm := Node.mem_childNodes.2 ⟨k', hc⟩
      -- two children have no handle in common
      have hapart : ∀ i ∈ old.ids, i ∉ c.ids := fun i hi hi' ↦ hne <| congrArg Node.id <|
        Node.eq_of_mem_ids_childNodes (h.sound.nodup_ids hm) hcm hmem hi' hi
      have hnode := (h.sound.node?_child hm hc).1
      have hnot : c.id ∉ old.descendants.map Node.id := fun hin ↦
        hapart c.id (List.mem_cons_of_mem _ hin) c.id_mem_ids
      have hnode' := h.node?_of_notMem hnode hnot
      rw [Node.replace_of_notMem new (hapart old.id old.id_mem_ids)] at hnode'
      exact contains_and_value hnode hnode'
    contains := fun hi hnot ↦ (hreplaced.contains hi).2 hnot
    value := fun hi hnot hne hid habove ↦ by
      refine hreplaced.value hi ((hreplaced.contains hi).2 hnot) hne ?_
      rw [h.sound.ancestors_eq, hparent, List.mem_cons, not_or]
      exact ⟨hid, habove⟩ }

end Exchanged

namespace Sound

/-- Appending an entry exchanges a map for one with a child more. -/
theorem exchanged_appendEntry (h : t.Sound) {entries : List (String × Node)}
    (hn : t.node? id = some (.map id entries)) {name : String}
    (hname : name ∉ entries.map Prod.fst) (hv : v.Distinct) :
    ∃ m, m.toJson = v ∧ (t.appendEntry id entries name v).1 = some m.id ∧
      t.Exchanged (t.appendEntry id entries name v).2 (.map id entries)
        (.map id (entries ++ [(name, m)])) := by
  refine ⟨_, Node.toJson_build t.slots.allocate.1 v t.slots.allocate.2, rfl, hn, rfl, ?_, h,
    h.appendEntry hn hname hv⟩
  rw [appendEntry_eq, ← tops_mapTops]
  rfl

/-- Appending items exchanges a sequence for one with more children. -/
theorem exchanged_appendItems (h : t.Sound) {items : List Node}
    (hn : t.node? id = some (.sequence id items)) {values : List Json}
    (hvalues : ∀ w ∈ values ++ [v], w.Distinct) :
    ∃ nodes m, nodes.map Node.toJson = values ∧ m.toJson = v ∧
      (t.appendItems id items (values ++ [v])).1 = some m.id ∧
      t.Exchanged (t.appendItems id items (values ++ [v])).2 (.sequence id items)
        (.sequence id (items ++ nodes ++ [m])) := by
  have hsound := h.appendItems hn hvalues
  obtain ⟨nodes, m, hnodes, hvalues, hv⟩ := exists_buildItems_concat values v t.slots
  have heq := t.appendItems_eq id items (values ++ [v])
  rw [hnodes, ← List.append_assoc] at heq
  refine ⟨nodes, m, hvalues, hv, by rw [heq]; simp, hn, rfl, ?_, h, hsound⟩
  rw [heq, ← tops_mapTops]
  rfl

/-- A value that is put under a new name of a map. -/
theorem inserted_entry (h : t.Sound) {entries : List (String × Node)}
    (hn : t.node? id = some (.map id entries))
    (hnone : (Node.map id entries).child? key true = none) (hv : v.Distinct) :
    ∃ c, (t.appendEntry id entries key.text v).1 = some c ∧
      t.Inserted (t.appendEntry id entries key.text v).2 id key v c := by
  obtain ⟨m, rfl, hlast, h⟩ :=
    h.exchanged_appendEntry hn (Node.notMem_names_of_child?_eq_none hnone) hv
  have hmore : (Node.map id (entries ++ [(key.text, m)])).childNodes =
      (Node.map id entries).childNodes ++ ([] ++ [m]) := by simp
  refine ⟨m.id, hlast, h.inserted_more hmore (Node.child?_append_entry hnone m)
    (.entry ?_ ?_ ?_ ?_)⟩
  · rw [child?_of_node? h.node?, hnone, Option.map_none]
  · exact kind?_of_node? h.node?
  · rw [contains_iff]
    exact h.notMem_ids_more hmore (by simp [m.id_mem_ids])
  · rw [listing_of_node? h.node?_self, listing_of_node? h.node?]
    exact Node.listing_append_entry id entries key.text m

/-- A value that is put behind the end of a sequence. -/
theorem inserted_item (h : t.Sound) {items : List Node} {k : Nat}
    (hn : t.node? id = some (.sequence id items)) (hkey : key.int? = some (k : Int))
    (hnone : (Node.sequence id items).child? key true = none) (hv : v.Distinct) :
    ∃ c, (t.appendItems id items (List.replicate (k - items.length) .null ++ [v])).1 = some c ∧
      t.Inserted (t.appendItems id items (List.replicate (k - items.length) .null ++ [v])).2
        id key v c := by
  have hvalues : ∀ w ∈ List.replicate (k - items.length) Json.null ++ [v], w.Distinct := by
    refine List.forall_mem_append.2 ⟨fun w hw ↦ ?_, by simpa using hv⟩
    rw [(List.mem_replicate.1 hw).2]
    exact Json.distinct_scalar _
  obtain ⟨pads, m, hpads, rfl, hlast, h⟩ := h.exchanged_appendItems hn hvalues
  have hmore : (Node.sequence id (items ++ pads ++ [m])).childNodes =
      (Node.sequence id items).childNodes ++ (pads ++ [m]) := by simp
  have hcount : (Node.sequence id items).children.length = items.length := by
    simp [Node.children]
  -- the nulls fill the sequence up to the position
  have hlength : (items ++ pads).length = k := by
    have hle := Node.length_le_of_child?_eq_none hkey hnone
    have hmissing := congrArg List.length hpads
    rw [List.length_map, List.length_replicate] at hmissing
    rw [List.length_append, hmissing]
    omega
  refine ⟨m.id, hlast, h.inserted_more hmore (Node.child?_append_items hkey hlength m)
    (.item k (pads.map Node.id) ?_ ?_ hkey ?_ ?_ ?_ ?_)⟩
  · rw [child?_of_node? h.node?, hnone, Option.map_none]
  · exact kind?_of_node? h.node?
  · rw [contains_iff]
    exact h.notMem_ids_more hmore (by simp [m.id_mem_ids])
  · intro pad hpad
    obtain ⟨p, hp, rfl⟩ := List.mem_map.1 hpad
    have hnew := h.node?_more hmore (List.mem_append_left [m] hp)
    refine ⟨?_, contains_iff.2 (mem_ids_of_node? hnew), ?_⟩
    · rw [contains_iff]
      exact h.notMem_ids_more hmore
        (List.mem_flatMap.2 ⟨p, List.mem_append_left _ hp, p.id_mem_ids⟩)
    · have hnull := List.mem_map_of_mem (f := Node.toJson) hp
      rw [hpads] at hnull
      rw [value_of_node? hnew]
      exact (List.mem_replicate.1 hnull).2
  · rw [listing_of_node? h.node?_self, Node.length_listing]
    simp [Node.children, ← hlength, Nat.add_assoc]
  · rw [listing_of_node? h.node?_self, listing_of_node? h.node?, Node.length_listing, hcount,
      Node.listing_append_items, hlength]

/-- Where a child is put, it is found, and otherwise nothing is done. -/
theorem insertChild_cases (h : t.Sound) (id : NodeId) (key : Key) (hv : v.Distinct) :
    t.insertChild id key v = (none, t) ∨
      ∃ c, (t.insertChild id key v).1 = some c ∧
        t.Inserted (t.insertChild id key v).2 id key v c := by
  cases hn : t.node? id with
  | none =>
    refine .inl ?_
    rw [Tree.insertChild, Tree.child?, view, hn]
    rfl
  | some n =>
    cases hchild : n.child? key true with
    | some old =>
      have hlookup : t.child? id key true = some old.id := by
        rw [child?_of_node? hn, hchild, Option.map_some]
      have hold := (h.node?_of_child? ((view_of_node? hn).symm ▸ hchild)).1
      obtain ⟨new, rfl, hexchanged, hfresh⟩ := h.exchanged_replaceWith hold hv
      rw [insertChild_of_child? hlookup]
      exact .inr ⟨old.id, rfl, hexchanged.inserted_child hfresh hn hchild⟩
    | none =>
      have hlookup : t.child? id key true = none := by
        rw [child?_of_node? hn, hchild, Option.map_none]
      obtain rfl := id_of_node? hn
      cases n with
      | scalar i s =>
        refine .inl ?_
        rw [Tree.insertChild, hlookup, hn]
      | map i entries =>
        rw [insertChild_map hlookup hn]
        exact .inr (h.inserted_entry hn hchild hv)
      | sequence i items =>
        rcases insertChild_items hlookup hn v with heq | ⟨k, hkey, heq⟩
        · exact .inl heq
        · rw [heq]
          exact .inr (h.inserted_item hn hkey hchild hv)

end Sound

/-- A value that is put under a key is found there, in place of a child that was there with exactly
that key, or of a new one at the end. The other children stay, and what is neither at nor above the
container or at or below the child has the value that it had. If nothing is put, nothing changes. -/
theorem insertChild_exact (ht : t.Reachable) (id : NodeId) (key : Key) (hv : v.Distinct) :
    ((t.insertChild id key v).1 = none → (t.insertChild id key v).2 = t) ∧
      ∀ c, (t.insertChild id key v).1 = some c →
        t.Inserted (t.insertChild id key v).2 id key v c := by
  rcases ht.sound.insertChild_cases id key hv with heq | ⟨c, hc, hinserted⟩
  · rw [heq]
    exact ⟨fun _ ↦ rfl, nofun⟩
  · rw [hc]
    exact ⟨nofun, fun c' hc' ↦ Option.some.inj hc' ▸ hinserted⟩

/-- The name of a position behind the end of a sequence, with a sign. -/
theorem insertChild_exact_sign :
    ((ofJson .empty (.array [.null])).insertChild ⟨0, 0⟩ (.name "+2") (.array [])).1 =
        some ⟨3, 0⟩ ∧
      ((ofJson .empty (.array [.null])).insertChild ⟨0, 0⟩ (.name "+2") (.array [])).2.document =
        .array [.null, .null, .array []] ∧
      (ofJson .empty (.array [.null])).Inserted
        ((ofJson .empty (.array [.null])).insertChild ⟨0, 0⟩ (.name "+2") (.array [])).2 ⟨0, 0⟩
        (.name "+2") (.array []) ⟨3, 0⟩ := by
  have ht : (ofJson .empty (.array [.null])).Reachable := .ofJson _ (by simp)
  exact ⟨rfl, rfl, (insertChild_exact ht ⟨0, 0⟩ (.name "+2") (by simp)).2 _ rfl⟩

end Tree

end DocPath

import DocPath.Proofs.Flat.Leaves
import DocPath.Proofs.Tree.AbsolutePath
import DocPath.Proofs.Tree.Search
import DocPath.Proofs.Tree.Write

/-!
# Copying and moving between trees

Every node of the document that a path leads to is written into the other tree at its own absolute
path. However the nodes overlap, all of them are there in the end, since all of them are parts of
one document (`exists_exportNodes`): a later write puts what the earlier one has put already, or
something beside it. The root of the other tree has to take the first keys for its own, which is
where a sequence refuses the names of a map.

When moving, a node that is gone was at or below one that was written (`exists_of_gone_killAll`), so
it is in the other tree, too (`export_covers`).
-/

namespace DocPath

/-- In an addressable value all keys are in range. -/
theorem Json.inRange_of_at? {d v : Json} {keys : List Key} (hd : d.Addressable)
    (h : d.at? keys = some v) : ∀ key ∈ keys, key.InRange := by
  induction keys generalizing d with
  | nil => simp
  | cons key rest ih =>
    obtain ⟨c, hc, hv⟩ := at?_cons_eq_some_iff.1 h
    have hkey : key.InRange ∧ c.Addressable := by
      cases d with
      | scalar s => cases key <;> cases hc
      | object entries =>
        cases key with
        | index i => cases hc
        | name k =>
          rw [addressable_object] at hd
          exact ⟨trivial, hd _ (Entries.mem_of_get?_eq_some hc)⟩
      | array items =>
        cases key with
        | name k => cases hc
        | index i =>
          rw [addressable_array] at hd
          obtain ⟨hlt, rfl⟩ := List.getElem?_eq_some_iff.1 hc
          exact ⟨Nat.lt_of_lt_of_le hlt hd.1, hd.2 _ (List.getElem_mem hlt)⟩
    rw [List.forall_mem_cons]
    exact ⟨hkey.1, ih hkey.2 hv⟩

namespace Tree

variable {t other : Tree} {id : NodeId} {n : Node} {keys : List Key} {p : Path} {raw : String}

/-! ### Nodes that are gone -/

/-- A handle that is gone after killing nodes was below one of them. -/
theorem exists_of_gone_killAll {ids : List NodeId} {i : NodeId} (hi : i ∈ t.root.ids)
    (hgone : i ∉ (t.killAll ids).2.root.ids) :
    ∃ n ∈ t.root :: t.root.descendants, n.id ∈ ids ∧ n.id ≠ t.root.id ∧ i ∈ n.ids := by
  induction ids generalizing t with
  | nil => exact absurd hi hgone
  | cons id rest ih =>
    rw [killAll_cons] at hgone
    have hroot := t.root_kill id
    by_cases hkilled : id ∈ t.root.ids ∧ id ≠ t.root.id
    · rw [if_pos hkilled] at hroot
      by_cases hleft : i ∈ (t.kill id).2.root.ids
      · -- it went with a later one, which was there before with more below it
        obtain ⟨m, hm, hmid, hne, him⟩ := ih hleft hgone
        rw [hroot] at hm hne
        obtain ⟨m₀, hm₀, rfl⟩ := Node.exists_of_mem_erase hm
        rw [Node.id_erase] at hmid hne
        rw [Node.id_erase] at hne
        exact ⟨m₀, hm₀, List.mem_cons_of_mem id hmid, hne, Node.ids_erase_subset id m₀ him⟩
      · rw [hroot] at hleft
        obtain ⟨m, hm, rfl, him⟩ := Node.exists_of_notMem_erase hkilled.2.symm hi hleft
        exact ⟨m, hm, List.mem_cons_self .., hkilled.2, him⟩
    · rw [if_neg hkilled] at hroot
      obtain ⟨m, hm, hmid, hne, him⟩ := ih (hroot ▸ hi) hgone
      rw [hroot] at hm hne
      exact ⟨m, hm, List.mem_cons_of_mem id hmid, hne, him⟩

/-! ### Writing at absolute paths -/

theorem exportNodes_cons_none (h : t.absolutePath? id = none) (rest : List NodeId) :
    t.exportNodes other (id :: rest) = t.exportNodes other rest := by
  rw [exportNodes, h]

theorem exportNodes_cons_some {other' : Tree} {path : String} (h : t.absolutePath? id = some path)
    (hbridge : other.bridge [(path, t.value id)] = (.ok (), other')) (rest : List NodeId) :
    t.exportNodes other (id :: rest) = t.exportNodes other' rest := by
  rw [exportNodes, h]
  simp only [hbridge]

/-- A bridge at the path of keys writes at the keys where it lands. -/
theorem exists_bridge_pathOf (h : other.Sound) {landed : List Key}
    (hrange : ∀ key ∈ keys, key.InRange) (hland : other.document.landing? keys = some landed)
    {v : Json} (hv : v.Distinct) :
    ∃ other', other.bridge [(Flat.pathOf keys, v)] = (.ok (), other') ∧ other'.Sound ∧
      other'.document = Json.writeIn v landed other.document := by
  obtain ⟨p, hp, hkeys⟩ : ∃ p, Path.parse (Flat.pathOf keys) = .ok p ∧ Literal p.segments keys :=
    ⟨_, Path.parse_pathOf hrange, Path.literal?_segments keys⟩
  have hwritten := written_writeThrough hkeys (Path.wellFormed_of_parse hp) hv h
  rw [hland] at hwritten
  refine ⟨_, bridge_singleton hp v, (leads_bridgePath hp hv h).sound h, ?_⟩
  rw [document, root_bridgePath]
  exact hwritten.toJson

/-- The value of a node of the document is the value of the document at its keys. -/
theorem at?_document (hn : t.root.at? keys = some n) : t.document.at? keys = some n.toJson := by
  rw [document, ← Node.toJson_at?, hn, Option.map_some]

namespace Sound

/-- A node of the document that has an absolute path is found at the keys of that path. -/
theorem exists_at?_of_absolutePath? (h : t.Sound) {path : String}
    (hpath : t.absolutePath? id = some path) :
    ∃ keys n, t.root.at? keys = some n ∧ n.id = id ∧ path = Flat.pathOf keys := by
  have hid : id ∈ t.root.ids := by
    by_contra hid
    rw [absolutePath?, Node.trail?_of_notMem hid] at hpath
    cases hpath
  obtain ⟨n, hn⟩ := Node.exists_find? hid
  obtain rfl := Node.id_of_find? hn
  obtain ⟨keys, hkeys⟩ := Node.exists_at? h.distinct_root (Node.mem_of_find? hn)
  rw [h.absolutePath?_of_at? hkeys, Option.some.injEq] at hpath
  exact ⟨keys, n, hkeys, rfl, hpath.symm⟩

/-- One handle is found at one list of keys. -/
theorem at?_unique (h : t.Sound) {keys' : List Key} {n' : Node} (hn : t.root.at? keys = some n)
    (hn' : t.root.at? keys' = some n') (hid : n'.id = n.id) : keys' = keys ∧ n' = n := by
  have hkeys : keys' = keys := by
    rw [← h.trail_of_at? hn', hid, h.trail_of_at? hn]
  subst hkeys
  exact ⟨rfl, Option.some.inj (hn'.symm.trans hn)⟩

theorem value_of_at? (h : t.Sound) (hn : t.root.at? keys = some n) : t.value n.id = n.toJson := by
  obtain ⟨c, hroot, -⟩ := Node.exists_fill_of_at? hn
  rw [value, h.view_of_root hroot]

/-- A node below another one is found at its keys and more. -/
theorem exists_append_of_mem_ids (h : t.Sound) {keys' : List Key} {n' : Node}
    (hn : t.root.at? keys = some n) (hn' : t.root.at? keys' = some n') (hid : n'.id ∈ n.ids) :
    ∃ rest, keys' = keys ++ rest ∧ n.at? rest = some n' := by
  obtain ⟨m, hm, hmid⟩ := Node.mem_ids_iff_eq_or_mem_descendants.1 hid
  obtain ⟨c, hroot, -⟩ := Node.exists_fill_of_at? hn
  have hdistinct : n.toJson.Distinct :=
    Node.Context.distinct_of_fill (hroot ▸ h.distinct_root)
  obtain ⟨rest, hrest⟩ := Node.exists_at? hdistinct hm
  have hat : t.root.at? (keys ++ rest) = some m := by
    rw [Node.at?_append, hn, Option.bind_some, hrest]
  obtain ⟨rfl, rfl⟩ := h.at?_unique hat hn' hmid.symm
  exact ⟨rest, rfl, hrest⟩

end Sound

/-! ### What is in the other tree -/

/-- A root that takes the keys of the document takes the first key of every node in it. -/
theorem map_or_container_of_at? {kind : Kind} {key : Key} {rest : List Key}
    (hkind : t.root.kind ≠ .scalar → kind = .map ∨ kind = t.root.kind)
    (hn : t.root.at? (key :: rest) = some n) : kind = .map ∨ kind = key.container := by
  have hk := Json.kind_of_at?_cons (at?_document hn)
  rw [document, Node.kind_toJson] at hk
  rw [← hk]
  exact hkind (by rw [hk]; cases key <;> simp [Key.container])

/-- One node that is written at its absolute path is there after that, and whatever agreed with the
document before does so still. The root of the other tree is a container that takes the keys of the
document, or becomes one. -/
theorem exists_bridge_node (h : t.Sound) (hsize : t.document.Addressable) {kind : Kind}
    (hkind : t.root.kind ≠ .scalar → kind = .map ∨ kind = t.root.kind) (hother : other.Sound)
    (hroot : other.root.kind = kind ∨ other.root.kind = .scalar ∧ kind = t.root.kind) {key : Key}
    {rest : List Key} {m : Node} (hm : t.root.at? (key :: rest) = some m) :
    ∃ other', other.bridge [(Flat.pathOf (key :: rest), t.value m.id)] = (.ok (), other') ∧
      other'.Sound ∧ other'.root.kind = kind ∧
      other'.document.at? (key.seat kind :: rest) = some m.toJson ∧
      ∀ {key' : Key} {rest' : List Key} {n : Node}, t.root.at? (key' :: rest') = some n →
        other.document.at? (key'.seat kind :: rest') = some n.toJson →
        other'.document.at? (key'.seat kind :: rest') = some n.toJson := by
  have hvalue := at?_document hm
  have hsort := map_or_container_of_at? hkind hm
  have hdocument : t.root.kind = key.container := by
    rw [← Node.kind_toJson]
    exact Json.kind_of_at?_cons hvalue
  have hrange := Json.inRange_of_at? hsize hvalue
  have hland : other.document.landing? (key :: rest) = some (key.seat kind :: rest) := by
    refine Json.landing?_seat hsort ?_ (hrange key (List.mem_cons_self ..)) rest
    rw [document, Node.kind_toJson, ← hdocument]
    exact hroot
  have hdistinct : m.toJson.Distinct := by
    rw [← h.value_of_at? hm]
    exact h.distinct_view m.id
  obtain ⟨other', hbridge, hsound, hwrite⟩ := exists_bridge_pathOf hother hrange hland hdistinct
  have hthere : other'.document.at? (key.seat kind :: rest) = some m.toJson := by
    rw [hwrite]
    exact Json.at?_writeIn ..
  refine ⟨other', by rw [h.value_of_at? hm, hbridge], hsound, ?_, hthere, fun hn hbefore ↦ ?_⟩
  · rw [← Node.kind_toJson, ← Json.container_seat hsort]
    exact Json.kind_of_at?_cons hthere
  · rw [hwrite]
    exact Json.at?_writeIn_seat hsort (at?_document hn) hbefore hvalue

/-- All nodes that are written are there in the end, and whatever agreed with the document before
does so still. -/
theorem exists_exportNodes (h : t.Sound) (hsize : t.document.Addressable) {kind : Kind}
    (hkind : t.root.kind ≠ .scalar → kind = .map ∨ kind = t.root.kind) {ids : List NodeId}
    (hids : t.root.id ∉ ids) (hother : other.Sound)
    (hroot : other.root.kind = kind ∨ other.root.kind = .scalar ∧ kind = t.root.kind) :
    ∃ other', t.exportNodes other ids = (.ok (), other') ∧
      ∀ {key : Key} {rest : List Key} {n : Node}, t.root.at? (key :: rest) = some n →
        (n.id ∈ ids ∨ other.document.at? (key.seat kind :: rest) = some n.toJson) →
        other'.document.at? (key.seat kind :: rest) = some n.toJson := by
  induction ids generalizing other with
  | nil => exact ⟨other, rfl, fun _ hn ↦ hn.resolve_left List.not_mem_nil⟩
  | cons id ids ih =>
    rw [List.mem_cons, not_or] at hids
    cases hpath : t.absolutePath? id with
    | none =>
      -- a node that is not of the document is passed over
      obtain ⟨other', hexport, hagree⟩ := ih hids.2 hother hroot
      refine ⟨other', (exportNodes_cons_none hpath ids).trans hexport, fun hn hor ↦ ?_⟩
      refine hagree hn (hor.imp_left fun hmem ↦ (List.mem_cons.1 hmem).resolve_left ?_)
      rintro rfl
      rw [h.absolutePath?_of_at? hn] at hpath
      cases hpath
    | some path =>
      obtain ⟨keys, m, hm, rfl, rfl⟩ := h.exists_at?_of_absolutePath? hpath
      obtain ⟨key, rest, rfl⟩ := List.exists_cons_of_ne_nil (l := keys) fun hnil ↦ by
        subst hnil
        exact hids.1 (congrArg Node.id (Option.some.inj hm))
      obtain ⟨other₁, hbridge, hsound, hroot₁, hthere, hkeeps⟩ :=
        exists_bridge_node h hsize hkind hother hroot hm
      obtain ⟨other', hexport, hagree⟩ := ih hids.2 hsound (.inl hroot₁)
      refine ⟨other', (exportNodes_cons_some hpath hbridge ids).trans hexport, fun hn hor ↦ ?_⟩
      refine hagree hn ?_
      rcases hor with hmem | hbefore
      · rcases List.mem_cons.1 hmem with hid | hmem
        · obtain ⟨heq, rfl⟩ := h.at?_unique hm hn hid
          cases heq
          exact .inr hthere
        · exact .inl hmem
      · exact .inr (hkeeps hn hbefore)

/-- The node at keys of the document is in another document: there its keys lead to its value, when
a map as the root takes the first of them as a name. -/
def Covers (other : Tree) (keys : List Key) (n : Node) : Prop :=
  ∃ m, other.root.at? (keys.modifyHead (Key.seat other.root.kind)) = some m ∧ m.toJson = n.toJson

theorem covers_iff :
    other.Covers keys n ↔
      other.document.at? (keys.modifyHead (Key.seat other.root.kind)) = some n.toJson := by
  rw [document, ← Node.toJson_at?, Option.map_eq_some_iff]
  rfl

/-- The root of the document replaces the other root. -/
theorem exists_exportNodes_root (h : t.Sound) (hother : other.Sound) :
    ∃ other', t.exportNodes other [t.root.id] = (.ok (), other') ∧ other'.Covers [] t.root := by
  have hat : t.root.at? [] = some t.root := rfl
  have hrange : ∀ key ∈ ([] : List Key), key.InRange := List.forall_mem_nil _
  obtain ⟨other', hbridge, -, hwrite⟩ := exists_bridge_pathOf hother hrange rfl h.distinct_root
  rw [← h.value_of_at? hat] at hbridge
  refine ⟨other', exportNodes_cons_some (h.absolutePath?_of_at? hat) hbridge [], ?_⟩
  rw [covers_iff, hwrite]
  rfl

/-- Nodes below the root are written under the other root, unless that is a sequence and this a
map. -/
theorem exists_exportNodes_covers (h : t.Sound) (hsize : t.document.Addressable)
    (hother : other.Sound) (hroots : ¬ (t.root.kind = .map ∧ other.root.kind = .sequence))
    {ids : List NodeId} (hids : t.root.id ∉ ids) :
    ∃ other', t.exportNodes other ids = (.ok (), other') ∧
      ∀ {keys : List Key} {n : Node}, t.root.at? keys = some n → n.id ∈ ids →
        other'.Covers keys n := by
  -- a scalar root becomes a container of the kind of this root, any other one stays what it is
  obtain ⟨kind, hkind, hroot⟩ : ∃ kind,
      (t.root.kind ≠ .scalar → kind = .map ∨ kind = t.root.kind) ∧
      (other.root.kind = kind ∨ other.root.kind = .scalar ∧ kind = t.root.kind) := by
    by_cases hscalar : other.root.kind = .scalar
    · exact ⟨t.root.kind, fun _ ↦ .inr rfl, .inr ⟨hscalar, rfl⟩⟩
    · refine ⟨other.root.kind, fun hne ↦ ?_, .inl rfl⟩
      cases hk : other.root.kind with
      | scalar => exact absurd hk hscalar
      | map => exact .inl rfl
      | sequence =>
        cases hk' : t.root.kind with
        | scalar => exact absurd hk' hne
        | map => exact absurd ⟨hk', hk⟩ hroots
        | sequence => exact .inr rfl
  obtain ⟨other', hexport, hagree⟩ := exists_exportNodes h hsize hkind hids hother hroot
  refine ⟨other', hexport, fun {keys n} hn hmem ↦ ?_⟩
  cases keys with
  | nil =>
    have hroot : t.root = n := Option.some.inj hn
    exact absurd (hroot ▸ hmem) hids
  | cons key rest =>
    have hthere := hagree hn (.inl hmem)
    have hsort := map_or_container_of_at? hkind hn
    have hkind' : other'.root.kind = kind := by
      rw [← Node.kind_toJson, ← Json.container_seat hsort]
      exact Json.kind_of_at?_cons hthere
    rw [covers_iff, hkind']
    exact hthere

/-! ### One path -/

theorem findPath_of_nil (hp : p.segments = []) : (t.findPath p).1 = [t.root.id] := by
  rw [findPath_eq_walk, hp, walk]

/-- What one path leads to is in the other tree. -/
theorem exists_export_findPath (h : t.Sound) (hother : other.Sound)
    (hp : ∀ s ∈ p.segments, s.selector.WellFormed) (hsize : t.document.Addressable)
    (hroots : p.segments ≠ [] → ¬ (t.root.kind = .map ∧ other.root.kind = .sequence))
    (hfound : (t.findPath p).2.Sound) :
    ∃ other', (t.findPath p).2.exportNodes other (t.findPath p).1 = (.ok (), other') ∧
      ∀ {keys : List Key} {n : Node}, t.root.at? keys = some n → n.id ∈ (t.findPath p).1 →
        other'.Covers keys n := by
  have hroot := t.root_findPath p
  by_cases hnil : p.segments = []
  · rw [findPath_of_nil hnil]
    obtain ⟨other', hexport, hcovers⟩ := exists_exportNodes_root hfound hother
    rw [hroot] at hexport hcovers
    refine ⟨other', hexport, fun hn hmem ↦ ?_⟩
    have hself : t.root.at? [] = some t.root := rfl
    obtain ⟨rfl, rfl⟩ := h.at?_unique hself hn (List.mem_singleton.1 hmem)
    exact hcovers
  · have hids : (t.findPath p).2.root.id ∉ (t.findPath p).1 := fun hmem ↦
      h.ne_root_of_mem_findPath hp hnil _ hmem (congrArg Node.id hroot)
    have hsize' : (t.findPath p).2.document.Addressable := by rwa [document, hroot]
    obtain ⟨other', hexport, hcovers⟩ := exists_exportNodes_covers hfound hsize' hother
      (by rw [hroot]; exact hroots hnil) hids
    exact ⟨other', hexport, fun hn ↦ hcovers (by rwa [hroot])⟩

theorem exportAll_singleton {moving : Bool} {other' : Tree} (hp : Path.parse raw = .ok p)
    (hexport : (t.findPath p).2.exportNodes other (t.findPath p).1 = (.ok (), other')) :
    exportAll moving t other [raw] =
      (.ok (), if moving then ((t.findPath p).2.killAll (t.findPath p).1).2 else (t.findPath p).2,
        other') := by
  have hfind : t.find raw = .ok (t.findPath p) := by
    rw [find_eq, hp]
    rfl
  rw [exportAll, hfind]
  simp only [hexport]
  rfl

/-- Copying what a path leads to into another tree, and moving it there, succeed and make the same
of the other tree. Copying leaves the document as it is. Every node of the document that the path
leads to, and every one that moving removes, is in the other tree: there the keys at which it was
found lead to its value. -/
theorem export_covers (ht : t.Reachable) (hother : other.Reachable) (hp : Path.parse raw = .ok p)
    (hsize : t.document.Addressable)
    (hroots : p.segments ≠ [] → ¬ (t.root.kind = .map ∧ other.root.kind = .sequence)) :
    ∃ copied moved other', t.copyTo other [raw] = (.ok (), copied, other') ∧
      t.moveTo other [raw] = (.ok (), moved, other') ∧ copied.root = t.root ∧
      ∀ {keys : List Key} {n : Node}, t.root.at? keys = some n →
        n.id ∈ (t.findPath p).1 ∨ n.id ∉ moved.root.ids → other'.Covers keys n := by
  have h := ht.sound
  have hfound := (leads_findPath hp h).sound h
  have hroot := t.root_findPath p
  obtain ⟨other', hexport, hcovers⟩ := exists_export_findPath h hother.sound
    (Path.wellFormed_of_parse hp) hsize hroots hfound
  refine ⟨_, _, other', exportAll_singleton hp hexport, exportAll_singleton hp hexport, hroot,
    fun {keys n} hn hor ↦ ?_⟩
  rcases hor with hmem | hgone
  · exact hcovers hn hmem
  · -- the node was at or below one that was killed, so it is below one that is there
    have hlive : n.id ∈ (t.findPath p).2.root.ids := by
      rw [hroot]
      exact Node.mem_ids_of_at? hn
    obtain ⟨m, hm, hmem, hne, hbelow⟩ := exists_of_gone_killAll hlive hgone
    rw [hroot] at hm hne
    obtain ⟨above, habove⟩ := Node.exists_at? h.distinct_root hm
    obtain ⟨rest, rfl, hrest⟩ := h.exists_append_of_mem_ids habove hn hbelow
    obtain ⟨key, above, rfl⟩ := List.exists_cons_of_ne_nil (l := above) fun hnil ↦ by
      subst hnil
      exact hne (congrArg Node.id (Option.some.inj habove)).symm
    have hthere := covers_iff.1 (hcovers habove hmem)
    rw [covers_iff]
    show other'.document.at? ((key :: above).modifyHead _ ++ rest) = _
    rw [Json.at?_append, hthere, Option.bind_some, ← Node.toJson_at?, hrest, Option.map_some]

/-- Nodes and the nodes in them go from an array into an object. -/
theorem export_covers_nested :
    ∃ copied moved other',
      (ofJson .builtin (.array [.object [("a", .null)], .bool true])).copyTo
        (ofJson .builtin (.object [])) ["..*"] = (.ok (), copied, other') ∧
      (ofJson .builtin (.array [.object [("a", .null)], .bool true])).moveTo
        (ofJson .builtin (.object [])) ["..*"] = (.ok (), moved, other') ∧
      other'.Covers [.index 0, .name "a"] (.scalar ⟨2, 0⟩ .null) := by
  have hreachable : ∀ {v : Json}, v.Distinct → (ofJson .builtin v).Reachable := .ofJson .builtin
  have hparse : Path.parse "..*" = .ok ⟨"..*", [⟨"*", .any, none, true⟩]⟩ := rfl
  obtain ⟨copied, moved, other', hcopy, hmove, -, hcovers⟩ := export_covers
    (t := ofJson .builtin (.array [.object [("a", .null)], .bool true]))
    (hreachable (by simp)) (hreachable (v := .object []) (by simp)) hparse
    (by rw [document_ofJson]; simp) fun _ h ↦ nomatch h.1
  exact ⟨copied, moved, other', hcopy, hmove, hcovers rfl (.inl (by decide))⟩

/-- A map and a sequence as the other root: the names of the one are no positions in the other, so
nothing is written, and what was to be moved is in neither tree. -/
theorem moveTo_map_to_sequence :
    (ofJson .builtin (.object [("a", .null)])).root.at? [.name "a"] =
        some (.scalar ⟨1, 0⟩ .null) ∧
      ((ofJson .builtin (.object [("a", .null)])).find "a").map Prod.fst = .ok [⟨1, 0⟩] ∧
      ((ofJson .builtin (.object [("a", .null)])).copyTo
        (ofJson .builtin (.array [])) ["a"]).2.2.document = .array [] ∧
      ((ofJson .builtin (.object [("a", .null)])).moveTo
        (ofJson .builtin (.array [])) ["a"]).2.1.document = .object [] ∧
      ((ofJson .builtin (.object [("a", .null)])).moveTo
        (ofJson .builtin (.array [])) ["a"]).2.2.document = .array [] ∧
      (Json.array []).at? [.name "a"] = none :=
  ⟨rfl, rfl, rfl, rfl, rfl, rfl⟩

end Tree

end DocPath

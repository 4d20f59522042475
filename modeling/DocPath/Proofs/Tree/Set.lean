import DocPath.Proofs.Tree.Document
import DocPath.Proofs.Tree.Reachable

/-!
# Setting what a path leads to

Matches are found first and given the value one after the other. A match below another one is
released when the outer one gets the value, and its slot can be used again for a part of the value:
but that part has a handle of a later generation, so nothing is written inside the value afterwards.
In the end every outermost match has the value, under its old handle and in its old place, and
nothing else in the document has changed (`set_matched`).
-/

namespace DocPath

namespace Node

/-! ### Another value at some nodes -/

mutual

/-- The value of a node with another value in place of those at some handles. -/
def overwrite (ids : List NodeId) (v : Json) : Node → Json
  | scalar i s => if i ∈ ids then v else .scalar s
  | sequence i items => if i ∈ ids then v else .array (overwriteItems ids v items)
  | map i entries => if i ∈ ids then v else .object (overwriteEntries ids v entries)

def overwriteItems (ids : List NodeId) (v : Json) : List Node → List Json
  | [] => []
  | n :: rest => n.overwrite ids v :: overwriteItems ids v rest

def overwriteEntries (ids : List NodeId) (v : Json) : List (String × Node) → List (String × Json)
  | [] => []
  | (k, n) :: rest => (k, n.overwrite ids v) :: overwriteEntries ids v rest

end

variable {n new : Node} {ids others : List NodeId} {id : NodeId} {v : Json}

theorem overwriteItems_eq (ids : List NodeId) (v : Json) (items : List Node) :
    overwriteItems ids v items = items.map (overwrite ids v) := by
  induction items with
  | nil => rfl
  | cons n rest ih => rw [overwriteItems, ih, List.map_cons]

theorem overwriteEntries_eq (ids : List NodeId) (v : Json) (entries : List (String × Node)) :
    overwriteEntries ids v entries = entries.map fun entry ↦ (entry.1, entry.2.overwrite ids v) := by
  induction entries with
  | nil => rfl
  | cons entry rest ih => rw [overwriteEntries, ih, List.map_cons]

theorem overwrite_of_mem (h : n.id ∈ ids) (v : Json) : n.overwrite ids v = v := by
  cases n <;> exact if_pos h

/-- A node whose handle is not among the handles is overwritten child by child. -/
theorem overwrite_mapChildren {f : Node → Node} (hid : n.id ∈ ids ↔ n.id ∈ others)
    (hc : n.id ∉ others → ∀ c ∈ n.childNodes, (f c).overwrite ids v = c.overwrite others v) :
    (n.mapChildren f).overwrite ids v = n.overwrite others v := by
  by_cases hmem : n.id ∈ others
  · rw [overwrite_of_mem hmem, overwrite_of_mem (by rw [id_mapChildren]; exact hid.2 hmem)]
  · replace hc := hc hmem
    have hmem' : n.id ∉ ids := fun h ↦ hmem (hid.1 h)
    cases n with
    | scalar i s =>
      rw [mapChildren, overwrite, overwrite, if_neg (show i ∉ ids from hmem'),
        if_neg (show i ∉ others from hmem)]
    | sequence i items =>
      rw [childNodes_sequence] at hc
      rw [mapChildren, overwrite, overwrite, if_neg (show i ∉ ids from hmem'),
        if_neg (show i ∉ others from hmem), overwriteItems_eq, overwriteItems_eq, List.map_map]
      exact congrArg Json.array (List.map_congr_left hc)
    | map i entries =>
      rw [childNodes_map] at hc
      rw [mapChildren, overwrite, overwrite, if_neg (show i ∉ ids from hmem'),
        if_neg (show i ∉ others from hmem), overwriteEntries_eq, overwriteEntries_eq, List.map_map]
      exact congrArg Json.object (List.map_congr_left fun e he ↦
        congrArg (Prod.mk e.1) (hc e.2 (List.mem_map_of_mem he)))

/-- Overwriting looks at the handles of the node only. -/
theorem overwrite_congr (h : ∀ i ∈ n.ids, i ∈ ids ↔ i ∈ others) :
    n.overwrite ids v = n.overwrite others v := by
  induction n using induction_children with
  | step n ih =>
    have hstep := overwrite_mapChildren (f := fun c ↦ c) (v := v) (h n.id n.id_mem_ids) fun _ c hc ↦
      ih c hc fun i hi ↦ h i (ids_subset_of_mem_childNodes hc hi)
    rwa [mapChildren_id] at hstep

theorem overwrite_nil (n : Node) (v : Json) : n.overwrite [] v = n.toJson := by
  induction n using induction_children with
  | step n ih =>
    cases n with
    | scalar i s => rw [toJson_scalar]; rfl
    | sequence i items =>
      rw [childNodes_sequence] at ih
      rw [overwrite, if_neg List.not_mem_nil, overwriteItems_eq, toJson_sequence,
        List.map_congr_left ih]
    | map i entries =>
      rw [childNodes_map] at ih
      rw [overwrite, if_neg List.not_mem_nil, overwriteEntries_eq, toJson_map]
      exact congrArg Json.object (List.map_congr_left fun e he ↦
        congrArg (Prod.mk e.1) (ih e.2 (List.mem_map_of_mem he)))

/-- A node with none of the handles keeps its value. -/
theorem overwrite_of_forall_notMem (h : ∀ i ∈ n.ids, i ∉ ids) (v : Json) :
    n.overwrite ids v = n.toJson := by
  rw [← n.overwrite_nil v]
  exact overwrite_congr fun i hi ↦ iff_of_false (h i hi) List.not_mem_nil

/-- Exchanging a node for one of the value is overwriting one more handle, if nothing is to be
overwritten inside the new node. -/
theorem overwrite_replace (hid : new.id = id) (hv : new.toJson = v)
    (hnew : ∀ i ∈ new.ids, i ∈ ids → i = id) (n : Node) :
    (replace id new n).overwrite ids v = n.overwrite (id :: ids) v := by
  induction n using induction_children with
  | step n ih =>
    by_cases heq : n.id = id
    · subst heq
      rw [replace_self, overwrite_of_mem (List.mem_cons_self ..)]
      by_cases hmem : n.id ∈ ids
      · exact overwrite_of_mem (hid ▸ hmem) v
      · rw [overwrite_of_forall_notMem fun i hi hi' ↦ hmem (hnew i hi hi' ▸ hi'), hv]
    · rw [replace_of_ne new heq]
      refine overwrite_mapChildren ?_ fun _ ↦ ih
      rw [List.mem_cons, or_iff_right heq]

end Node

namespace Tree

open Node (Context)

variable {t u : Tree} {id : NodeId} {ids : List NodeId} {m : Node} {v : Json} {c : Context}

/-! ### Writing to several nodes -/

theorem root_replaceWith_of_node? {n : Node} (hn : t.node? id = some n) (v : Json) :
    (t.replaceWith id v).root = Node.replace id
      (Node.build id v (t.slots.releaseAll n.releaseOrderBelow)).1 t.root := by
  rw [replaceWith_of_node? hn]
  rfl

/-- A node stays in its place when something that is not above it is written, and with that one
handle is overwritten. -/
theorem Sound.exists_fill_replaceWith (h : t.Sound) (hv : v.Distinct) (hseen : ∀ i ∈ ids, t.Seen i)
    (hw : (t.replaceWith id v).slots.Unwrapped) (hroot : t.root = Context.fill c m)
    (hfree : id ∉ Context.spine c) :
    ∃ c' m', (t.replaceWith id v).root = Context.fill c' m' ∧ m'.id = m.id ∧
      Context.spine c' = Context.spine c ∧ Context.keys c' = Context.keys c ∧
      m'.overwrite ids v = m.overwrite (id :: ids) v := by
  cases hn : t.node? id with
  | none =>
    -- a handle that is not live is none of the document
    have hgone : id ∉ m.ids := fun hmem ↦ node?_eq_none.1 hn
      (mem_ids_of_mem_root (hroot ▸ Context.mem_ids_fill.2 (.inr hmem)))
    have hsame : m.overwrite (id :: ids) v = m.overwrite ids v :=
      Node.overwrite_congr fun i hi ↦ by
        rw [List.mem_cons, or_iff_right]
        rintro rfl
        exact hgone hi
    rw [replaceWith_of_none hn]
    exact ⟨c, m, hroot, rfl, rfl, rfl, hsame.symm⟩
  | some n =>
    have hreplaced := root_replaceWith_of_node? hn v
    have hbuild : ∀ k, t.Seen k →
        k ∈ (Node.build id v (t.slots.releaseAll n.releaseOrderBelow)).1.ids → k = id :=
      fun k hk ↦ h.eq_of_mem_build hn hv hw hk
    have hnew : (Node.build id v (t.slots.releaseAll n.releaseOrderBelow)).1.id = id :=
      Node.id_build ..
    have hvalue :
        (Node.build id v (t.slots.releaseAll n.releaseOrderBelow)).1.toJson = v :=
      Node.toJson_build ..
    generalize (Node.build id v _).1 = new at hreplaced hbuild hnew hvalue
    obtain ⟨c', hspine, hkeys, hfill⟩ := Context.replace_fill_of_notMem_spine hfree m new
    rw [hroot, hfill] at hreplaced
    exact ⟨c', _, hreplaced, Node.id_replace hnew m, hspine, hkeys,
      Node.overwrite_replace hnew hvalue (fun i hi hi' ↦ hbuild i (hseen i hi') hi) m⟩

/-- A node above which nothing is written stays in its place, and what was written at it and below
it overwrites its old value. -/
theorem Sound.exists_fill_replaceEach (h : t.Sound) (hv : v.Distinct)
    (hseen : ∀ i ∈ ids, t.Seen i) (hw : (t.replaceEach ids v).slots.Unwrapped)
    (hroot : t.root = Context.fill c m) (hspine : ∀ i ∈ ids, i ∉ Context.spine c) :
    ∃ c' m', (t.replaceEach ids v).root = Context.fill c' m' ∧ m'.id = m.id ∧
      Context.spine c' = Context.spine c ∧ Context.keys c' = Context.keys c ∧
      m'.toJson = m.overwrite ids v := by
  induction ids generalizing t c m with
  | nil => exact ⟨c, m, hroot, rfl, rfl, rfl, (m.overwrite_nil v).symm⟩
  | cons id rest ih =>
    obtain ⟨-, hseen⟩ := List.forall_mem_cons.1 hseen
    obtain ⟨hfree, hspine⟩ := List.forall_mem_cons.1 hspine
    have hl : t.Leads (t.replaceWith id v) := .single (.replaceWith t id hv)
    obtain ⟨c₁, m₁, hroot₁, hid₁, hspine₁, hkeys₁, hm₁⟩ := h.exists_fill_replaceWith hv hseen
      ((leads_replaceEach _ rest hv).le_slots.unwrapped hw) hroot hfree
    obtain ⟨c', m', hroot', hid', hspine', hkeys', hm'⟩ := ih (hl.sound h)
      (fun i hi ↦ hl.seen h (hseen i hi)) hw hroot₁ (hspine₁ ▸ hspine)
    exact ⟨c', m', hroot', hid'.trans hid₁, hspine'.trans hspine₁, hkeys'.trans hkeys₁,
      hm'.trans hm₁⟩

/-! ### The outermost nodes -/

/-- In the document only the outermost of some handles decide what is overwritten. -/
theorem Sound.overwrite_outermost (h : t.Sound) (ids : List NodeId) (v : Json)
    (hroot : t.root = Context.fill c m) (hspine : ∀ i ∈ Context.spine c, i ∉ ids) :
    m.overwrite (t.outermost ids) v = m.overwrite ids v := by
  induction m using Node.induction_children generalizing c with
  | step m ih =>
    have hself : m.id ∈ t.outermost ids ↔ m.id ∈ ids := by
      rw [mem_outermost, h.ancestors_root hroot]
      exact and_iff_left fun a ha ↦ hspine a (List.mem_reverse.1 ha)
    have hstep := Node.overwrite_mapChildren (f := fun d ↦ d) (v := v) hself fun hid d hd ↦ by
      obtain ⟨key, hkey⟩ := Node.mem_childNodes.1 hd
      obtain ⟨f, rfl, -⟩ := Node.exists_frame hkey
      have hplace : t.root = Context.fill (c ++ [f]) d := by
        rw [hroot, Context.fill_append]
        rfl
      refine ih d hd hplace fun i hi ↦ ?_
      rw [Context.spine_append, List.mem_append] at hi
      rcases hi with hi | hi
      · exact hspine i hi
      · rw [Node.Frame.id_fill] at hid
        rwa [List.mem_singleton.1 hi]
    rwa [Node.mapChildren_id] at hstep

/-- The key of a node of the document is the last one of those that lead to its place. -/
theorem Sound.key?_root (h : t.Sound) (hroot : t.root = Context.fill c m) :
    t.key? m.id = (Context.keys c).getLast? := by
  rw [key?, lastStep?, h.trail_root hroot, ← List.getLast?_map, Context.map_key_steps]

/-- The parent of a node of the document is the innermost container around its place. -/
theorem Sound.parent?_root (h : t.Sound) (hroot : t.root = Context.fill c m) :
    t.parent? m.id = (Context.spine c).getLast? := by
  rw [parent?, lastStep?, h.trail_root hroot, ← List.getLast?_map, Context.map_parent_steps]

/-! ### One path -/

/-- The handles of the nodes of the document that a path leads to. -/
def matched (t : Tree) (p : Path) : List NodeId :=
  (t.attached (t.findPath p).1).map Node.id

theorem mem_matched {p : Path} :
    id ∈ t.matched p ↔ id ∈ (t.findPath p).1 ∧ id ∈ t.root.ids := by
  constructor
  · intro h
    refine ⟨?_, mem_root_of_attached h⟩
    obtain ⟨m, hm, rfl⟩ := List.mem_map.1 h
    exact (mem_attached.1 hm).1
  · rintro ⟨hfound, hid⟩
    obtain ⟨m, hm⟩ := Node.exists_find? hid
    obtain rfl := Node.id_of_find? hm
    exact List.mem_map_of_mem (mem_attached.2 ⟨hfound, hm⟩)

/-- Setting what a path leads to exchanges the values of the outermost nodes of the document that it
leads to, and nothing else. Each of these nodes keeps its handle, its key and its parent and has the
value, whatever the path leads to below it. -/
theorem set_matched (ht : t.Reachable) {raw : String} {p : Path} (hp : Path.parse raw = .ok p)
    (hv : v.Distinct) (hw : (t.set [(raw, v)]).2.slots.Unwrapped) :
    ∃ t', t.set [(raw, v)] = (.ok (), t') ∧
      t'.document = t.root.overwrite (t.outermost (t.matched p)) v ∧
      ∀ id ∈ t.outermost (t.matched p), ∃ n, t'.root.find? id = some n ∧ n.toJson = v ∧
        t'.key? id = t.key? id ∧ t'.parent? id = t.parent? id := by
  have h := ht.sound
  have hroot := t.root_findPath p
  have hl := leads_findPath hp h
  have hseen := h.seen_of_mem_findPath (Path.wellFormed_of_parse hp)
  have hset := set_singleton (t := t) hp v
  rw [hset] at hw
  have hsound : ((t.findPath p).2.replaceEach (t.findPath p).1 v).Sound :=
    (leads_replaceEach _ _ hv).sound (hl.sound h)
  -- of what is found, only what is in the document has an effect there
  have hmatched : ∀ i ∈ t.root.ids, i ∈ (t.findPath p).1 ↔ i ∈ t.matched p := fun i hi ↦ by
    rw [mem_matched, and_iff_left hi]
  refine ⟨_, hset, ?_, fun id hid ↦ ?_⟩
  · obtain ⟨c', m', hroot', -, hspine, -, hvalue⟩ := (hl.sound h).exists_fill_replaceEach hv hseen hw
      (c := []) rfl fun _ _ ↦ List.not_mem_nil
    obtain rfl : c' = [] := List.map_eq_nil_iff.1 hspine
    rw [document, hroot', Context.fill_nil, hvalue, hroot, Node.overwrite_congr hmatched,
      h.overwrite_outermost (c := []) _ v rfl (List.forall_mem_nil _)]
  · obtain ⟨hid, hfree⟩ := mem_outermost.1 hid
    obtain ⟨hfound, hmem⟩ := mem_matched.1 hid
    obtain ⟨m, hm, rfl⟩ := Node.mem_ids_iff_eq_or_mem_descendants.1 hmem
    obtain ⟨c, hc⟩ := Node.exists_fill_of_mem hm
    have hspine : ∀ i ∈ (t.findPath p).1, i ∉ Context.spine c := fun i hi hmem ↦ by
      have hi' := hc ▸ Context.spine_subset_ids_fill c m hmem
      refine hfree i ?_ ((hmatched i hi').1 hi)
      rwa [h.ancestors_root hc, List.mem_reverse]
    obtain ⟨c', m', hroot', hid', hspine', hkeys, hvalue⟩ :=
      (hl.sound h).exists_fill_replaceEach hv hseen hw (hroot.trans hc) hspine
    rw [Node.overwrite_of_mem hfound] at hvalue
    refine ⟨m', ?_, hvalue, ?_, ?_⟩
    · rw [← hid']
      exact Node.find?_of_mem hsound.nodup_ids_root (hroot' ▸ Context.mem_fill c' m')
    · rw [← hid', hsound.key?_root hroot', hkeys, hid', h.key?_root hc]
    · rw [← hid', hsound.parent?_root hroot', hspine', hid', h.parent?_root hc]

/-- A match inside another one, and a value that has matches itself. -/
theorem set_matched_nested :
    ((ofJson .builtin (.array [.object [("a", .object [("a", .null)])], .null])).set
        [("..a", .object [("a", .bool true)])]).2.document =
      .array [.object [("a", .object [("a", .bool true)])], .null] := by
  have hreachable : (ofJson .builtin
      (.array [.object [("a", .object [("a", .null)])], .null])).Reachable := .ofJson _ (by simp)
  have hparse : Path.parse "..a" = .ok ⟨"..a", [⟨"a", .key "a", none, true⟩]⟩ := rfl
  obtain ⟨t', hset, hdocument, -⟩ := set_matched (v := .object [("a", .bool true)]) hreachable hparse
    (by simp) (by decide)
  rw [hset, hdocument]
  rfl

end Tree

end DocPath

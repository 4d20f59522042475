import DocPath.Proofs.Arena.Edit

/-!
# Arenas that can come up

`Arena.Reachable` arenas are those that the operations leave behind, in any order and with any
arguments, beginning with the arena of a document, as long as the slots can be numbered in 32 bits.
Handles are arbitrary: an operation may be given one that is stale or that was never a handle of the
arena.

Such an arena is that of a sound tree (`exists_tree_of_reachable`), since every operation ends in the
arena of a tree to which elementary changes lead (`Step.follows`). So what is stored fits
together: nodes are listed where their links to parents say, and the keys, the free slots and the
scratch nodes are in order.

* `total_of_reachable` — every operation ends
* `Consistent` — entries, links, lists and slots fit together
* `consistent_of_reachable` — the invariant of all operations
-/

namespace DocPath

open DocPath.Tree (DistinctValues)
open DocPath.Path (Segment)

namespace Arena

/-- The slots can be numbered in 32 bits. -/
def Fits (A : Arena) : Prop :=
  A.entries.size < 0x100000000

/-- An operation on one arena that ends. -/
inductive Step (A : Arena) : Arena → Prop
  | find {path : String} {found : List NodeId × Arena} (h : A.find path = some (.ok found)) :
    Step A found.2
  | findValues {path : String} {found : List Json × Arena}
    (h : A.findValues path = some (.ok found)) : Step A found.2
  | findFrom {p : Path} (hp : ∀ s ∈ p.segments, s.selector.WellFormed) {start : NodeId}
    {found : List NodeId × Arena} (h : A.findFrom p start = some found) : Step A found.2
  | collect {s : Segment} (hs : s.selector.WellFormed) {id : NodeId}
    {found : List NodeId × Arena} (h : A.collect s id = some found) : Step A found.2
  | evaluates {s : Segment} {id : NodeId} {accepted : Bool × Arena}
    (h : A.evaluates s id = some accepted) : Step A accepted.2
  | set {entries : List (String × Json)} (hv : DistinctValues entries)
    {done : Except PathError Unit × Arena} (h : A.set entries = some done) : Step A done.2
  | bridge {entries : List (String × Json)} (hv : DistinctValues entries)
    {done : Except PathError Unit × Arena} (h : A.bridge entries = some done) : Step A done.2
  | transfer {all moving : Bool} {entries : List (String × String)}
    {done : Except PathError Unit × Arena} (h : A.transfer all moving entries = some done) :
    Step A done.2
  | delete {paths : List String} {done : Except PathError Nat × Arena}
    (h : A.delete paths = some done) : Step A done.2
  | kill {id : NodeId} {done : Bool × Arena} (h : A.kill id = some done) : Step A done.2
  | adopt {v : Json} (hv : v.Distinct) : Step A (A.adopt v).2
  | replaceWith {id : NodeId} {v : Json} (hv : v.Distinct) {B : Arena}
    (h : A.replaceWith id v = some B) : Step A B
  | insertChild {id : NodeId} {key : Key} {v : Json} (hv : v.Distinct)
    {done : Option NodeId × Arena} (h : A.insertChild id key v = some done) : Step A done.2
  | deleteChild {id : NodeId} {key : Key} {done : Option Json × Arena}
    (h : A.deleteChild id key = some done) : Step A done.2
  | takeLog : Step A A.takeLog.2

/-- The arenas that the operations make from arenas of documents. -/
inductive Reachable : Arena → Prop
  | ofJson (registry : Registry) {v : Json} (hv : v.Distinct) (hfits : (ofJson registry v).Fits) :
    Reachable (ofJson registry v)
  | step {A B : Arena} (hA : Reachable A) (h : Step A B) (hfits : B.Fits) : Reachable B
  | exportFrom {A other : Arena} (hA : Reachable A) (hother : Reachable other) {moving : Bool}
    {paths : List String} {r : Except PathError Unit} {A' other' : Arena}
    (h : exportAll moving A other paths = some (r, A', other')) (hfits : A'.Fits)
    (hfits' : other'.Fits) : Reachable A'
  | exportTo {A other : Arena} (hA : Reachable A) (hother : Reachable other) {moving : Bool}
    {paths : List String} {r : Except PathError Unit} {A' other' : Arena}
    (h : exportAll moving A other paths = some (r, A', other')) (hfits : A'.Fits)
    (hfits' : other'.Fits) : Reachable other'

/-! ### Trees in arenas -/

variable {A B : Arena} {t : Tree} {id p : NodeId}

/-- The arena is that of a tree to which changes lead from a given one, and which the operations on
trees reach from there as long as it is regular. -/
def Follows (t : Tree) (A : Arena) : Prop :=
  ∃ t', t'.arena = A ∧ t.Leads t' ∧ (t'.Regular → t.Reachable → t'.Reachable)

theorem follows_of_gives {α : Type} {done : Option (α × Arena)} {result : α × Tree}
    (h : t.Gives done result) (hreachable : t.Reachable → result.2.Reachable) {r : α × Arena}
    (hr : done = some r) : Follows t r.2 := by
  obtain ⟨a, t', hdone, hl, heq⟩ := h
  obtain rfl : (a, t'.arena) = r := Option.some.inj (hdone.symm.trans hr)
  refine ⟨t', rfl, hl, fun hreg ht ↦ ?_⟩
  have hresult := hreachable ht
  rwa [← heq hreg] at hresult

/-- One operation in the arena of a sound tree. -/
theorem Step.follows (h : Step t.arena B) (ht : t.Sound) : Follows t B := by
  cases h with
  | @find path found h =>
    rw [ht.find_arena] at h
    cases hfind : t.find path with
    | error e => rw [hfind] at h; cases h
    | ok result =>
      rw [hfind] at h
      obtain rfl : (result.1, result.2.arena) = found := Except.ok.inj (Option.some.inj h)
      exact ⟨result.2, rfl, Tree.leads_find hfind ht, fun _ hr ↦ hr.find hfind⟩
  | @findValues path found h =>
    rw [ht.findValues_arena] at h
    cases hfind : t.findValues path with
    | error e => rw [hfind] at h; cases h
    | ok result =>
      rw [hfind] at h
      obtain rfl : (result.1, result.2.arena) = found := Except.ok.inj (Option.some.inj h)
      exact ⟨result.2, rfl, Tree.leads_findValues hfind ht, fun _ hr ↦ hr.findValues hfind⟩
  | @findFrom p hp start found h =>
    rw [ht.findFrom_arena hp] at h
    obtain rfl := Option.some.inj h
    exact ⟨_, rfl, Tree.leads_findFrom hp ht start, fun _ hr ↦ hr.findFrom hp start⟩
  | @collect s hs id found h =>
    obtain ⟨found', t', hdone, hcollected⟩ := ht.exists_collect_arena hs id
    obtain rfl : (found', t'.arena) = found := Option.some.inj (hdone.symm.trans h)
    exact ⟨t', rfl, hcollected.leads, fun _ hr ↦ hcollected.reachable hr⟩
  | @evaluates s id accepted h =>
    rw [ht.evaluates_arena] at h
    obtain rfl := Option.some.inj h
    exact ⟨_, rfl, Tree.leads_evaluates s t id, fun _ hr ↦ hr.evaluates s id⟩
  | set hv h => exact follows_of_gives (ht.gives_set hv) (·.set hv) h
  | bridge hv h => exact follows_of_gives (ht.gives_bridge hv) (·.bridge hv) h
  | @transfer all moving entries done h =>
    exact follows_of_gives (ht.gives_transfer all moving entries)
      (·.transfer all moving entries) h
  | @delete paths done h => exact follows_of_gives (ht.gives_delete paths) (·.delete paths) h
  | @kill id done h => exact follows_of_gives (ht.gives_kill id) (·.kill id) h
  | adopt hv =>
    rw [ht.adopt_arena]
    exact ⟨_, rfl, .single (.adopt t hv), fun _ hr ↦ hr.adopt hv⟩
  | @replaceWith id v hv B h =>
    rw [ht.replaceWith_arena] at h
    obtain rfl := Option.some.inj h
    exact ⟨_, rfl, .single (.replaceWith t id hv), fun _ hr ↦ hr.replaceWith id hv⟩
  | @insertChild id key v hv done h =>
    rw [ht.insertChild_arena] at h
    obtain rfl := Option.some.inj h
    exact ⟨_, rfl, Tree.leads_insertChild t id key hv, fun _ hr ↦ hr.insertChild id key hv⟩
  | @deleteChild id key done h =>
    rw [ht.deleteChild_arena] at h
    obtain rfl := Option.some.inj h
    exact ⟨_, rfl, .single (.deleteChild t id key), fun _ hr ↦ hr.deleteChild id key⟩
  | takeLog => exact ⟨t.takeLog.2, rfl, .single (.takeLog t), fun _ hr ↦ hr.takeLog⟩

/-- Whatever was done with an arena, it is that of a sound tree, and one that the operations on trees
reach as long as it is regular. -/
theorem exists_tree_of_reachable (h : A.Reachable) :
    ∃ t : Tree, t.arena = A ∧ t.Sound ∧ (t.Regular → t.Reachable) := by
  induction h with
  | @ofJson registry v hv hfits =>
    exact ⟨_, (Tree.arena_ofJson registry v).symm, Tree.sound_ofJson registry hv,
      fun _ ↦ .ofJson registry hv⟩
  | step hA h hfits ih =>
    obtain ⟨t, rfl, ht, hreachable⟩ := ih
    obtain ⟨t', rfl, hl, hstep⟩ := h.follows ht
    exact ⟨t', rfl, hl.sound ht, fun hreg ↦ hstep hreg (hreachable (hl.regular hreg))⟩
  | exportFrom hA hother h hfits hfits' ih ihother =>
    obtain ⟨t, rfl, ht, hreachable⟩ := ih
    obtain ⟨other, rfl, hother, -⟩ := ihother
    obtain ⟨r, t', other', hdone, hex⟩ := ht.exists_exportAll_arena hother _ _
    obtain ⟨-, rfl, -⟩ := by simpa using hdone.symm.trans h
    exact ⟨t', rfl, hex.leads.sound ht, fun hreg ↦
      hex.reachable hreg (hreachable (hex.leads.regular hreg))⟩
  | exportTo hA hother h hfits hfits' ih ihother =>
    obtain ⟨t, rfl, ht, -⟩ := ih
    obtain ⟨other, rfl, hother, hreachable⟩ := ihother
    obtain ⟨r, t', other', hdone, hex⟩ := ht.exists_exportAll_arena hother _ _
    obtain ⟨-, -, rfl⟩ := by simpa using hdone.symm.trans h
    exact ⟨other', rfl, hex.leads_other.sound hother, fun hreg ↦
      hex.reachable_other hreg (hreachable (hex.leads_other.regular hreg))⟩

/-! ### Operations end -/

/-- Every operation on an arena ends, whatever it is given. -/
structure Total (A : Arena) : Prop where
  find : ∀ path, (A.find path).isSome
  findValues : ∀ path, (A.findValues path).isSome
  findFrom : ∀ {p : Path}, (∀ s ∈ p.segments, s.selector.WellFormed) → ∀ start,
    (A.findFrom p start).isSome
  collect : ∀ {s : Segment}, s.selector.WellFormed → ∀ id, (A.collect s id).isSome
  evaluates : ∀ s id, (A.evaluates s id).isSome
  set : ∀ {entries}, DistinctValues entries → (A.set entries).isSome
  bridge : ∀ {entries}, DistinctValues entries → (A.bridge entries).isSome
  transfer : ∀ all moving entries, (transfer all moving A entries).isSome
  delete : ∀ paths, (A.delete paths).isSome
  kill : ∀ id, (A.kill id).isSome
  replaceWith : ∀ id v, (A.replaceWith id v).isSome
  insertChild : ∀ id key v, (A.insertChild id key v).isSome
  deleteChild : ∀ id key, (A.deleteChild id key).isSome
  exportAll : ∀ {other : Arena}, other.Reachable → ∀ moving paths,
    (exportAll moving A other paths).isSome

theorem isSome_of_gives {α : Type} {done : Option (α × Arena)} {result : α × Tree}
    (h : t.Gives done result) : done.isSome := by
  obtain ⟨a, t', rfl, -⟩ := h
  rfl

/-- No operation on an arena that comes up goes on without end. -/
theorem total_of_reachable (h : A.Reachable) : A.Total := by
  obtain ⟨t, rfl, ht, -⟩ := exists_tree_of_reachable h
  constructor
  case find => exact fun path ↦ ht.find_arena path ▸ rfl
  case findValues => exact fun path ↦ ht.findValues_arena path ▸ rfl
  case findFrom => exact fun hp start ↦ ht.findFrom_arena hp start ▸ rfl
  case collect =>
    intro s hs id
    obtain ⟨found, t', hdone, -⟩ := ht.exists_collect_arena hs id
    exact hdone ▸ rfl
  case evaluates => exact fun s id ↦ ht.evaluates_arena s id ▸ rfl
  case set => exact fun hv ↦ isSome_of_gives (ht.gives_set hv)
  case bridge => exact fun hv ↦ isSome_of_gives (ht.gives_bridge hv)
  case transfer =>
    exact fun all moving entries ↦ isSome_of_gives (ht.gives_transfer all moving entries)
  case delete => exact fun paths ↦ isSome_of_gives (ht.gives_delete paths)
  case kill => exact fun id ↦ isSome_of_gives (ht.gives_kill id)
  case replaceWith => exact fun id v ↦ ht.replaceWith_arena id v ▸ rfl
  case insertChild => exact fun id key v ↦ ht.insertChild_arena id key v ▸ rfl
  case deleteChild => exact fun id key ↦ ht.deleteChild_arena id key ▸ rfl
  case exportAll =>
    intro other hother moving paths
    obtain ⟨other, rfl, hother, -⟩ := exists_tree_of_reachable hother
    obtain ⟨r, t', other', hdone, -⟩ := ht.exists_exportAll_arena hother moving paths
    exact hdone ▸ rfl

/-! ### What fits together -/

/-- Entries, links to parents, lists of children, free slots and scratch nodes fit together. -/
structure Consistent (A : Arena) : Prop where
  /-- The root is live and has no link to a parent. -/
  root : A.contains A.root ∧ A.parent? A.root = none
  /-- A node that is listed is live, and links to the node that lists it. -/
  child : ∀ {id c : NodeId} {key : Key}, (key, c) ∈ A.children id →
    A.contains c ∧ A.parent? c = some id
  /-- A node that links to another one is listed there, once. -/
  listed : ∀ {id p : NodeId}, A.parent? id = some p →
    A.contains p ∧ ((A.children p).map Prod.snd).count id = 1
  /-- The children of a sequence have their positions as keys. -/
  sequence : ∀ {id : NodeId}, A.kind? id = some .sequence →
    (A.children id).map Prod.fst = (List.range (A.children id).length).map Key.index
  /-- The children of a map have names, no two of them the same. -/
  map : ∀ {id : NodeId}, A.kind? id = some .map →
    ∃ names : List String, names.Nodup ∧ (A.children id).map Prod.fst = names.map Key.name
  /-- A scalar has no children. -/
  scalar : ∀ {id : NodeId}, A.kind? id = some .scalar → A.children id = []
  /-- Links to parents do not go round in a circle. -/
  acyclic : WellFounded fun parent child ↦ A.parent? child = some parent
  /-- So what follows them comes to an end, from any handle. -/
  ends : ∀ id, (A.ancestors id).isSome ∧ (A.rootOf id).isSome ∧ (A.absolutePath id).isSome ∧
    (A.kill id).isSome
  /-- The free slots are the empty ones, each listed once. -/
  free : A.free.Nodup ∧ ∀ slot, slot ∈ A.free ↔
    ∃ entry, A.entries[slot]? = some entry ∧ entry.cell = none
  /-- The scratch nodes are different, live, without parents, and none of them is the root. -/
  scratch : A.scratch.Nodup ∧ ∀ id ∈ A.scratch,
    A.contains id ∧ A.parent? id = none ∧ id ≠ A.root

end Arena

/-- The arena of a tree has a slot for each of its slots. -/
theorem Tree.fits_arena {t : Tree} : t.arena.Fits ↔ t.slots.size < 0x100000000 := by
  have hsize : t.arena.entries.size = t.slots.size := Array.size_ofFn
  rw [Arena.Fits, hsize]

namespace Tree.Sound

variable {t : Tree} {id p c : NodeId} {key : Key}

theorem children_arena_of_kind? (h : t.Sound) {kind : Kind} (hkind : t.arena.kind? id = some kind) :
    ∃ n, t.node? id = some n ∧ n.kind = kind ∧ t.arena.children id = n.listing := by
  rw [h.kind?_arena] at hkind
  obtain ⟨n, hn, hkind⟩ := Option.map_eq_some_iff.1 hkind
  exact ⟨n, hn, hkind, (h.children_arena id).trans (listing_of_node? hn)⟩

/-- In the arena of a sound tree, the slots without a cell are the free ones. -/
theorem mem_free_arena (h : t.Sound) (slot : Nat) : slot ∈ t.arena.free ↔
    ∃ entry, t.arena.entries[slot]? = some entry ∧ entry.cell = none := by
  have hfree : slot ∈ t.arena.free ↔ slot ∈ t.slots.free := Iff.rfl
  rw [hfree, h.handles.mem_free, arena, Arena.getElem?_withCells]
  by_cases hlt : slot < t.slots.size
  · have hempty : t.cells.lookup (t.slots.current slot) = none ↔ t.slots.current slot ∉ t.ids := by
      rw [← map_fst_cells]
      refine ⟨fun hnone hmem ↦ ?_, Arena.lookup_eq_none⟩
      obtain ⟨⟨i, c⟩, hentry, rfl⟩ := List.mem_map.1 hmem
      rw [(Arena.lookup_eq_some_iff h.holds_cells.nodup).2 hentry] at hnone
      cases hnone
    have hunused : (∀ id ∈ t.ids, id.slot ≠ slot) ↔ t.slots.current slot ∉ t.ids := by
      refine ⟨fun hne hmem ↦ hne _ hmem rfl, fun hnot id hid heq ↦ hnot ?_⟩
      rw [← heq, h.handles.current id hid]
      exact hid
    simp [hlt, hempty, hunused]
  · simp [hlt]

theorem consistent_arena (h : t.Sound) : t.arena.Consistent := by
  have hroot : t.arena.root = t.root.id := rfl
  constructor
  case root =>
    rw [hroot, h.contains_arena, h.parent?_arena, contains_iff]
    exact ⟨t.root_id_mem_ids, h.parent?_of_mem_tops t.root_mem_tops⟩
  case child =>
    intro id c key hmem
    rw [h.children_arena, h.mem_listing_iff] at hmem
    obtain ⟨n, key, d, hn, hd, rfl⟩ := h.exists_of_parent? hmem.1
    rw [h.contains_arena, h.parent?_arena, contains_iff]
    exact ⟨mem_ids_of_node? (h.node?_child hn hd).1, hmem.1⟩
  case listed =>
    intro id p hp
    rw [h.parent?_arena] at hp
    obtain ⟨n, key, d, hn, hd, rfl⟩ := h.exists_of_parent? hp
    rw [h.contains_arena, h.children_arena, contains_iff]
    exact ⟨mem_ids_of_node? hn, List.count_eq_one_of_mem (h.nodup_map_snd_listing p)
      (List.mem_map_of_mem (h.mem_listing_iff.2 ⟨hp, h.key?_child hn hd⟩))⟩
  case sequence =>
    intro id hkind
    obtain ⟨n, -, hkind, hchildren⟩ := h.children_arena_of_kind? hkind
    rw [hchildren, Node.map_fst_listing, Node.length_listing]
    exact Node.map_fst_children_of_sequence hkind
  case map =>
    intro id hkind
    obtain ⟨n, hn, hkind, hchildren⟩ := h.children_arena_of_kind? hkind
    cases n with
    | scalar i s => cases hkind
    | sequence i items => cases hkind
    | map i entries =>
      have hd := h.distinct_of_node? hn
      rw [Node.toJson_map, Json.distinct_object, List.map_map] at hd
      exact ⟨entries.map Prod.fst, hd.1, by simp [hchildren, Node.listing_map]⟩
  case scalar =>
    intro id hkind
    obtain ⟨n, -, hkind, hchildren⟩ := h.children_arena_of_kind? hkind
    rw [hchildren]
    cases n with
    | scalar i s => rfl
    | sequence i items => cases hkind
    | map i entries => cases hkind
  case acyclic =>
    simp only [h.parent?_arena]
    exact h.wellFounded_parent
  case ends =>
    intro id
    rw [h.ancestors_arena, h.rootOf_arena, h.absolutePath_arena, h.killByKeys_arena]
    exact ⟨rfl, rfl, rfl, rfl⟩
  case free => exact ⟨h.handles.nodup_free, h.mem_free_arena⟩
  case scratch =>
    have hscratch : t.arena.scratch = t.scratch.map Node.id := rfl
    have hnodup := h.nodup_map_id_tops
    rw [tops, List.map_cons, List.map_append, List.nodup_cons] at hnodup
    rw [hscratch, hroot]
    refine ⟨(List.nodup_append.1 hnodup.2).2.1, List.forall_mem_map.2 fun n hn ↦ ?_⟩
    have hmem : n ∈ t.tops := List.mem_cons_of_mem _ (List.mem_append_right _ hn)
    rw [h.contains_arena, h.parent?_arena, contains_iff]
    refine ⟨mem_ids_of_node? (h.node?_of_mem_tops hmem), h.parent?_of_mem_tops hmem,
      fun heq ↦ hnodup.1 ?_⟩
    exact heq ▸ List.mem_append_right _ (List.mem_map_of_mem hn)

end Tree.Sound

namespace Arena

/-- Whatever was done with an arena, what is stored in it fits together. -/
theorem consistent_of_reachable {A : Arena} (h : A.Reachable) : A.Consistent := by
  obtain ⟨t, rfl, ht, -⟩ := exists_tree_of_reachable h
  exact ht.consistent_arena

/-- An arena in which a slot has become free. -/
theorem consistent_of_reachable_kill :
    ∃ A, (ofJson .empty (.array [.null, .array []])).kill ⟨2, 0⟩ = some (true, A) ∧
      A.free = [2] ∧ A.Consistent := by
  have ht : (Tree.ofJson .empty (.array [.null, .array []])).Sound :=
    Tree.sound_ofJson _ (by simp)
  have hkill := ht.kill_arena (by decide) ⟨2, 0⟩
  rw [← Tree.arena_ofJson] at hkill
  refine ⟨_, hkill, by decide, consistent_of_reachable (.step (.ofJson _ (by simp) ?_) (.kill hkill)
    ?_)⟩
  · rw [Tree.arena_ofJson, Tree.fits_arena]
    decide
  · rw [Tree.fits_arena]
    decide

end Arena

end DocPath

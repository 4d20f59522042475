import DocPath.Proofs.Node.Children
import DocPath.Proofs.Node.Build
import Mathlib.Data.List.Forall2
import Mathlib.Logic.Equiv.Basic

/-!
# Nodes under other handles

Handles are arbitrary: nothing that is done with a node depends on which handles its parts have,
only on which of them are the same. A `Renaming` exchanges handles for others, one for one, and
everything commutes with it: keys and values stay (`toJson_rename`, `child?_rename`), and searching,
replacing and erasing by handle are done by the new handle (`find?_rename`, `replace_rename`,
`erase_rename`).

Two lists of nodes that show the same values are renamings of each other (`exists_rename`), and the
renaming can be had from any given one by changing it at the handles of these nodes only.
-/

namespace DocPath

/-- An exchange of handles for others, one for one. -/
abbrev Renaming := Equiv.Perm NodeId

namespace Node

mutual

/-- The node with every handle exchanged. -/
def rename (σ : Renaming) : Node → Node
  | scalar i s => scalar (σ i) s
  | sequence i items => sequence (σ i) (renameItems σ items)
  | map i entries => map (σ i) (renameEntries σ entries)

def renameItems (σ : Renaming) : List Node → List Node
  | [] => []
  | n :: rest => n.rename σ :: renameItems σ rest

def renameEntries (σ : Renaming) : List (String × Node) → List (String × Node)
  | [] => []
  | (k, n) :: rest => (k, n.rename σ) :: renameEntries σ rest

end

variable {σ τ : Renaming} {n m : Node} {id : NodeId}

theorem renameItems_eq (σ : Renaming) (items : List Node) :
    renameItems σ items = items.map (rename σ) := by
  induction items with
  | nil => rfl
  | cons n rest ih => simp [renameItems, ih]

theorem renameEntries_eq (σ : Renaming) (entries : List (String × Node)) :
    renameEntries σ entries = entries.map fun entry ↦ (entry.1, entry.2.rename σ) := by
  induction entries with
  | nil => rfl
  | cons entry rest ih => simp [renameEntries, ih]

@[simp] theorem rename_scalar (σ : Renaming) (i : NodeId) (s : Scalar) :
    (scalar i s).rename σ = scalar (σ i) s := by
  rw [rename]

@[simp] theorem rename_sequence (σ : Renaming) (i : NodeId) (items : List Node) :
    (sequence i items).rename σ = sequence (σ i) (items.map (rename σ)) := by
  rw [rename, renameItems_eq]

@[simp] theorem rename_map (σ : Renaming) (i : NodeId) (entries : List (String × Node)) :
    (map i entries).rename σ =
      map (σ i) (entries.map fun entry ↦ (entry.1, entry.2.rename σ)) := by
  rw [rename, renameEntries_eq]

/-! ### What can be seen -/

@[simp] theorem id_rename (σ : Renaming) (n : Node) : (n.rename σ).id = σ n.id := by
  cases n <;> simp [id]

@[simp] theorem kind_rename (σ : Renaming) (n : Node) : (n.rename σ).kind = n.kind := by
  cases n <;> simp [kind]

@[simp] theorem children_rename (σ : Renaming) (n : Node) :
    (n.rename σ).children = n.children.map fun child ↦ (child.1, child.2.rename σ) := by
  cases n <;> simp [children, List.zipIdx_map, Function.comp_def]

@[simp] theorem childNodes_rename (σ : Renaming) (n : Node) :
    (n.rename σ).childNodes = n.childNodes.map (rename σ) := by
  simp [childNodes, Function.comp_def]

@[simp] theorem hasChildren_rename (σ : Renaming) (n : Node) :
    (n.rename σ).hasChildren = n.hasChildren := by
  simp [hasChildren]

/-- A renamed node has the same value. -/
@[simp] theorem toJson_rename (σ : Renaming) (n : Node) : (n.rename σ).toJson = n.toJson := by
  induction n using induction_children with
  | step n ih =>
    cases n with
    | scalar i s => simp
    | sequence i items =>
      rw [childNodes_sequence] at ih
      simp only [rename_sequence, toJson_sequence, List.map_map, Json.array.injEq]
      exact List.map_congr_left fun c hc ↦ ih c hc
    | map i entries =>
      rw [childNodes_map] at ih
      simp only [rename_map, toJson_map, List.map_map, Json.object.injEq]
      refine List.map_congr_left fun entry hentry ↦ ?_
      exact congrArg (entry.1, ·) (ih entry.2 (List.mem_map_of_mem hentry))

/-- The child with a key of a renamed node is the renamed child. -/
theorem child?_rename (σ : Renaming) (n : Node) (key : Key) (exact : Bool) :
    (n.rename σ).child? key exact = (n.child? key exact).map (rename σ) := by
  cases n with
  | scalar i s => rfl
  | sequence i items =>
    rw [rename_sequence]
    exact child?_mapChildren (rename σ) (sequence i items) key exact
  | map i entries =>
    rw [rename_map]
    exact child?_mapChildren (rename σ) (map i entries) key exact

end Node

/-- The edge to the renamed child. -/
def Edge.rename (σ : Renaming) (e : Edge) : Edge :=
  { e with child := e.child.rename σ }

namespace Node

variable {σ τ : Renaming} {n m : Node} {id : NodeId}

/-! ### What lies below -/

@[simp] theorem childEdges_rename (σ : Renaming) (n : Node) :
    (n.rename σ).childEdges = n.childEdges.map (Edge.rename σ) := by
  simp [childEdges, Edge.rename, Function.comp_def]

/-- Below a renamed node are the renamed nodes, with the same keys. -/
@[simp] theorem edges_rename (σ : Renaming) (n : Node) :
    (n.rename σ).edges = n.edges.map (Edge.rename σ) := by
  induction n using induction_children with
  | step n ih =>
    rw [edges_eq, edges_eq n, childEdges_rename, List.flatMap_map, List.map_flatMap]
    refine List.flatMap_congr fun e he ↦ ?_
    obtain ⟨child, hchild, rfl⟩ := List.mem_map.1 he
    rw [List.map_cons, ← ih child.2 (mem_childNodes.2 ⟨child.1, hchild⟩)]
    rfl

@[simp] theorem descendants_rename (σ : Renaming) (n : Node) :
    (n.rename σ).descendants = n.descendants.map (rename σ) := by
  simp [descendants, Edge.rename, Function.comp_def]

@[simp] theorem ids_rename (σ : Renaming) (n : Node) : (n.rename σ).ids = n.ids.map σ := by
  rw [ids, ids, id_rename, descendants_rename, List.map_cons, List.map_map, List.map_map]
  exact congrArg (σ n.id :: ·) (List.map_congr_left fun m _ ↦ id_rename σ m)

theorem mem_ids_rename : σ id ∈ (n.rename σ).ids ↔ id ∈ n.ids := by
  rw [ids_rename, List.mem_map_of_injective σ.injective]

theorem find?_rename (σ : Renaming) (n : Node) (id : NodeId) :
    (n.rename σ).find? (σ id) = (n.find? id).map (rename σ) := by
  have hid : (fun m : Node ↦ decide (m.id = σ id)) ∘ rename σ = fun m ↦ decide (m.id = id) := by
    funext m
    simp
  rw [find?, find?, descendants_rename, ← List.map_cons, List.find?_map, hid]

theorem has_rename (σ : Renaming) (n : Node) (id : NodeId) :
    (n.rename σ).has (σ id) = n.has id := by
  rw [has, has, find?_rename, Option.isSome_map]

/-! ### Changes -/

theorem mapChildren_rename {f g : Node → Node}
    (h : ∀ c ∈ n.childNodes, g (c.rename σ) = (f c).rename σ) :
    (n.rename σ).mapChildren g = (n.mapChildren f).rename σ := by
  cases n with
  | scalar i s => simp [mapChildren]
  | sequence i items =>
    rw [childNodes_sequence] at h
    simpa [mapChildren] using h
  | map i entries =>
    rw [childNodes_map] at h
    simp only [rename_map, mapChildren, List.map_map, map.injEq, true_and]
    refine List.map_congr_left fun entry hentry ↦ ?_
    exact congrArg (entry.1, ·) (h entry.2 (List.mem_map_of_mem hentry))

/-- Replacing commutes with renaming. -/
theorem replace_rename (σ : Renaming) (id : NodeId) (new n : Node) :
    replace (σ id) (new.rename σ) (n.rename σ) = (replace id new n).rename σ := by
  induction n using induction_children with
  | step n ih =>
    by_cases hid : n.id = id
    · rw [← hid, ← id_rename, replace_self, replace_self]
    · have hne : (n.rename σ).id ≠ σ id := by
        rw [id_rename]
        exact σ.injective.ne hid
      rw [replace_of_ne _ hne, replace_of_ne _ hid]
      exact mapChildren_rename ih

theorem dropChild_rename (σ : Renaming) (id : NodeId) (n : Node) :
    (n.rename σ).dropChild (σ id) = (n.dropChild id).rename σ := by
  cases n <;> simp [dropChild, List.filter_map, Function.comp_def]

/-- Erasing commutes with renaming. -/
theorem erase_rename (σ : Renaming) (id : NodeId) (n : Node) :
    (n.rename σ).erase (σ id) = (n.erase id).rename σ := by
  induction n using induction_children with
  | step n ih =>
    rw [erase_eq, erase_eq id, dropChild_rename]
    refine mapChildren_rename fun c hc ↦ ih c ?_
    rw [childNodes_dropChild] at hc
    exact List.mem_of_mem_filter hc

/-! ### Nodes of the same value -/

/-- A node is given by its value, its handle and its children. -/
theorem ext_of_toJson (h : n.toJson = m.toJson) (hid : n.id = m.id)
    (hchildren : n.childNodes = m.childNodes) : n = m := by
  cases n with
  | scalar i s => cases m <;> simp_all [id]
  | sequence i items => cases m <;> simp_all [id]
  | map i entries =>
    cases m with
    | scalar j s => simp at h
    | sequence j items => simp at h
    | map j others =>
      obtain rfl : i = j := hid
      rw [childNodes_map, childNodes_map] at hchildren
      rw [toJson_map, toJson_map, Json.object.injEq] at h
      have hnames : entries.map Prod.fst = others.map Prod.fst := by
        simpa [Function.comp_def] using congrArg (List.map Prod.fst) h
      rw [List.zip_of_prod hnames hchildren, ← List.zip_of_prod rfl rfl]

theorem map_toJson_childNodes_eq (h : n.toJson = m.toJson) :
    n.childNodes.map toJson = m.childNodes.map toJson := by
  cases n with
  | scalar i s => cases m <;> simp_all
  | sequence i items => cases m <;> simp_all
  | map i entries =>
    cases m with
    | scalar j s => simp at h
    | sequence j items => simp at h
    | map j others =>
      rw [toJson_map, toJson_map, Json.object.injEq] at h
      simpa [Function.comp_def] using congrArg (List.map Prod.snd) h

/-- The children of nodes of the same value have in turn the same values. -/
theorem forall₂_childNodes (h : n.toJson = m.toJson) :
    List.Forall₂ (fun c d ↦ c.toJson = d.toJson) n.childNodes m.childNodes := by
  have heq := map_toJson_childNodes_eq h
  rwa [← List.forall₂_eq_eq_eq, List.forall₂_map_left_iff, List.forall₂_map_right_iff] at heq

/-- Induction over two nodes of the same value: what passes from their children, in turn, to them
holds of them. -/
theorem induction_toJson {motive : Node → Node → Prop}
    (step : ∀ n m, n.toJson = m.toJson →
      List.Forall₂ (fun c d ↦ c.toJson = d.toJson ∧ motive c d) n.childNodes m.childNodes →
      motive n m)
    (h : n.toJson = m.toJson) : motive n m := by
  induction n using induction_children generalizing m with
  | step n ih =>
    refine step n m h ?_
    -- the hypothesis is for any node of a child's value, and is needed at the child in its place
    have hboth := (List.forall₂_and_left _ _).2
      ⟨fun c hc d ↦ ih c hc (m := d), forall₂_childNodes h⟩
    exact hboth.imp fun c d hcd ↦ ⟨hcd.2, hcd.1 d hcd.2⟩

/-- Nodes of the same value have as many parts. -/
theorem length_ids_eq (h : n.toJson = m.toJson) : n.ids.length = m.ids.length := by
  refine induction_toJson (motive := fun n m ↦ n.ids.length = m.ids.length) ?_ h
  intro n m _ hchildren
  have hlengths : n.childNodes.map (fun c ↦ c.ids.length) =
      m.childNodes.map fun c ↦ c.ids.length := by
    rw [← List.forall₂_eq_eq_eq, List.forall₂_map_left_iff, List.forall₂_map_right_iff]
    exact hchildren.imp fun c d hcd ↦ hcd.2
  rw [ids_eq, ids_eq m, List.length_cons, List.length_cons, List.length_flatMap,
    List.length_flatMap, hlengths]

/-- Of two lists of nodes that show the same values, one is the other renamed if its handles are. -/
theorem map_rename_of_forall₂ {ns ms : List Node}
    (h : List.Forall₂
      (fun c d ↦ c.toJson = d.toJson ∧ (c.ids.map σ = d.ids → c.rename σ = d)) ns ms)
    (hids : (ns.flatMap ids).map σ = ms.flatMap ids) : ns.map (rename σ) = ms := by
  induction h with
  | nil => rfl
  | cons hcd _ ih =>
    rw [List.flatMap_cons, List.flatMap_cons, List.map_append] at hids
    have hlength := length_ids_eq hcd.1
    obtain ⟨hfirst, hrest⟩ := List.append_inj hids (by rw [List.length_map, hlength])
    rw [List.map_cons, hcd.2 hfirst, ih hrest]

theorem rename_of_ids (h : n.toJson = m.toJson) (hids : n.ids.map σ = m.ids) :
    n.rename σ = m := by
  refine induction_toJson (motive := fun n m ↦ n.ids.map σ = m.ids → n.rename σ = m) ?_ h hids
  intro n m h hchildren hids
  rw [ids_eq, ids_eq m, List.map_cons, List.cons.injEq] at hids
  refine ext_of_toJson (by rw [toJson_rename, h]) (by rw [id_rename, hids.1]) ?_
  rw [childNodes_rename]
  exact map_rename_of_forall₂ hchildren hids.2

/-- Only what becomes of the handles of a node counts. -/
theorem rename_congr (h : ∀ i ∈ n.ids, σ i = τ i) : n.rename σ = n.rename τ :=
  rename_of_ids (toJson_rename τ n).symm (by rw [ids_rename]; exact List.map_congr_left h)

/-! ### Finding a renaming -/

/-- A renaming can be changed so that it takes some handles to others, in turn, and nothing is
changed besides. -/
theorem exists_renaming (σ : Renaming) {is js : List NodeId} (hlength : is.length = js.length)
    (his : is.Nodup) (hjs : js.Nodup) :
    ∃ τ : Renaming, is.map τ = js ∧ ∀ i, i ∉ is → σ i ∉ js → τ i = σ i := by
  induction is generalizing js with
  | nil =>
    obtain rfl : js = [] := List.length_eq_zero_iff.1 hlength.symm
    exact ⟨σ, rfl, fun _ _ _ ↦ rfl⟩
  | cons a is ih =>
    cases js with
    | nil => simp at hlength
    | cons b js =>
      rw [List.nodup_cons] at his hjs
      obtain ⟨ρ, hρ, hsame⟩ := ih (by simpa using hlength) his.2 hjs.2
      -- exchanging what `a` is taken to with `b` changes nothing at the handles treated before
      have hkeep : ∀ i, i ≠ a → ρ i ≠ b → Equiv.swap (ρ a) b (ρ i) = ρ i := fun i hia hib ↦
        Equiv.swap_apply_of_ne_of_ne (ρ.injective.ne hia) hib
      refine ⟨ρ.trans (Equiv.swap (ρ a) b), ?_, fun i hi hσi ↦ ?_⟩
      · rw [List.map_cons, Equiv.trans_apply, Equiv.swap_apply_left, ← hρ]
        refine congrArg (b :: ·) (List.map_congr_left fun i hi ↦ hkeep i ?_ ?_)
        · exact fun heq ↦ his.1 (heq ▸ hi)
        · exact fun heq ↦ hjs.1 (heq ▸ hρ ▸ List.mem_map_of_mem hi)
      · rw [List.mem_cons, not_or] at hi hσi
        have hρi := hsame i hi.2 hσi.2
        rw [Equiv.trans_apply, hkeep i hi.1 (hρi ▸ hσi.1), hρi]

/-- Two lists of nodes without repeated handles that show the same values are renamings of each
other. -/
theorem exists_rename (σ : Renaming) (ns ms : List Node) (h : ns.map toJson = ms.map toJson)
    (hns : (ns.flatMap ids).Nodup) (hms : (ms.flatMap ids).Nodup) :
    ∃ τ : Renaming, ns.map (rename τ) = ms ∧
      ∀ i, i ∉ ns.flatMap ids → σ i ∉ ms.flatMap ids → τ i = σ i := by
  rw [← List.forall₂_eq_eq_eq, List.forall₂_map_left_iff, List.forall₂_map_right_iff] at h
  have hlength : (ns.flatMap ids).length = (ms.flatMap ids).length := by
    clear hns hms
    induction h with
    | nil => rfl
    | cons hcd _ ih => simp only [List.flatMap_cons, List.length_append, length_ids_eq hcd, ih]
  obtain ⟨τ, hτ, hsame⟩ := exists_renaming σ hlength hns hms
  exact ⟨τ, map_rename_of_forall₂ (h.imp fun c d hcd ↦ ⟨hcd, rename_of_ids hcd⟩) hτ, hsame⟩

end Node

end DocPath

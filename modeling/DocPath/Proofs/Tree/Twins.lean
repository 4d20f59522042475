import DocPath.Proofs.Node.Rename
import DocPath.Proofs.Tree.Stale

/-!
# Trees that differ in their handles

Two trees of one document that came about in different ways have different handles for its parts,
different free slots and different nodes beside the document. They are `Twins` by a renaming of
handles if the renaming makes one document the other.

A handle is `Known` if it means the same on both sides: it is in the document, or in a scratch node
that both have, or it is spent on both sides. No other handle is ever used when a query begins at
the root. An elementary change by known handles, done on both sides, gives twins again (`Follows`):
by another renaming where new handles are issued, which agrees with the old one on all known
handles. That it can is due to `Leads.mem_ids_of_seen`: a new handle was never seen before.

* `Twins.node?`, `Twins.view` — what is seen through a known handle
* `Twins.replaceWith`, `Twins.insertChild`, `Twins.kill` — changes of the document
* `Twins.adoptScratch`, `Twins.releaseScratch`, `Twins.report` — results and failures of queries
-/

namespace DocPath.Tree

variable {σ τ : Renaming} {t u t' u' : Tree} {id k : NodeId} {n : Node}

/-- The tree with a node exchanged for another and with other slots. -/
abbrev exchange (t : Tree) (k : NodeId) (new : Node) (s : Slots) : Tree :=
  { t.mapTops (Node.replace k new) with slots := s }

theorem tops_exchange (t : Tree) (k : NodeId) (new : Node) (s : Slots) :
    (t.exchange k new s).tops = t.tops.map (Node.replace k new) :=
  t.tops_mapTops _

/-- In both trees the generations have not come back. -/
def Unwrapped (t u : Tree) : Prop :=
  t.slots.Unwrapped ∧ u.slots.Unwrapped

theorem Unwrapped.of_leads (h : t'.Unwrapped u') (hl : t.Leads t') (hr : u.Leads u') :
    t.Unwrapped u :=
  ⟨hl.le_slots.unwrapped h.1, hr.le_slots.unwrapped h.2⟩

/-- A top that both trees have: the root, or a scratch node. -/
def Shared (σ : Renaming) (t u : Tree) (n : Node) : Prop :=
  n = t.root ∨ n ∈ t.scratch ∧ n.rename σ ∈ u.scratch

/-- A handle that means the same in both trees. -/
def Known (σ : Renaming) (t u : Tree) (id : NodeId) : Prop :=
  (∃ n, Shared σ t u n ∧ id ∈ n.ids) ∨ t.slots.Spent id ∧ u.slots.Spent (σ id)

/-- Trees of one document and one registry. -/
structure Twins (σ : Renaming) (t u : Tree) : Prop where
  left : t.Sound
  right : u.Sound
  unwrapped : t.Unwrapped u
  registry : u.registry = t.registry
  root : u.root = t.root.rename σ

/-- What becomes of twins: twins again, by a renaming that agrees on everything known before, with
the same new failures in both logs. -/
structure Follows (σ : Renaming) (t u : Tree) (τ : Renaming) (t' u' : Tree) : Prop where
  twins : Twins τ t' u'
  agree : ∀ id, Known σ t u id → τ id = σ id
  known : ∀ id, Known σ t u id → Known τ t' u' id
  log : ∃ news, t'.log = t.log ++ news ∧ u'.log = u.log ++ news

/-- Handles on the left and what they are on the right. -/
def Same (σ : Renaming) (t u : Tree) (ids ids' : List NodeId) : Prop :=
  ids' = ids.map σ ∧ ∀ id ∈ ids, Known σ t u id

namespace Same

variable {ids ids' others others' : List NodeId}

protected theorem nil (σ : Renaming) (t u : Tree) : Same σ t u [] [] :=
  ⟨rfl, fun _ hid ↦ absurd hid List.not_mem_nil⟩

protected theorem append (h : Same σ t u ids ids') (h' : Same σ t u others others') :
    Same σ t u (ids ++ others) (ids' ++ others') :=
  ⟨by rw [h.1, h'.1, List.map_append], fun id hid ↦ (List.mem_append.1 hid).elim (h.2 id) (h'.2 id)⟩

theorem isEmpty_eq (h : Same σ t u ids ids') : ids'.isEmpty = ids.isEmpty := by
  rw [h.1, List.isEmpty_map]

theorem singleton (h : Known σ t u id) : Same σ t u [id] [σ id] :=
  ⟨rfl, List.forall_mem_singleton.2 h⟩

theorem exists_of_cons (h : Same σ t u (id :: ids) ids') :
    ∃ rest, ids' = σ id :: rest ∧ Known σ t u id ∧ Same σ t u ids rest :=
  ⟨ids.map σ, h.1, h.2 id (List.mem_cons_self ..), rfl,
    fun i hi ↦ h.2 i (List.mem_cons_of_mem id hi)⟩

/-- Handles that mean the same still do later on. -/
theorem follows (h : Same σ t u ids ids') (hf : Follows σ t u τ t' u') :
    Same τ t' u' ids ids' :=
  ⟨h.1.trans (List.map_congr_left fun id hid ↦ (hf.agree id (h.2 id hid)).symm),
    fun id hid ↦ hf.known id (h.2 id hid)⟩

end Same

namespace Follows

variable {ρ : Renaming} {t'' u'' : Tree}

protected theorem refl (h : Twins σ t u) : Follows σ t u σ t u :=
  ⟨h, fun _ _ ↦ rfl, fun _ hid ↦ hid, [], by simp⟩

protected theorem trans (h : Follows σ t u τ t' u') (h' : Follows τ t' u' ρ t'' u'') :
    Follows σ t u ρ t'' u'' where
  twins := h'.twins
  agree id hid := (h'.agree id (h.known id hid)).trans (h.agree id hid)
  known id hid := h'.known id (h.known id hid)
  log := by
    obtain ⟨news, hl, hr⟩ := h.log
    obtain ⟨news', hl', hr'⟩ := h'.log
    exact ⟨news ++ news', by rw [hl', hl, List.append_assoc], by rw [hr', hr, List.append_assoc]⟩

end Follows

namespace Twins

/-! ### Looking at nodes -/

theorem mem_tops_left (hn : Shared σ t u n) : n ∈ t.tops := by
  rcases hn with rfl | ⟨hn, -⟩
  · exact t.root_mem_tops
  · exact List.mem_cons_of_mem _ (List.mem_append_right _ hn)

theorem mem_tops_right (h : Twins σ t u) (hn : Shared σ t u n) : n.rename σ ∈ u.tops := by
  rcases hn with rfl | ⟨-, hn⟩
  · rw [← h.root]
    exact u.root_mem_tops
  · exact List.mem_cons_of_mem _ (List.mem_append_right _ hn)

theorem seen_left (hid : Known σ t u id) : t.Seen id := by
  rcases hid with ⟨n, hn, hid⟩ | ⟨hid, -⟩
  · exact .inl (List.mem_flatMap.2 ⟨n, mem_tops_left hn, hid⟩)
  · exact .inr hid

theorem seen_right (h : Twins σ t u) (hid : Known σ t u id) : u.Seen (σ id) := by
  rcases hid with ⟨n, hn, hid⟩ | ⟨-, hid⟩
  · exact .inl (List.mem_flatMap.2 ⟨n.rename σ, h.mem_tops_right hn, Node.mem_ids_rename.2 hid⟩)
  · exact .inr hid

/-- A known handle names the same node on both sides, or none. -/
theorem node? (h : Twins σ t u) (hid : Known σ t u id) :
    u.node? (σ id) = (t.node? id).map (Node.rename σ) := by
  rcases hid with ⟨n, hn, hid⟩ | ⟨hleft, hright⟩
  · rw [h.left.node?_of_mem_ids (mem_tops_left hn) hid,
      h.right.node?_of_mem_ids (h.mem_tops_right hn) (Node.mem_ids_rename.2 hid),
      Node.find?_rename]
  · rw [h.left.node?_of_spent h.unwrapped.1 hleft, h.right.node?_of_spent h.unwrapped.2 hright]
    rfl

theorem view (h : Twins σ t u) (hid : Known σ t u id) :
    u.view (σ id) = (t.view id).rename σ := by
  rw [Tree.view, Tree.view, h.node? hid]
  cases t.node? id with
  | none => exact (Node.rename_scalar σ id .null).symm
  | some n => rfl

theorem value (h : Twins σ t u) (hid : Known σ t u id) : u.value (σ id) = t.value id := by
  rw [Tree.value, h.view hid, Node.toJson_rename]
  rfl

theorem contains (h : Twins σ t u) (hid : Known σ t u id) :
    u.contains (σ id) = t.contains id := by
  rw [Tree.contains, h.node? hid, Option.isSome_map]
  rfl

theorem kind? (h : Twins σ t u) (hid : Known σ t u id) : u.kind? (σ id) = t.kind? id := by
  rw [Tree.kind?, h.node? hid, Option.map_map]
  exact congrFun (congrArg Option.map (funext fun n ↦ Node.kind_rename σ n)) _

theorem child? (h : Twins σ t u) (hid : Known σ t u id) (key : Key) (exact : Bool) :
    u.child? (σ id) key exact = (t.child? id key exact).map σ := by
  rw [Tree.child?, h.view hid, Node.child?_rename, Option.map_map, Tree.child?, Option.map_map]
  exact congrFun (congrArg Option.map (funext fun n ↦ Node.id_rename σ n)) _

/-- The document has known handles. -/
theorem known_root (hid : id ∈ t.root.ids) : Known σ t u id :=
  .inl ⟨t.root, .inl rfl, hid⟩

theorem id_root (h : Twins σ t u) : u.root.id = σ t.root.id := by
  rw [h.root, Node.id_rename]

/-- What is seen through a known handle has known handles. -/
theorem known_of_mem_view (h : Twins σ t u) (hid : Known σ t u id)
    (hk : k ∈ (t.view id).ids) : Known σ t u k := by
  cases hn : t.node? id with
  | none =>
    obtain rfl : k = id := by simpa [Tree.view, hn, Node.ids_eq, Node.id] using hk
    exact hid
  | some m =>
    rw [view_of_node? hn] at hk
    rcases hid with ⟨n, hshared, hid⟩ | ⟨hleft, -⟩
    · rw [h.left.node?_of_mem_ids (mem_tops_left hshared) hid] at hn
      obtain ⟨c, rfl⟩ := Node.exists_fill hn
      exact .inl ⟨_, hshared, Node.Context.mem_ids_fill.2 (.inr hk)⟩
    · rw [h.left.node?_of_spent h.unwrapped.1 hleft] at hn
      cases hn

/-- A child of what is seen through a known handle has a known handle. -/
theorem known_of_child? (h : Twins σ t u) (hid : Known σ t u id) {key : Key} {exact : Bool}
    (hk : t.child? id key exact = some k) : Known σ t u k := by
  obtain ⟨c, hc, rfl⟩ := Option.map_eq_some_iff.1 hk
  have hmem := Node.ids_subset_of_mem_childNodes (Node.mem_childNodes_of_child? hc) c.id_mem_ids
  exact h.known_of_mem_view hid hmem

/-! ### One change on both sides -/

/-- A node with known handles is renamed as before. -/
theorem rename_eq (hagree : ∀ id, Known σ t u id → τ id = σ id)
    (hn : ∀ id ∈ n.ids, Known σ t u id) : n.rename τ = n.rename σ :=
  Node.rename_congr fun id hid ↦ hagree id (hn id hid)

theorem rename_shared (hagree : ∀ id, Known σ t u id → τ id = σ id) (hn : Shared σ t u n) :
    n.rename τ = n.rename σ :=
  rename_eq hagree fun _ hid ↦ .inl ⟨n, hn, hid⟩

/-- Runs on both sides lead to twins again if what was shared either still is or has gone. -/
theorem follows (h : Twins σ t u) (hl : t.Leads t') (hr : u.Leads u') (hw : t'.Unwrapped u')
    (hagree : ∀ id, Known σ t u id → τ id = σ id) (hroot : u'.root = t'.root.rename τ)
    (hlog : ∃ news, t'.log = t.log ++ news ∧ u'.log = u.log ++ news)
    (hshared : ∀ n, Shared σ t u n → ∀ id ∈ n.ids,
      (∃ m, Shared τ t' u' m ∧ id ∈ m.ids) ∨ id ∉ t'.ids ∧ σ id ∉ u'.ids) :
    Follows σ t u τ t' u' where
  twins := ⟨hl.sound h.left, hr.sound h.right, hw,
    hr.registry_eq.trans (h.registry.trans hl.registry_eq.symm), hroot⟩
  agree := hagree
  known id hid := by
    have hτ := hagree id hid
    rcases hid with ⟨n, hn, hid⟩ | ⟨hleft, hright⟩
    · -- a handle that has gone was released on the way, on both sides
      rcases hshared n hn id hid with hlive | ⟨hgone, hgone'⟩
      · exact .inl hlive
      · right
        rw [hτ]
        have hmem : id ∈ t.ids := List.mem_flatMap.2 ⟨n, mem_tops_left hn, hid⟩
        have hmem' : σ id ∈ u.ids :=
          List.mem_flatMap.2 ⟨_, h.mem_tops_right hn, Node.mem_ids_rename.2 hid⟩
        exact ⟨hl.spent h.left hmem hgone, hr.spent h.right hmem' hgone'⟩
    · right
      rw [hτ]
      exact ⟨hl.le_slots.spent hleft, hr.le_slots.spent hright⟩
  log := hlog

theorem shared_mapTops {f g : Node → Node} {s s' : Slots}
    (hfg : ∀ n, Shared σ t u n → g (n.rename σ) = (f n).rename τ) (hn : Shared σ t u n) :
    Shared τ { t.mapTops f with slots := s } { u.mapTops g with slots := s' } (f n) := by
  have hrename := hfg n hn
  rcases hn with rfl | ⟨hn, hn'⟩
  · exact .inl rfl
  · refine .inr ⟨List.mem_map_of_mem hn, ?_⟩
    rw [← hrename]
    exact List.mem_map_of_mem hn'

/-- A change of every top by a known handle, done on both sides. -/
theorem follows_mapTops (h : Twins σ t u) {f g : Node → Node} {s s' : Slots}
    (hl : t.Leads { t.mapTops f with slots := s })
    (hr : u.Leads { u.mapTops g with slots := s' }) (hw : s.Unwrapped ∧ s'.Unwrapped)
    (hagree : ∀ id, Known σ t u id → τ id = σ id)
    (hf : ∀ n, k ∉ n.ids → f n = n) (hg : ∀ n, σ k ∉ n.ids → g n = n)
    (hfg : ∀ n, Shared σ t u n → g (n.rename σ) = (f n).rename τ) :
    Follows σ t u τ { t.mapTops f with slots := s } { u.mapTops g with slots := s' } := by
  refine h.follows hl hr hw hagree ?_ ⟨[], by simp [mapTops]⟩ fun n hn id hid ↦ ?_
  · show g u.root = (f t.root).rename τ
    rw [h.root, hfg _ (.inl rfl)]
  · by_cases hkept : id ∈ (f n).ids
    · exact .inl ⟨f n, shared_mapTops hfg hn, hkept⟩
    · have hgone : σ id ∉ (g (n.rename σ)).ids := by
        rw [hfg n hn, ← hagree id (.inl ⟨n, hn, hid⟩), Node.mem_ids_rename]
        exact hkept
      exact .inr ⟨h.left.notMem_ids_mapTops hf (mem_tops_left hn) hid hkept,
        h.right.notMem_ids_mapTops hg (h.mem_tops_right hn) (Node.mem_ids_rename.2 hid) hgone⟩

/-- A node exchanged on both sides for nodes of which one is the other renamed, in what is shared.
-/
theorem replace_shared {new new' : Node} (hk : Known σ t u k)
    (hagree : ∀ id, Known σ t u id → τ id = σ id) (hnew : new.rename τ = new')
    (hn : Shared σ t u n) :
    Node.replace (σ k) new' (n.rename σ) = (Node.replace k new n).rename τ := by
  rw [← rename_shared hagree hn, ← hagree k hk, ← hnew, Node.replace_rename]

/-- A known node exchanged on both sides for nodes of which one is the other renamed. -/
theorem follows_replace (h : Twins σ t u) {new new' : Node} {s s' : Slots}
    (hl : t.Leads (t.exchange k new s)) (hr : u.Leads (u.exchange (σ k) new' s'))
    (hw : s.Unwrapped ∧ s'.Unwrapped) (hk : Known σ t u k)
    (hagree : ∀ id, Known σ t u id → τ id = σ id) (hnew : new.rename τ = new') :
    Follows σ t u τ (t.exchange k new s) (u.exchange (σ k) new' s') :=
  h.follows_mapTops hl hr hw hagree (fun _ ↦ Node.replace_of_notMem new)
    (fun _ ↦ Node.replace_of_notMem new') fun _ ↦ replace_shared hk hagree hnew

/-- The handles of a node that was exchanged for a known one are known. -/
theorem known_of_replace (h : Twins σ t u) {new new' : Node} {s s' : Slots} (hk : Known σ t u k)
    (hn : t.node? k = some n) (hagree : ∀ id, Known σ t u id → τ id = σ id)
    (hnew : new.rename τ = new') (hid : id ∈ new.ids) :
    Known τ (t.exchange k new s) (u.exchange (σ k) new' s') id := by
  obtain ⟨m, hm, hkm⟩ := hk.resolve_right fun hspent ↦ by
    rw [h.left.node?_of_spent h.unwrapped.1 hspent.1] at hn
    cases hn
  exact .inl ⟨_, shared_mapTops (fun _ ↦ replace_shared hk hagree hnew) hm,
    Node.ids_subset_replace new hkm hid⟩

/-! ### Changes of the document -/

theorem report (h : Twins σ t u) (segment : String) (fault : Fault) :
    Follows σ t u σ (t.report segment fault) (u.report segment fault) :=
  h.follows (.single (.report t segment fault)) (.single (.report u segment fault)) h.unwrapped
    (fun _ _ ↦ rfl) h.root ⟨[⟨segment, fault⟩], rfl, rfl⟩ fun n hn _ hid ↦ .inl ⟨n, hn, hid⟩

/-- Giving a known node a value. -/
theorem replaceWith (h : Twins σ t u) (hk : Known σ t u k) {v : Json} (hv : v.Distinct)
    (hw : (t.replaceWith k v).Unwrapped (u.replaceWith (σ k) v)) :
    ∃ τ, Follows σ t u τ (t.replaceWith k v) (u.replaceWith (σ k) v) := by
  cases hn : t.node? k with
  | none =>
    have hn' : u.node? (σ k) = none := by rw [h.node? hk, hn]; rfl
    rw [replaceWith_of_none hn, replaceWith_of_none hn']
    exact ⟨σ, .refl h⟩
  | some n =>
    have hn' : u.node? (σ k) = some (n.rename σ) := by rw [h.node? hk, hn]; rfl
    have hl : t.Leads (t.replaceWith k v) := .single (.replaceWith t k hv)
    have hr : u.Leads (u.replaceWith (σ k) v) := .single (.replaceWith u (σ k) hv)
    have hold := fun i hi ↦ h.left.eq_of_mem_build hn hv hw.1 (k := i) hi
    have hold' := fun i hi ↦ h.right.eq_of_mem_build hn' hv hw.2 (k := i) hi
    rw [replaceWith_of_node? hn] at hl hw ⊢
    rw [replaceWith_of_node? hn'] at hr hw ⊢
    have hnodup := h.left.nodup_ids_of_replace hn (tops_exchange ..) hl
    have hnodup' := h.right.nodup_ids_of_replace hn' (tops_exchange ..) hr
    -- the new nodes are paired with each other; of what is known only `k` is among their handles
    generalize hnew : Node.build k v _ = new at *
    generalize hnew' : Node.build (σ k) v _ = new' at *
    obtain ⟨τ, hτ, hsame⟩ := Node.exists_rename σ [new.1] [new'.1] (by simp [← hnew, ← hnew'])
      (by simpa using hnodup) (by simpa using hnodup')
    have hrename : new.1.rename τ = new'.1 := by simpa using hτ
    have hself : τ k = σ k := by
      simpa [← hnew, ← hnew'] using congrArg Node.id hrename
    refine ⟨τ, h.follows_replace hl hr hw hk (fun i hi ↦ ?_) hrename⟩
    by_cases hik : i = k
    · rw [hik, hself]
    · refine hsame i (fun hmem ↦ hik (hold i (seen_left hi) (by simpa using hmem))) fun hmem ↦ ?_
      exact hik (σ.injective (hold' (σ i) (h.seen_right hi) (by simpa using hmem)))

/-- New nodes put at the end of a known container. -/
theorem append (h : Twins σ t u) (hk : Known σ t u k) (hn : t.node? k = some n)
    {new new' : Node} (nodes nodes' : List Node) {s s' : Slots}
    (hids : new.ids = n.ids ++ nodes.flatMap Node.ids)
    (hids' : new'.ids = (n.rename σ).ids ++ nodes'.flatMap Node.ids)
    (hvalues : nodes.map Node.toJson = nodes'.map Node.toJson)
    (hnew : ∀ τ : Renaming, n.rename τ = n.rename σ → τ k = σ k →
      nodes.map (Node.rename τ) = nodes' → new.rename τ = new')
    (hl : t.Leads (t.exchange k new s)) (hr : u.Leads (u.exchange (σ k) new' s'))
    (hw : s.Unwrapped ∧ s'.Unwrapped) :
    ∃ τ, Follows σ t u τ (t.exchange k new s) (u.exchange (σ k) new' s') ∧
      Same τ (t.exchange k new s) (u.exchange (σ k) new' s')
        (nodes.getLast?.map Node.id).toList (nodes'.getLast?.map Node.id).toList := by
  have hn' : u.node? (σ k) = some (n.rename σ) := by rw [h.node? hk, hn]; rfl
  have hnodup := h.left.nodup_ids_of_replace hn (tops_exchange ..) hl
  have hnodup' := h.right.nodup_ids_of_replace hn' (tops_exchange ..) hr
  rw [hids] at hnodup
  rw [hids'] at hnodup'
  obtain ⟨τ, hτ, hsame⟩ := Node.exists_rename σ nodes nodes' hvalues
    (List.nodup_append.1 hnodup).2.1 (List.nodup_append.1 hnodup').2.1
  -- a known handle that the new container has was in the old one, so it is no new node's
  have hagree : ∀ id, Known σ t u id → τ id = σ id := by
    refine fun id hid ↦ hsame id (fun hmem ↦ ?_) fun hmem ↦ ?_
    · have hold := h.left.mem_ids_of_replace hn (tops_exchange ..) hl hw.1 (seen_left hid)
        (hids ▸ List.mem_append_right _ hmem)
      exact List.disjoint_of_nodup_append hnodup hold hmem
    · have hold := h.right.mem_ids_of_replace hn' (tops_exchange ..) hr hw.2 (h.seen_right hid)
        (hids' ▸ List.mem_append_right _ hmem)
      exact List.disjoint_of_nodup_append hnodup' hold hmem
  have hold : n.rename τ = n.rename σ := rename_eq hagree fun id hid ↦
    h.known_of_mem_view hk (by rwa [view_of_node? hn])
  have hrename := hnew τ hold (hagree k hk) hτ
  refine ⟨τ, h.follows_replace hl hr hw hk hagree hrename, ?_, fun id hid ↦ ?_⟩
  · rw [← hτ, List.getLast?_map]
    cases nodes.getLast? <;> simp
  · obtain ⟨m, hm, rfl⟩ : ∃ m, nodes.getLast? = some m ∧ m.id = id := by
      simpa [Option.mem_toList] using hid
    refine h.known_of_replace hk hn hagree hrename ?_
    rw [hids]
    exact List.mem_append_right _ (List.mem_flatMap.2 ⟨m, List.mem_of_getLast? hm, m.id_mem_ids⟩)

/-- Putting values at the end of a known sequence. -/
theorem appendItems (h : Twins σ t u) (hk : Known σ t u k) {items : List Node}
    (hn : t.node? k = some (.sequence k items)) {values : List Json}
    (hl : t.Leads (t.appendItems k items values).2)
    (hr : u.Leads (u.appendItems (σ k) (items.map (Node.rename σ)) values).2)
    (hw : (t.appendItems k items values).2.Unwrapped
      (u.appendItems (σ k) (items.map (Node.rename σ)) values).2) :
    ∃ τ, Follows σ t u τ (t.appendItems k items values).2
        (u.appendItems (σ k) (items.map (Node.rename σ)) values).2 ∧
      Same τ (t.appendItems k items values).2
        (u.appendItems (σ k) (items.map (Node.rename σ)) values).2
        (t.appendItems k items values).1.toList
        (u.appendItems (σ k) (items.map (Node.rename σ)) values).1.toList := by
  rw [appendItems_eq] at hl hr hw ⊢
  rw [appendItems_eq] at hw ⊢
  refine h.append hk hn (Node.buildItems values t.slots).1 (Node.buildItems values u.slots).1
    ?_ ?_ ?_ ?_ hl hr hw
  · simp [Node.ids_eq, Node.id]
  · simp [Node.ids_eq, Node.id]
  · simp
  · intro τ hold hself hτ
    rw [Node.rename_sequence, Node.rename_sequence, Node.sequence.injEq] at hold
    rw [Node.rename_sequence, List.map_append, hold.2, hself, hτ]

/-- Putting an entry at the end of a known map. -/
theorem appendEntry (h : Twins σ t u) (hk : Known σ t u k) {entries : List (String × Node)}
    (hn : t.node? k = some (.map k entries)) {name : String} {v : Json}
    (hl : t.Leads (t.appendEntry k entries name v).2)
    (hr : u.Leads (u.appendEntry (σ k)
      (entries.map fun entry ↦ (entry.1, entry.2.rename σ)) name v).2)
    (hw : (t.appendEntry k entries name v).2.Unwrapped
      (u.appendEntry (σ k) (entries.map fun entry ↦ (entry.1, entry.2.rename σ)) name v).2) :
    ∃ τ, Follows σ t u τ (t.appendEntry k entries name v).2
        (u.appendEntry (σ k) (entries.map fun entry ↦ (entry.1, entry.2.rename σ)) name v).2 ∧
      Same τ (t.appendEntry k entries name v).2
        (u.appendEntry (σ k) (entries.map fun entry ↦ (entry.1, entry.2.rename σ)) name v).2
        (t.appendEntry k entries name v).1.toList
        (u.appendEntry (σ k)
          (entries.map fun entry ↦ (entry.1, entry.2.rename σ)) name v).1.toList := by
  rw [appendEntry_eq] at hl hr hw ⊢
  rw [appendEntry_eq] at hw ⊢
  refine h.append hk hn ((Node.buildEntries [(name, v)] t.slots).1.map Prod.snd)
    ((Node.buildEntries [(name, v)] u.slots).1.map Prod.snd) ?_ ?_ ?_ ?_ hl hr hw
  · simp [Node.ids_eq, Node.id]
  · simp [Node.ids_eq, Node.id]
  · simp [Node.buildEntries]
  · intro τ hold hself hτ
    rw [Node.rename_map, Node.rename_map, Node.map.injEq] at hold
    rw [Node.rename_map, List.map_append, hold.2, hself]
    simp only [Node.buildEntries, List.map_cons, List.map_nil, List.cons.injEq, and_true] at hτ
    simp [Node.buildEntries, hτ]

/-- Putting a value under a key of a known node. -/
theorem insertChild (h : Twins σ t u) (hk : Known σ t u k) (key : Key) {v : Json} (hv : v.Distinct)
    (hw : (t.insertChild k key v).2.Unwrapped (u.insertChild (σ k) key v).2) :
    ∃ τ, Follows σ t u τ (t.insertChild k key v).2 (u.insertChild (σ k) key v).2 ∧
      Same τ (t.insertChild k key v).2 (u.insertChild (σ k) key v).2
        (t.insertChild k key v).1.toList (u.insertChild (σ k) key v).1.toList := by
  have hl : t.Leads (t.insertChild k key v).2 := .single (.insertChild t k key hv)
  have hr : u.Leads (u.insertChild (σ k) key v).2 := .single (.insertChild u (σ k) key hv)
  have hchild := h.child? hk key true
  have hnode := h.node? hk
  cases hc : t.child? k key true with
  | some c =>
    -- the child that is there gets the value
    rw [hc] at hchild
    rw [insertChild_of_child? hc, insertChild_of_child? hchild] at *
    have hknown := h.known_of_child? hk hc
    obtain ⟨τ, hτ⟩ := h.replaceWith hknown hv hw
    refine ⟨τ, hτ, by simp [hτ.agree c hknown], fun id hid ↦ ?_⟩
    obtain rfl : id = c := by simpa using hid
    exact hτ.known id hknown
  | none =>
    rw [hc] at hchild
    have hstay : ∃ τ, Follows σ t u τ t u ∧ Same τ t u [] [] := ⟨σ, .refl h, .nil σ t u⟩
    cases hn : t.node? k with
    | none => simpa [Tree.insertChild, hc, hchild, hnode, hn] using hstay
    | some n =>
      obtain rfl := id_of_node? hn
      rw [hn] at hnode
      cases n with
      | scalar i value => simpa [Tree.insertChild, hc, hchild, hnode, hn] using hstay
      | sequence i items =>
        have hnode' := hnode.trans (congrArg some (Node.rename_sequence ..))
        simp only [Tree.insertChild, hc, hn, hchild, hnode', Option.map_none] at hl hr hw ⊢
        cases hkey : key.int? with
        | none => simpa using hstay
        | some i =>
          rw [hkey] at hl hr hw
          dsimp only at hl hr hw ⊢
          rw [List.length_map] at hr hw ⊢
          split
          · simpa using hstay
          · rename_i hpos
            simp only [if_neg hpos] at hl hr hw
            exact h.appendItems hk hn hl hr hw
      | map i entries =>
        have hnode' := hnode.trans (congrArg some (Node.rename_map ..))
        rw [insertChild_map hc hn] at hl hw ⊢
        rw [insertChild_map hchild hnode'] at hr hw ⊢
        exact h.appendEntry hk hn hl hr hw

/-- Removing a node of the document. -/
theorem kill (h : Twins σ t u) (k : NodeId) (hw : (t.kill k).2.Unwrapped (u.kill (σ k)).2) :
    (u.kill (σ k)).1 = (t.kill k).1 ∧ Follows σ t u σ (t.kill k).2 (u.kill (σ k)).2 := by
  have hl : t.Leads (t.kill k).2 := .single (.kill t k)
  have hr : u.Leads (u.kill (σ k)).2 := .single (.kill u (σ k))
  have hfind : u.root.find? (σ k) = (t.root.find? k).map (Node.rename σ) := by
    rw [h.root, Node.find?_rename]
  have hroot : (σ k = u.root.id) = (k = t.root.id) := by
    rw [h.id_root, σ.injective.eq_iff]
  -- killing tells nothing of handles, so `k` need not be known
  unfold Tree.kill at *
  rw [hfind] at hr hw ⊢
  cases hn : t.root.find? k with
  | none => exact ⟨rfl, .refl h⟩
  | some n =>
    obtain rfl := Node.id_of_find? hn
    simp only [hn, Option.map_some, hroot] at hl hr hw ⊢
    split
    · exact ⟨rfl, .refl h⟩
    · rename_i hne
      simp only [if_neg hne] at hl hr hw
      refine ⟨rfl, h.follows_mapTops hl hr hw (fun _ _ ↦ rfl) (fun _ ↦ Node.erase_of_notMem)
        (fun m hm ↦ ?_) fun m _ ↦ ?_⟩
      · exact Node.erase_of_notMem (by rwa [Node.id_rename])
      · rw [Node.id_rename, Node.erase_rename]

/-! ### Results of queries -/

/-- Adding a computed result. -/
theorem adoptScratch (h : Twins σ t u) {v : Json} (hv : v.Distinct)
    (hw : (t.adoptScratch v).2.Unwrapped (u.adoptScratch v).2) :
    ∃ τ, Follows σ t u τ (t.adoptScratch v).2 (u.adoptScratch v).2 ∧
      Known τ (t.adoptScratch v).2 (u.adoptScratch v).2 (t.adoptScratch v).1 ∧
      (u.adoptScratch v).1 = τ (t.adoptScratch v).1 := by
  have hl : t.Leads (t.adoptScratch v).2 := .single (.adoptScratch t hv)
  have hr : u.Leads (u.adoptScratch v).2 := .single (.adoptScratch u hv)
  obtain ⟨τ, hτ, hsame⟩ := Node.exists_rename σ [t.resultNode v] [u.resultNode v]
    (by simp [resultNode]) (by simpa using h.left.nodup_resultNode hv)
    (by simpa using h.right.nodup_resultNode hv)
  have hrename : (t.resultNode v).rename τ = u.resultNode v := by simpa using hτ
  have hagree : ∀ id, Known σ t u id → τ id = σ id := by
    refine fun id hid ↦ hsame id (fun hmem ↦ ?_) fun hmem ↦ ?_
    · exact h.left.not_seen_resultNode hv hw.1 (by simpa using hmem) (seen_left hid)
    · exact h.right.not_seen_resultNode hv hw.2 (by simpa using hmem) (h.seen_right hid)
  have hshared : Shared τ (t.adoptScratch v).2 (u.adoptScratch v).2 (t.resultNode v) := by
    refine .inr ⟨List.mem_append_right _ (List.mem_singleton_self _), ?_⟩
    rw [hrename]
    exact List.mem_append_right _ (List.mem_singleton_self _)
  refine ⟨τ, ?_, .inl ⟨_, hshared, ?_⟩, ?_⟩
  · refine h.follows hl hr hw hagree ?_ ⟨[], by simp [Tree.adoptScratch]⟩ fun n hn id hid ↦ ?_
    · show u.root = t.root.rename τ
      rw [h.root, rename_shared hagree (.inl rfl)]
    · refine .inl ⟨n, ?_, hid⟩
      have hn' := rename_shared hagree hn
      rcases hn with rfl | ⟨hn, hmem⟩
      · exact .inl rfl
      · exact .inr ⟨List.mem_append_left _ hn, hn' ▸ List.mem_append_left _ hmem⟩
  · exact Node.id_build t.slots.allocate.1 v _ ▸ Node.id_mem_ids _
  · have hid := congrArg Node.id hrename
    rw [Node.id_rename, resultNode, resultNode, Node.id_build, Node.id_build] at hid
    exact hid.symm

/-- Dropping the results that no kept handle names. -/
theorem releaseScratch (h : Twins σ t u) {keep keep' : List NodeId} (hkeep : Same σ t u keep keep')
    (hw : (t.releaseScratch keep).Unwrapped (u.releaseScratch keep')) :
    Follows σ t u σ (t.releaseScratch keep) (u.releaseScratch keep') := by
  have hany : ∀ n : Node, keep'.any (n.rename σ).has = keep.any n.has := by
    intro n
    rw [hkeep.1, List.any_map]
    exact congrArg keep.any (funext fun i ↦ Node.has_rename σ n i)
  refine h.follows (.single (.releaseScratch t keep)) (.single (.releaseScratch u keep')) hw
    (fun _ _ ↦ rfl) h.root ⟨[], by simp [releaseScratch_eq]⟩ fun n hn id hid ↦ ?_
  rcases hn with rfl | ⟨hn, hn'⟩
  · exact .inl ⟨_, .inl rfl, hid⟩
  · -- both sides keep a shared result, or both drop it
    cases hkept : keep.any n.has with
    | true =>
      refine .inl ⟨n, .inr ?_, hid⟩
      rw [releaseScratch_eq, releaseScratch_eq]
      exact ⟨List.mem_filter.2 ⟨hn, hkept⟩, List.mem_filter.2 ⟨hn', (hany n).trans hkept⟩⟩
    | false =>
      exact .inr ⟨h.left.notMem_ids_releaseScratch hn hkept hid,
        h.right.notMem_ids_releaseScratch hn' ((hany n).trans hkept) (Node.mem_ids_rename.2 hid)⟩

end Twins

end DocPath.Tree

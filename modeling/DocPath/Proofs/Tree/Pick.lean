import DocPath.Proofs.Tree.Once
import DocPath.Proofs.Tree.Reachable

/-!
# What operations pick

An operation that picks a child is asked twice: which child it picks, and what its result is. The
two answers should agree (`Operation.Coherent`): the result is the value of the child that is picked,
and there is no result where picking fails. An operation of anyone's own may do otherwise. Those of
every query are coherent, for every value and all arguments, and `first`, `last`, `min` and `max` pick
a child wherever there is one and they have a result (`Builtin.Coherent`).

So a segment that invokes such an operation matches one node with the result, which is a child exactly
if one is picked, or it matches nothing and logs one failure (`special_coherent`).
-/

namespace DocPath

namespace Builtin

open Operation (childWith? fetchKey?)

variable {op : Builtin} {v result : Json} {args : List Json} {key : Key} {e : OperationError}
  {children : List (Key × Json)} {child : Key × Json} {found : Option (Key × Json)}

/-! ### Operations that pick by order -/

/-- The operations that pick a child wherever there is one. -/
def Chooses (op : Builtin) : Prop :=
  op = first ∨ op = last ∨ op = min ∨ op = max

/-- The child that such an operation picks. -/
def choice (op : Builtin) (v : Json) : Except OperationError (Option (Key × Json)) :=
  match op with
  | first => do return (← op.childrenOf v).head?
  | last => do return (← op.childrenOf v).getLast?
  | min => op.extreme .lt v
  | max => op.extreme .gt v
  | _ => .ok none

/-- Such an operation picks the key of its choice. -/
theorem select_eq_of_chooses (h : op.Chooses) (v : Json) (args : List Json) :
    op.select v args = (op.choice v).map fun found ↦ found.map Prod.fst := by
  rcases h with rfl | rfl | rfl | rfl
  · unfold select choice
    cases first.childrenOf v <;> rfl
  · unfold select choice
    cases last.childrenOf v <;> rfl
  · unfold select choice
    cases min.extreme .lt v <;> rfl
  · unfold select choice
    cases max.extreme .gt v <;> rfl

/-- The result of such an operation is the value of its choice. -/
theorem call_eq_of_chooses (h : op.Chooses) (v : Json) (args : List Json) :
    op.call v args = (op.choice v).map fun found ↦ (found.map Prod.snd).getD .null := by
  rcases h with rfl | rfl | rfl | rfl
  · unfold call choice
    cases first.childrenOf v <;> rfl
  · unfold call choice
    cases last.childrenOf v <;> rfl
  · unfold call choice
    cases min.extreme .lt v <;> rfl
  · unfold call choice
    cases max.extreme .gt v <;> rfl

/-- The choice from a list of children is one of them. -/
private theorem mem_of_childrenOf {pick : List (Key × Json) → Option (Key × Json)}
    (hpick : ∀ children child, pick children = some child → child ∈ children)
    (h : (do return pick (← op.childrenOf v)) = Except.ok (some child)) :
    ∃ children, v.children? = some children ∧ child ∈ children := by
  cases hchildren : op.childrenOf v with
  | error e =>
    rw [hchildren] at h
    cases h
  | ok children =>
    rw [hchildren] at h
    exact ⟨children, children?_of_childrenOf hchildren, hpick _ _ (Except.ok.inj h)⟩

theorem mem_of_choice (h : op.choice v = .ok (some child)) :
    ∃ children, v.children? = some children ∧ child ∈ children := by
  cases op with
  | first => exact mem_of_childrenOf (fun _ _ hmem ↦ List.mem_of_head? hmem) h
  | last => exact mem_of_childrenOf (fun _ _ hmem ↦ List.mem_of_getLast? hmem) h
  | min => exact mem_of_extreme h
  | max => exact mem_of_extreme h
  | sort | reverse | unique | keys | values | size | lower | upper | fetch => cases h

/-- Where there are children, an operation that chooses one has a choice or fails. -/
theorem exists_of_choice (hop : op.Chooses) (hchildren : v.children? = some children)
    (hne : children ≠ []) (h : op.choice v = .ok found) : ∃ child, found = some child := by
  have hof : ∀ op : Builtin, op.childrenOf v = .ok children := fun op ↦ by
    rw [childrenOf, hchildren]
  obtain ⟨child, rest, rfl⟩ := List.exists_cons_of_ne_nil hne
  have hextreme : ∀ direction, op.extreme direction v = .ok found → ∃ child, found = some child := by
    intro direction hfound
    rw [extreme, hof] at hfound
    cases hbest : op.extremeFrom direction child rest with
    | error e =>
      simp only [bind, Except.bind, hbest] at hfound
      cases hfound
    | ok best =>
      simp only [bind, Except.bind, hbest] at hfound
      cases hfound
      exact ⟨best, rfl⟩
  rcases hop with rfl | rfl | rfl | rfl
  · simp only [choice, hof] at h
    cases h
    exact ⟨child, rfl⟩
  · simp only [choice, hof] at h
    cases h
    exact ⟨_, List.getLast?_eq_getLast_of_ne_nil (List.cons_ne_nil child rest)⟩
  · exact hextreme .lt h
  · exact hextreme .gt h

/-! ### Keys and results -/

/-- What an argument names is listed with that key. -/
theorem exists_childWith?_of_fetchKey? {wanted : Json} (h : fetchKey? v wanted = some key) :
    ∃ children w, v.children? = some children ∧ (key, w) ∈ children ∧
      childWith? v key = some w := by
  have hobject : ∀ {entries : Entries} {k : String}, Entries.contains entries k →
      ∃ w, ((Key.name k, w) ∈ entries.map fun entry ↦ (Key.name entry.1, entry.2)) ∧
        Entries.get? entries k = some w := by
    intro entries k hk
    obtain ⟨w, hw⟩ := Option.isSome_iff_exists.1 hk
    exact ⟨w, List.mem_map.2 ⟨(k, w), Entries.mem_of_get?_eq_some hw, rfl⟩, hw⟩
  unfold fetchKey? at h
  split at h
  · split at h
    · rename_i hk
      cases h
      obtain ⟨w, hmem, hw⟩ := hobject hk
      exact ⟨_, w, rfl, hmem, hw⟩
    · cases h
  · split at h
    · rename_i hk
      cases h
      obtain ⟨w, hmem, hw⟩ := hobject hk
      exact ⟨_, w, rfl, hmem, hw⟩
    · cases h
  · rename_i items n
    obtain ⟨i, -, hi⟩ := Option.bind_eq_some_iff.1 h
    split at hi
    · rename_i hlt
      cases hi
      have hitem : items[i]? = some items[i] := List.getElem?_eq_getElem hlt
      exact ⟨_, items[i], rfl, List.mem_map.2 ⟨(items[i], i), List.mem_zipIdx_iff_getElem?.2 hitem,
        rfl⟩, hitem⟩
    · cases hi
  · cases h

/-- Operations choose, or fetch what an argument names, or pick nothing at all. -/
theorem chooses_or (op : Builtin) :
    op.Chooses ∨ op = fetch ∨ ∀ v args, op.select v args = .ok none := by
  cases op with
  | first => exact .inl (.inl rfl)
  | last => exact .inl (.inr (.inl rfl))
  | min => exact .inl (.inr (.inr (.inl rfl)))
  | max => exact .inl (.inr (.inr (.inr rfl)))
  | fetch => exact .inr (.inl rfl)
  | sort | reverse | unique | keys | values | size | lower | upper =>
    exact .inr (.inr fun _ _ ↦ rfl)

/-- Where a key is picked, the result is a child that is listed with it. -/
theorem call_of_select (h : op.select v args = .ok (some key)) :
    ∃ children w, v.children? = some children ∧ (key, w) ∈ children ∧ op.call v args = .ok w := by
  rcases op.chooses_or with hop | rfl | hnone
  · rw [select_eq_of_chooses hop] at h
    cases hchoice : op.choice v with
    | error e =>
      rw [hchoice] at h
      cases h
    | ok found =>
      rw [hchoice] at h
      obtain ⟨⟨k, w⟩, rfl, rfl⟩ := Option.map_eq_some_iff.1 (Except.ok.inj h)
      obtain ⟨children, hchildren, hmem⟩ := mem_of_choice hchoice
      refine ⟨children, w, hchildren, hmem, ?_⟩
      rw [call_eq_of_chooses hop, hchoice]
      rfl
  · obtain ⟨wanted, hwanted, hkey⟩ := Option.bind_eq_some_iff.1 (Except.ok.inj h)
    obtain ⟨children, w, hchildren, hmem, hw⟩ := exists_childWith?_of_fetchKey? hkey
    refine ⟨children, w, hchildren, hmem, ?_⟩
    simp [call, hwanted, hkey, hw]
  · rw [hnone] at h
    cases h

/-- Where picking fails, there is no result for the same reason. -/
theorem call_of_select_error (h : op.select v args = .error e) : op.call v args = .error e := by
  rcases op.chooses_or with hop | rfl | hnone
  · rw [select_eq_of_chooses hop] at h
    rw [call_eq_of_chooses hop]
    cases hchoice : op.choice v with
    | error e' =>
      rw [hchoice] at h
      exact congrArg Except.error (Except.error.inj h)
    | ok found =>
      rw [hchoice] at h
      cases h
  · cases h
  · rw [hnone] at h
    cases h

/-- Where there are children and a result, an operation that chooses picks a child. -/
theorem exists_select (hop : op.Chooses) (hchildren : v.children? = some children)
    (hne : children ≠ []) (h : op.call v args = .ok result) :
    ∃ key, op.select v args = .ok (some key) := by
  rw [call_eq_of_chooses hop] at h
  cases hchoice : op.choice v with
  | error e =>
    rw [hchoice] at h
    cases h
  | ok found =>
    obtain ⟨child, rfl⟩ := exists_of_choice hop hchildren hne hchoice
    refine ⟨child.1, ?_⟩
    rw [select_eq_of_chooses hop, hchoice]
    rfl

end Builtin

namespace Node

/-- The value of a node lists the values of its children. -/
theorem children?_toJson {n : Node} (h : n.kind ≠ .scalar) :
    n.toJson.children? = some (n.children.map fun child ↦ (child.1, child.2.toJson)) := by
  cases n with
  | scalar i s => exact absurd rfl h
  | sequence i items => simp [Json.children?, children, List.zipIdx_map]
  | map i entries => simp [Json.children?, children]

theorem kind_ne_scalar_of_children? {n : Node} {children : List (Key × Json)}
    (h : n.toJson.children? = some children) : n.kind ≠ .scalar := by
  intro hkind
  cases n with
  | scalar i s => cases h
  | sequence i items => cases hkind
  | map i entries => cases hkind

end Node

/-! ### At a node -/

/-- The two answers of an operation at a node agree. -/
structure Operation.Coherent (op : Operation) (args : List Json) (n : Node) : Prop where
  /-- The result is the value of the child that is picked, which is found under exactly its key. -/
  picked : ∀ {key : Key}, op.select n.toJson args = .ok (some key) →
    ∃ c, (key, c) ∈ n.children ∧ (key.InRange → n.child? key true = some c) ∧
      op.call n.toJson args = .ok c.toJson
  /-- Where picking fails, there is no result for the same reason. -/
  failed : ∀ {e : OperationError}, op.select n.toJson args = .error e →
    op.call n.toJson args = .error e

/-- The two answers agree, and a child is picked by those that choose one. -/
structure Builtin.Coherent (op : Builtin) (args : List Json) (n : Node) : Prop
    extends Operation.Coherent op.operation args n where
  /-- A child is picked wherever there is one and there is a result. -/
  picks : op.Chooses → n.hasChildren → ∀ {result : Json},
    op.operation.call n.toJson args = .ok result →
      ∃ key, op.operation.select n.toJson args = .ok (some key)

/-- Where the names of a node are distinct, the operations of every query are coherent. -/
theorem Node.coherent {n : Node} (hn : n.toJson.Distinct) (op : Builtin) (args : List Json) :
    op.Coherent args n where
  picked {key} h := by
    obtain ⟨children, w, hchildren, hmem, hcall⟩ := Builtin.call_of_select h
    rw [children?_toJson (kind_ne_scalar_of_children? hchildren)] at hchildren
    obtain rfl := Option.some.inj hchildren
    obtain ⟨⟨k, c⟩, hc, heq⟩ := List.mem_map.1 hmem
    obtain ⟨rfl, rfl⟩ := Prod.mk.inj heq
    exact ⟨c, hc, fun hkey ↦ child?_of_mem_children hn hc hkey true, hcall⟩
  failed := Builtin.call_of_select_error
  picks hop hchildren {result} h := by
    have hne : n.children ≠ [] := by
      rintro hnil
      rw [hasChildren, hnil] at hchildren
      cases hchildren
    have hkind : n.kind ≠ .scalar := by
      intro hkind
      cases n with
      | scalar i s => exact hne rfl
      | sequence i items => cases hkind
      | map i entries => cases hkind
    exact Builtin.exists_select hop (children?_toJson hkind)
      (fun hnil ↦ hne (List.map_eq_nil_iff.1 hnil)) h

section

variable {r : Registry} {name : String} {v result : Json} {args : List Json} {key : Key}
  {e : OperationError} {n : Node}

namespace Registry

/-- The two answers of the operation of a name, if there is one, agree at a node. -/
def Agrees (r : Registry) (name : String) (args : List Json) (n : Node) : Prop :=
  ∀ op : Operation, r.get? name = some op → op.Coherent args n

/-- The two answers of all operations agree, at all nodes. -/
def Coherent (r : Registry) : Prop :=
  ∀ {name : String} {args : List Json} {n : Node}, n.toJson.Distinct → r.Agrees name args n

theorem coherent_builtin : builtin.Coherent := by
  intro name args n hn op hop
  obtain ⟨b, rfl⟩ := exists_of_mem_builtin (List.mem_of_find?_eq_some hop)
  exact (Node.coherent hn b args).toCoherent

/-- An operation is the one that its name is resolved to, both for picking and for the result. -/
theorem select_eq_ok {picked : Option Key} (h : r.select name v args = .ok picked) :
    ∃ op, r.get? name = some op ∧ op.select v args = .ok picked ∧
      r.call name v args = op.call v args := by
  unfold select call at *
  cases hop : r.resolve name args with
  | error e =>
    rw [hop] at h
    cases h
  | ok op =>
    rw [hop] at h
    exact ⟨op, get?_of_resolve hop, h, rfl⟩

theorem call_of_select_error (hr : r.Agrees name args n)
    (h : r.select name n.toJson args = .error e) : r.call name n.toJson args = .error e := by
  unfold select at h
  unfold call
  cases hop : r.resolve name args with
  | error e' =>
    rw [hop] at h
    exact congrArg Except.error (Except.error.inj h)
  | ok op =>
    rw [hop] at h
    exact (hr op (get?_of_resolve hop)).failed h

theorem exists_of_select (hr : r.Agrees name args n)
    (h : r.select name n.toJson args = .ok (some key)) :
    ∃ c, (key, c) ∈ n.children ∧ (key.InRange → n.child? key true = some c) ∧
      r.call name n.toJson args = .ok c.toJson := by
  obtain ⟨op, hop, hselect, hcall⟩ := select_eq_ok h
  rw [hcall]
  exact (hr op hop).picked hselect

end Registry

namespace Tree

theorem outcome_of_call_error (hr : r.Agrees name args n)
    (h : r.call name n.toJson args = .error e) : outcome r name args n = .failed e := by
  unfold outcome
  cases hselect : r.select name n.toJson args with
  | error e' =>
    rw [Registry.call_of_select_error hr hselect] at h
    rw [Except.error.inj h]
  | ok picked =>
    cases picked with
    | none => simp only [Option.bind_none, h]
    | some key =>
      obtain ⟨c, -, -, hcall⟩ := Registry.exists_of_select hr hselect
      rw [hcall] at h
      cases h

theorem outcome_of_select (hselect : r.select name n.toJson args = .ok (some key)) {c : Node}
    (hc : n.child? key true = some c) : outcome r name args n = .child c := by
  unfold outcome
  simp only [hselect, Option.bind_some, hc]

/-- A position beyond 63 bits leads to no child. -/
theorem child?_of_not_inRange {c : Node} (hc : (key, c) ∈ n.children) (hkey : ¬ key.InRange) :
    n.child? key true = none := by
  cases key with
  | name k => exact absurd trivial hkey
  | index k =>
    have hint : (Key.index k).int? = none := if_neg hkey
    have hkind := Node.container_of_mem_children hc
    cases n with
    | scalar i s => cases hkind
    | map i entries => cases hkind
    | sequence i items =>
      rw [Node.child?_sequence, hint]
      rfl

/-- A result that is no child is a computed one. -/
theorem outcome_of_call (hr : r.Agrees name args n) (h : r.call name n.toJson args = .ok result)
    (hnone : ∀ key : Key, key.InRange → r.select name n.toJson args ≠ .ok (some key)) :
    outcome r name args n = .result result := by
  unfold outcome
  cases hselect : r.select name n.toJson args with
  | error e =>
    rw [Registry.call_of_select_error hr hselect] at h
    cases h
  | ok picked =>
    have hchild : (picked.bind fun key ↦ n.child? key true) = none := by
      cases picked with
      | none => rfl
      | some key =>
        obtain ⟨c, hc, -, -⟩ := Registry.exists_of_select hr hselect
        exact child?_of_not_inRange hc fun hkey ↦ hnone key hkey hselect
    simp only [hchild, h]

open DocPath.Path (Segment)

variable {t : Tree} {s : Segment} {id : NodeId}

/-! ### What a segment matches -/

/-- What the match of a segment that invokes an operation is: the match shows the result, and it is
a child of the node exactly if the operation picks one, which is then found under exactly its key. -/
structure Shows (t : Tree) (name : String) (args : List Json) (id : NodeId) (result : Json)
    (m : NodeId) (t' : Tree) : Prop where
  value : t'.value m = result
  log : t'.log = t.log
  child : ∀ {key : Key}, key.InRange → t.registry.select name (t.value id) args = .ok (some key) →
    t.child? id key true = some m ∧ t' = t
  mem_children_iff : (∃ key, (key, m) ∈ (t.children id).map fun child ↦ (child.1, child.2.id)) ↔
    ∃ key : Key, key.InRange ∧ t.registry.select name (t.value id) args = .ok (some key)

theorem filtered_of_formula_eq_none (hs : s.formula = none) (t : Tree) (id : NodeId) :
    t.filtered s id = (some id, t) := by
  have hverdict : t.evaluates s id = (true, t) := by
    unfold evaluates Segment.verdict
    rw [hs]
    rfl
  rw [filtered, hverdict]
  rfl

/-- Without a formula and at one node, a segment matches what the outcome of its operation is. -/
theorem segmentMatches_special (hs : s.selector = .special name args) (hformula : s.formula = none)
    (hrecursive : s.recursive = false) (t : Tree) (id : NodeId) :
    t.segmentMatches s id =
      match outcome t.registry name args (t.view id) with
      | .failed e => ([], t.report s.raw (.operation e))
      | .child c => ([c.id], t)
      | .result v => ([(t.adoptScratch v).1], (t.adoptScratch v).2) := by
  have hone : t.segmentMatches s id =
      ((t.special s name args (t.view id)).1.toList, (t.special s name args (t.view id)).2) := by
    unfold segmentMatches
    rw [hs]
    simp [Segment.targets, hrecursive, specials]
  rw [hone, special_eq]
  cases outcome t.registry name args (t.view id) with
  | failed e => rfl
  | child c =>
    dsimp only
    rw [filtered_of_formula_eq_none hformula]
    rfl
  | result v =>
    dsimp only
    rw [filtered_of_formula_eq_none hformula]
    rfl

namespace Sound

/-- The child that is picked shows the result. -/
theorem shows_child (h : t.Sound) {c : Node} (hkey : key.InRange)
    (hselect : t.registry.select name (t.value id) args = .ok (some key))
    (hc : (t.view id).child? key true = some c) (hmem : (key, c) ∈ (t.view id).children) :
    t.Shows name args id c.toJson c.id t where
  value := value_of_node? (h.node?_of_child? hc).1
  log := rfl
  child {other} _ hother := by
    have heq : key = other := Option.some.inj (Except.ok.inj (hselect.symm.trans hother))
    refine ⟨?_, rfl⟩
    rw [child?, ← heq, hc]
    rfl
  mem_children_iff :=
    ⟨fun _ ↦ ⟨key, hkey, hselect⟩, fun _ ↦ ⟨key, List.mem_map.2 ⟨(key, c), hmem, rfl⟩⟩⟩

/-- Where no child is picked, a new node shows the result. -/
theorem shows_result (h : t.Sound) (hresult : result.Distinct)
    (hnone : ∀ key : Key, key.InRange →
      t.registry.select name (t.value id) args ≠ .ok (some key)) :
    t.Shows name args id result (t.adoptScratch result).1 (t.adoptScratch result).2 where
  value := by
    rw [value_of_node? (h.node?_result hresult), resultNode, Node.toJson_build]
  log := rfl
  child hkey hselect := absurd hselect (hnone _ hkey)
  mem_children_iff := by
    constructor
    · -- a child is live, and the handle of a new node was not
      rintro ⟨key, hmem⟩
      obtain ⟨⟨k, c⟩, hc, heq⟩ := List.mem_map.1 hmem
      have hbelow : c ∈ (t.view id).descendants :=
        Node.mem_descendants_of_mem_childNodes (Node.mem_childNodes.2 ⟨k, hc⟩)
      have hlive := mem_ids_of_node? (h.node?_of_mem_view hbelow)
      rw [(Prod.mk.inj heq).2] at hlive
      exact absurd hlive (h.notMem_ids_of_mem_resultNode hresult (t.result_mem_ids result))
    · rintro ⟨key, hkey, hselect⟩
      exact absurd hselect (hnone key hkey)

/-- Without a formula and at one node, a segment matches one node that shows the result of its
operation, or nothing with one failure logged, if the operation is coherent there. -/
theorem segmentMatches_of_agrees (h : t.Sound) (hr : t.registry.Agrees name args (t.view id))
    (hs : s.selector = .special name args) (hargs : ∀ arg ∈ args, arg.Distinct)
    (hformula : s.formula = none) (hrecursive : s.recursive = false) :
    match t.registry.call name (t.value id) args with
    | .ok result => ∃ m t', t.segmentMatches s id = ([m], t') ∧
      t.Shows name args id result m t'
    | .error e => t.segmentMatches s id = ([], t.report s.raw (.operation e)) := by
  have hdistinct := h.distinct_view id
  rw [segmentMatches_special hs hformula hrecursive]
  cases hcall : t.registry.call name (t.value id) args with
  | error e => rw [outcome_of_call_error hr hcall]
  | ok result =>
    by_cases hpicked : ∃ key : Key, key.InRange ∧
        t.registry.select name (t.value id) args = .ok (some key)
    · obtain ⟨key, hkey, hselect⟩ := hpicked
      obtain ⟨c, hmem, hc, hresult⟩ := Registry.exists_of_select hr hselect
      obtain rfl : c.toJson = result := Except.ok.inj (hresult.symm.trans hcall)
      rw [outcome_of_select hselect (hc hkey)]
      exact ⟨c.id, t, rfl, h.shows_child hkey hselect (hc hkey) hmem⟩
    · have hnone : ∀ key : Key, key.InRange →
          t.registry.select name (t.value id) args ≠ .ok (some key) :=
        fun key hkey hselect ↦ hpicked ⟨key, hkey, hselect⟩
      have hresult : result.Distinct := Registry.distinct_of_call hcall hdistinct hargs
      rw [outcome_of_call hr hcall hnone]
      exact ⟨_, _, rfl, h.shows_result hresult hnone⟩

end Sound

/-- Which child an operation of every query picks and what its result is agree at every node. A
segment that invokes such an operation at one node without testing the result matches one node that
shows the result, a child exactly if one is picked, or nothing with one failure logged. So it does
where there is no operation of its name. -/
theorem special_coherent (ht : t.Reachable) (id : NodeId) :
    (∀ (op : Builtin) (args : List Json), op.Coherent args (t.view id)) ∧
      ∀ (s : Segment) (name : String) (args : List Json), s.selector = .special name args →
        s.selector.WellFormed → s.formula = none → s.recursive = false →
          (∀ op, t.registry.get? name = some op → ∃ b : Builtin, b.operation = op) →
            match t.registry.call name (t.value id) args with
            | .ok result => ∃ m t', t.segmentMatches s id = ([m], t') ∧
              t.Shows name args id result m t'
            | .error e => t.segmentMatches s id = ([], t.report s.raw (.operation e)) := by
  have hcoherent := Node.coherent (ht.sound.distinct_view id)
  refine ⟨hcoherent, fun s name args hs hargs hformula hrecursive hname ↦ ?_⟩
  have hagrees : t.registry.Agrees name args (t.view id) := by
    intro op hop
    obtain ⟨b, rfl⟩ := hname op hop
    exact (hcoherent b args).toCoherent
  rw [hs] at hargs
  exact ht.sound.segmentMatches_of_agrees hagrees hs hargs hformula hrecursive

/-- The earliest of the smallest children. -/
theorem special_coherent_min :
    ∃ m t', (ofJson .builtin (.array [.bool true, .bool false, .bool false])).segmentMatches
        ⟨"\x7bmin\x7d", .special "min" [], none, false⟩ ⟨0, 0⟩ = ([m], t') ∧
      t'.value m = .bool false ∧
      (ofJson .builtin (.array [.bool true, .bool false, .bool false])).child? ⟨0, 0⟩
        (.index 1) true = some m := by
  have ht : (ofJson .builtin (.array [.bool true, .bool false, .bool false])).Reachable :=
    .ofJson _ (by simp [Json.bool])
  obtain ⟨m, t', hmatch, hshows⟩ := (special_coherent ht ⟨0, 0⟩).2
    ⟨"\x7bmin\x7d", .special "min" [], none, false⟩ "min" [] rfl (List.forall_mem_nil _) rfl rfl
    fun op hop ↦ ⟨.min, Option.some.inj ((Registry.get?_builtin .min).symm.trans hop)⟩
  exact ⟨m, t', hmatch, hshows.value, (hshows.child (by decide) rfl).1⟩

end Tree

end

end DocPath

import DocPath.Proofs.Path.Group
import DocPath.Proofs.Tree.Pick
import DocPath.Proofs.Tree.ReadOnly

/-!
# Filters

A formula in parentheses behind a path filters what the path leads to, and does nothing else
(`findValues_filter`): it does not keep a recursive segment from going on below what it does not
accept, and it does not change the order. This holds for children, which are looked at through the
tree, as for the results of operations, which are put into the tree before the formula looks at
them.

A search with the formula is followed beside the search without it. The trees on both sides differ
in what is logged and, when results are dropped at the end, in those that only one of them holds;
what is found on one side is what the formula accepts of the other side (`Sifts`).
-/

namespace DocPath.Tree

open DocPath.Path (Segment)

variable {t : Tree} {id : NodeId} {n : Node} {s last : Segment} {formula : String}

/-- The tree with another log. -/
def withLog (t : Tree) (log : List Diagnostic) : Tree :=
  { t with log := log }

theorem exists_log_evaluates (t : Tree) (s : Segment) (id : NodeId) :
    ∃ log, (t.evaluates s id).2 = t.withLog log := by
  unfold evaluates
  cases s.verdict (t.value id) with
  | ok b => exact ⟨t.log, rfl⟩
  | error e => exact ⟨_, rfl⟩

/-- What is found with a formula, beside what is found without it: those of the live nodes found
there that the formula accepts, in the same tree but for its log. -/
structure Sifts (formula : String) (found found' : List NodeId × Tree) : Prop where
  tree : ∃ log, found'.2 = found.2.withLog log
  live : ∀ i ∈ found.1, i ∈ found.2.ids
  kept : found'.1 = found.1.filter fun i ↦
    accepts ((Formula.compile formula).test (found.2.value i))

namespace Sifts

variable {found found' others others' : List NodeId × Tree}

theorem nil (t : Tree) (log : List Diagnostic) : Sifts formula ([], t) ([], t.withLog log) :=
  ⟨⟨log, rfl⟩, List.forall_mem_nil _, rfl⟩

/-- What is found later does not change the values of what was found before. -/
theorem append (h : Sifts formula found found') (h' : Sifts formula others others')
    (hgrows : found.2.Grows others.2) :
    Sifts formula (found.1 ++ others.1, others.2) (found'.1 ++ others'.1, others'.2) where
  tree := h'.tree
  live i hi := by
    rcases List.mem_append.1 hi with hi | hi
    · exact hgrows.ids_subset (h.live i hi)
    · exact h'.live i hi
  kept := by
    have hvalue : ∀ i ∈ found.1, others.2.value i = found.2.value i := fun i hi ↦
      congrArg Node.toJson (hgrows.view_eq (h.live i hi))
    rw [List.filter_append, h.kept, h'.kept]
    refine congrArg (· ++ _) (List.filter_congr fun i hi ↦ ?_)
    rw [hvalue i hi]

end Sifts

/-! ### At a node -/

theorem sifts_filtered (hs : s.formula = none) (hid : id ∈ t.ids) (log : List Diagnostic) :
    Sifts formula ((t.filtered s id).1.toList, (t.filtered s id).2)
      (((t.withLog log).filtered (s.filterBy formula) id).1.toList,
        ((t.withLog log).filtered (s.filterBy formula) id).2) := by
  rw [filtered_of_formula_eq_none hs]
  refine ⟨?_, ?_, ?_⟩
  · exact (t.withLog log).exists_log_evaluates (s.filterBy formula) id
  · simpa using hid
  · have hverdict : ((t.withLog log).evaluates (s.filterBy formula) id).1 =
        accepts ((Formula.compile formula).test (t.value id)) := rfl
    unfold filtered
    rw [hverdict]
    cases haccepts : accepts ((Formula.compile formula).test (t.value id)) <;> simp [haccepts]

theorem sifts_special (h : t.Sound) (hs : s.formula = none) (formula operation : String)
    {args : List Json} (hargs : ∀ arg ∈ args, arg.Distinct) (hn : n.toJson.Distinct)
    (hlive : ∀ c ∈ n.childNodes, c.id ∈ t.ids) (log : List Diagnostic) :
    Sifts formula ((t.special s operation args n).1.toList, (t.special s operation args n).2)
      (((t.withLog log).special (s.filterBy formula) operation args n).1.toList,
        ((t.withLog log).special (s.filterBy formula) operation args n).2) := by
  have hregistry : (t.withLog log).registry = t.registry := rfl
  rw [special_eq, special_eq, hregistry]
  cases houtcome : outcome t.registry operation args n with
  | failed e => exact .nil _ _
  | child c => exact sifts_filtered hs (hlive c (mem_childNodes_of_outcome houtcome)) log
  | result v =>
    have hresult := whileHeld_live.result h (distinct_of_outcome houtcome hargs hn)
    exact sifts_filtered hs hresult log

theorem sifts_specials (h : t.Sound) (hs : s.formula = none) (formula operation : String)
    {args : List Json} (hargs : ∀ arg ∈ args, arg.Distinct) {nodes : List Node}
    (hn : ∀ n ∈ nodes, n.toJson.Distinct)
    (hlive : ∀ n ∈ nodes, ∀ c ∈ n.childNodes, c.id ∈ t.ids) (log : List Diagnostic) :
    Sifts formula (t.specials s operation args nodes)
      ((t.withLog log).specials (s.filterBy formula) operation args nodes) := by
  induction nodes generalizing t log with
  | nil => exact .nil t log
  | cons n rest ih =>
    rw [List.forall_mem_cons] at hn hlive
    have hfirst := sifts_special h hs formula operation hargs hn.1 hlive.1 log
    have hgrows := t.grows_special s operation args n
    obtain ⟨log', hlog⟩ := hfirst.tree
    have hrest := ih ((leads_special s hargs hn.1).sound h) hn.2
      (fun m hm c hc ↦ hgrows.ids_subset (hlive.2 m hm c hc)) log'
    rw [← hlog] at hrest
    rw [specials_cons, specials_cons]
    exact hfirst.append hrest (grows_specials _ s operation args rest)

/-- The children or descendants that a segment matches with a formula are the accepted ones among
all that it matches without. -/
theorem Sound.accepted_filterBy (h : t.Sound) (hs : s.formula = none) (formula : String)
    (id : NodeId) :
    (s.filterBy formula).accepted (s.reach (t.view id)) =
      (s.accepted (s.reach (t.view id))).filter fun i ↦
        accepts ((Formula.compile formula).test (t.value i)) := by
  have hall : s.accepted (s.reach (t.view id)) =
      ((s.reach (t.view id)).filter s.takes).map fun e ↦ e.child.id := by
    have hverdict : ∀ v, s.verdict v = .ok true := fun v ↦ by rw [Segment.verdict, hs]
    simp [Segment.accepted, hverdict, accepts]
  rw [hall, List.filter_map]
  refine congrArg (List.map _) (List.filter_congr fun e he ↦ ?_)
  have hvalue := (h.of_mem_reach (List.mem_of_mem_filter he)).1
  rw [Function.comp_apply, hvalue]
  rfl

theorem sifts_segmentMatches (h : t.Sound) (hwf : s.selector.WellFormed) (hs : s.formula = none)
    (formula : String) (id : NodeId) (log : List Diagnostic) :
    Sifts formula (t.segmentMatches s id)
      ((t.withLog log).segmentMatches (s.filterBy formula) id) := by
  by_cases hspecial : ∃ operation args, s.selector = .special operation args
  · obtain ⟨operation, args, hselector⟩ := hspecial
    rw [segmentMatches_of_special hselector,
      segmentMatches_of_special (s := s.filterBy formula) hselector]
    rw [hselector] at hwf
    exact sifts_specials h hs formula operation hwf
      (fun m hm ↦ distinct_of_mem_targets s hm (h.distinct_view id))
      (fun m hm ↦ h.child_mem_ids (mem_of_mem_targets hm)) log
  · have hplain : ∀ operation args, s.selector ≠ .special operation args :=
      fun operation args hselector ↦ hspecial ⟨operation, args, hselector⟩
    have hlive := whileHeld_live.segmentMatches h hwf id
    rw [segmentMatches_of_ne_special hplain] at hlive ⊢
    rw [segmentMatches_of_ne_special (s := s.filterBy formula) hplain]
    exact ⟨⟨_, rfl⟩, hlive, h.accepted_filterBy hs formula id⟩

theorem sifts_segmentMatchesAll (h : t.Sound) (hwf : s.selector.WellFormed)
    (hs : s.formula = none) (formula : String) (ids : List NodeId) (log : List Diagnostic) :
    Sifts formula (t.segmentMatchesAll s ids)
      ((t.withLog log).segmentMatchesAll (s.filterBy formula) ids) := by
  induction ids generalizing t log with
  | nil => exact .nil t log
  | cons id rest ih =>
    have hfirst := sifts_segmentMatches h hwf hs formula id log
    obtain ⟨log', hlog⟩ := hfirst.tree
    have hrest := ih ((leads_segmentMatches hwf h id).sound h) log'
    rw [← hlog] at hrest
    rw [segmentMatchesAll_cons, segmentMatchesAll_cons]
    exact hfirst.append hrest (grows_segmentMatchesAll _ s rest)

/-! ### In a search -/

/-- The values at handles to keep stay when the other results are dropped. -/
theorem Sound.map_value_releaseScratch (h : t.Sound) {ids : List NodeId}
    (hlive : ∀ i ∈ ids, i ∈ t.ids) : ids.map (t.releaseScratch ids).value = ids.map t.value := by
  exact List.map_congr_left fun i hi ↦
    congrArg Node.toJson (h.view_releaseScratch hi (hlive i hi))

/-- The values that are found with a formula are the accepted ones, also when on both sides those
results are dropped that hold nothing that was found there. -/
theorem Sifts.map_value_releaseScratch {found found' : List NodeId × Tree}
    (h : Sifts formula found found') (hsound : found.2.Sound) :
    found'.1.map (found'.2.releaseScratch found'.1).value =
      (found.1.map (found.2.releaseScratch found.1).value).filter fun v ↦
        accepts ((Formula.compile formula).test v) := by
  obtain ⟨log, htree⟩ := h.tree
  have hsublist : ∀ i ∈ found'.1, i ∈ found.2.ids := fun i hi ↦ by
    rw [h.kept] at hi
    exact h.live i (List.mem_of_mem_filter hi)
  have hvalue : found'.1.map (found'.2.releaseScratch found'.1).value =
      found'.1.map found.2.value := by
    rw [htree, ← hsound.map_value_releaseScratch hsublist]
    rfl
  rw [hvalue, hsound.map_value_releaseScratch h.live, h.kept, List.filter_map]
  rfl

/-- With one segment the search ends where the segment has matched. -/
theorem walk_singleton (t : Tree) (ids : List NodeId) (s : Segment) :
    t.walk ids [s] = ((t.segmentMatchesAll s ids).1,
      (t.segmentMatchesAll s ids).2.releaseScratch (t.segmentMatchesAll s ids).1) := by
  rw [walk_cons]
  split
  · rename_i hempty
    rw [List.isEmpty_iff.1 hempty]
  · rfl

/-- Segments lead to the same nodes whether the last one has a formula or not, except that the
formula filters the last ones. -/
theorem map_value_walk (h : t.Sound) {init : List Segment}
    (hwf : ∀ s ∈ init ++ [last], s.selector.WellFormed) (hlast : last.formula = none)
    (formula : String) (ids : List NodeId) :
    ((t.walk ids (init ++ [last.filterBy formula])).1.map
        (t.walk ids (init ++ [last.filterBy formula])).2.value) =
      ((t.walk ids (init ++ [last])).1.map (t.walk ids (init ++ [last])).2.value).filter fun v ↦
        accepts ((Formula.compile formula).test v) := by
  induction init generalizing t ids with
  | nil =>
    rw [List.nil_append, List.forall_mem_singleton] at hwf
    rw [List.nil_append, List.nil_append, walk_singleton, walk_singleton]
    exact (sifts_segmentMatchesAll h hwf hlast formula ids t.log).map_value_releaseScratch
      ((leads_segmentMatchesAll hwf h ids).sound h)
  | cons s init ih =>
    rw [List.cons_append, List.forall_mem_cons] at hwf
    have hsound := (leads_segmentMatchesAll hwf.1 h ids).sound h
    rw [List.cons_append, List.cons_append, walk_cons, walk_cons]
    split
    · rfl
    · exact ih (hsound.releaseScratch _) hwf.2 _

/-- A formula in parentheses behind a path only filters the values that the path leads to. The path
must end with a token that is not empty, has no formula and leaves no backslash unpaired, and the
formula must be closed in itself. A value for which the formula fails is left out. -/
theorem findValues_filter (ht : t.Reachable) {raw : String} {p : Path}
    (hp : Path.parse raw = .ok p) {tokens : List (List Char)} {token : List Char}
    (htokens : Path.tokenize raw = .ok tokens) (hlast : tokens.getLast? = some token)
    (hne : token ≠ []) (hplain : Path.trailingGroup? token = none)
    (hpaired : Path.endsUnpaired raw.toList = false) {formula : String}
    (hformula : Path.Enclosed formula.toList) :
    ∃ p' values values' t' t'', Path.parse (raw ++ "(" ++ formula ++ ")") = .ok p' ∧
      t.findValues raw = .ok (values, t') ∧
      t.findValues (raw ++ "(" ++ formula ++ ")") = .ok (values', t'') ∧
      values' = values.filter fun v ↦ accepts ((Formula.compile formula).test v) := by
  obtain ⟨init, last, hsegments, hnone, hp'⟩ :=
    hformula.parse_group hp htokens hlast hne hplain hpaired
  have hwf := Path.wellFormed_of_parse hp
  rw [hsegments] at hwf
  refine ⟨_, _, _, _, _, hp', by rw [findValues_eq, hp]; rfl, by rw [findValues_eq, hp']; rfl, ?_⟩
  rw [findPath_eq_walk, findPath_eq_walk, hsegments]
  exact map_value_walk (ht.sound.releaseScratch _) hwf hnone formula _

/-- The first items at all depths, and those among them that are true. -/
theorem findValues_filter_first :
    ∃ t', (ofJson .builtin (.array [.array [.bool false], .bool true])).findValues
      ("..\x7bfirst\x7d" ++ "(" ++ "$" ++ ")") = .ok ([.array [.bool false]], t') := by
  have ht : (ofJson .builtin (.array [.array [.bool false], .bool true])).Reachable :=
    .ofJson _ (by simp [Json.bool])
  have hparse : Path.parse "..\x7bfirst\x7d" = .ok ⟨"..\x7bfirst\x7d",
      [⟨"\x7bfirst\x7d", .special "first" [], none, true⟩]⟩ := rfl
  have htokens : Path.tokenize "..\x7bfirst\x7d" = .ok [[], [], "\x7bfirst\x7d".toList] := rfl
  have hformula : Path.Enclosed "$".toList := ⟨rfl, rfl⟩
  obtain ⟨p', values, values', t', t'', -, hvalues, hvalues', rfl⟩ :=
    findValues_filter ht hparse htokens rfl (by decide) rfl rfl hformula
  rw [findValues_eq, hparse] at hvalues
  obtain ⟨rfl, -⟩ := Prod.mk.inj (Except.ok.inj hvalues)
  have hfound : ((ofJson .builtin (.array [.array [.bool false], .bool true])).findPath
      ⟨"..\x7bfirst\x7d", [⟨"\x7bfirst\x7d", .special "first" [], none, true⟩]⟩).1.map
        ((ofJson .builtin (.array [.array [.bool false], .bool true])).findPath
          ⟨"..\x7bfirst\x7d", [⟨"\x7bfirst\x7d", .special "first" [], none, true⟩]⟩).2.value =
      [.array [.bool false], .bool false] := rfl
  rw [hfound] at hvalues'
  exact ⟨t'', hvalues'⟩

end DocPath.Tree

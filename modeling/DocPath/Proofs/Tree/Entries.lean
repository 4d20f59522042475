import DocPath.Proofs.Tree.Equations
import DocPath.Query

/-!
# Lists of entries

Every change by path takes a list of entries, and a list is as good as its entries given one after
the other, up to the first one with a path that is none. `Sequential` says how an operation begins
with a list: the first entry is either accepted or refused, and which of the two is a matter of its
paths alone, whatever the tree and however filters and operations fail on the way. By induction on
the list the operation is `EntryByEntry` then, and so are all seven
(`entryByEntry_changes`).

What the list gives is made of what the entries give, which for deleting is the sum of the counts.
-/

namespace DocPath.Tree

variable {α β : Type} {op : Tree → List α → Except PathError β × Tree} {paths : α → List String}
  {total : List β → β} {combine : β → β → β} {t : Tree} {a : α}

/-- All the texts spell paths. -/
def Spelled (raws : List String) : Prop :=
  ∀ raw ∈ raws, ∃ p, Path.parse raw = .ok p

/-- Some of the texts spells no path, and why. -/
def Misspelled (raws : List String) (e : PathError) : Prop :=
  ∃ raw ∈ raws, Path.parse raw = .error e

/-- The entries given one at a time: the outcomes, and what the tree comes to. -/
def oneByOne (op : Tree → List α → Except PathError β × Tree) (t : Tree) :
    List α → List (Except PathError β) × Tree
  | [] => ([], t)
  | a :: rest =>
    ((op t [a]).1 :: (oneByOne op (op t [a]).2 rest).1, (oneByOne op (op t [a]).2 rest).2)

/-- An operation treats a list of entries as if they were given one at a time, up to the first one
with a path that is none. So does the operation `change` on plain values. The result for the list is
the `total` of those for the entries. -/
structure EntryByEntry (op : Tree → List α → Except PathError β × Tree)
    (change : Json → List α → Except PathError β × Json) (paths : α → List String)
    (total : List β → β) : Prop where
  /-- An error comes from a path, and a text that is no path always makes one. -/
  fails_iff : ∀ t entries, (∃ e, (op t entries).1 = .error e) ↔
    ∃ a ∈ entries, ∃ e, Misspelled (paths a) e
  /-- The first entry with such a text stops the list. -/
  stops : ∀ t before a rest, (∀ b ∈ before, Spelled (paths b)) → ¬ Spelled (paths a) →
    ∃ e, Misspelled (paths a) e ∧
      op t (before ++ a :: rest) = (.error e, (oneByOne op t before).2)
  /-- Without one no entry fails. -/
  runs : ∀ t entries, (∀ a ∈ entries, Spelled (paths a)) →
    ∃ results : List β, (oneByOne op t entries).1 = results.map .ok ∧
      op t entries = (.ok (total results), (oneByOne op t entries).2)
  /-- A value becomes the document that its tree comes to, with an error and without. -/
  writes : ∀ v entries, change v entries =
    ((op (ofJson .builtin v) entries).1, (op (ofJson .builtin v) entries).2.document)

theorem not_spelled_iff {raws : List String} : ¬ Spelled raws ↔ ∃ e, Misspelled raws e := by
  constructor
  · intro h
    obtain ⟨raw, hraw, hnone⟩ : ∃ raw ∈ raws, ¬ ∃ p, Path.parse raw = .ok p := by
      simpa only [Spelled, not_forall, exists_prop] using h
    cases hparse : Path.parse raw with
    | ok p => exact absurd ⟨p, hparse⟩ hnone
    | error e => exact ⟨e, raw, hraw, hparse⟩
  · rintro ⟨e, raw, hraw, he⟩ h
    obtain ⟨p, hp⟩ := h raw hraw
    rw [hp] at he
    cases he

/-! ### One entry and the rest -/

/-- What an operation does with the first entry of a list depends on no later one, and whether it
refuses the entry depends on nothing but its paths. The rest of the list finds the tree that the
entry alone leaves behind, and its result is combined with that of the entry. -/
structure Sequential (op : Tree → List α → Except PathError β × Tree) (paths : α → List String)
    (total : List β → β) (combine : β → β → β) : Prop where
  total_cons : ∀ result results, total (result :: results) = combine result (total results)
  nil : ∀ t, op t [] = (.ok (total []), t)
  accept : ∀ t a, Spelled (paths a) → ∃ result, (op t [a]).1 = .ok result ∧ ∀ rest,
    op t (a :: rest) =
      ((op (op t [a]).2 rest).1.map (combine result), (op (op t [a]).2 rest).2)
  refuse : ∀ t a, ¬ Spelled (paths a) → ∃ e, Misspelled (paths a) e ∧ ∀ rest,
    op t (a :: rest) = (.error e, t)

namespace Sequential

theorem runs (h : Sequential op paths total combine) (t : Tree) {entries : List α}
    (hentries : ∀ a ∈ entries, Spelled (paths a)) :
    ∃ results : List β, (oneByOne op t entries).1 = results.map .ok ∧
      op t entries = (.ok (total results), (oneByOne op t entries).2) := by
  induction entries generalizing t with
  | nil => exact ⟨[], rfl, h.nil t⟩
  | cons a rest ih =>
    obtain ⟨ha, hrest⟩ := List.forall_mem_cons.1 hentries
    obtain ⟨result, hone, hcons⟩ := h.accept t _ ha
    obtain ⟨results, hresults, hop⟩ := ih (op t [a]).2 hrest
    refine ⟨result :: results, ?_, ?_⟩
    · rw [oneByOne, hone, hresults, List.map_cons]
    · rw [hcons, hop, oneByOne, h.total_cons]
      rfl

theorem stops (h : Sequential op paths total combine) (t : Tree) {before : List α}
    (hbefore : ∀ b ∈ before, Spelled (paths b)) (ha : ¬ Spelled (paths a)) (rest : List α) :
    ∃ e, Misspelled (paths a) e ∧
      op t (before ++ a :: rest) = (.error e, (oneByOne op t before).2) := by
  induction before generalizing t with
  | nil =>
    obtain ⟨e, he, hop⟩ := h.refuse t a ha
    exact ⟨e, he, hop rest⟩
  | cons b before ih =>
    obtain ⟨hb, hbefore'⟩ := List.forall_mem_cons.1 hbefore
    obtain ⟨result, -, hcons⟩ := h.accept t _ hb
    obtain ⟨e, he, hop⟩ := ih (op t [b]).2 hbefore'
    refine ⟨e, he, ?_⟩
    rw [List.cons_append, hcons, hop, oneByOne]
    rfl

theorem fails_iff (h : Sequential op paths total combine) (t : Tree) (entries : List α) :
    (∃ e, (op t entries).1 = .error e) ↔ ∃ a ∈ entries, ∃ e, Misspelled (paths a) e := by
  induction entries generalizing t with
  | nil => simp [h.nil]
  | cons a rest ih =>
    rw [List.exists_mem_cons_iff, ← not_spelled_iff]
    by_cases ha : Spelled (paths a)
    · obtain ⟨result, -, hcons⟩ := h.accept t _ ha
      rw [hcons, ← ih (op t [a]).2, or_iff_right (not_not_intro ha)]
      cases (op (op t [a]).2 rest).1 <;> simp [Except.map]
    · obtain ⟨e, -, hop⟩ := h.refuse t a ha
      exact ⟨fun _ ↦ .inl ha, fun _ ↦ ⟨e, congrArg Prod.fst (hop rest)⟩⟩

theorem entryByEntry (h : Sequential op paths total combine) :
    EntryByEntry op (fun v entries ↦ Query.apply (op · entries) v) paths total where
  fails_iff := h.fails_iff
  stops t _ _ rest hbefore ha := h.stops t hbefore ha rest
  runs t _ hentries := h.runs t hentries
  writes _ _ := rfl

end Sequential

/-! ### The operations -/

/-- An operation that treats entries in order is sequential if every one of its steps succeeds or
fails as the paths of the entry do. -/
theorem sequential_forEach {step : Tree → α → Except PathError Tree}
    (hok : ∀ t a, Spelled (paths a) → ∃ t', step t a = .ok t')
    (herror : ∀ t a, ¬ Spelled (paths a) → ∃ e, Misspelled (paths a) e ∧ step t a = .error e) :
    Sequential (fun t entries ↦ t.forEach step entries) paths (fun _ ↦ ()) fun _ _ ↦ () where
  total_cons _ _ := rfl
  nil t := t.forEach_nil step
  accept t a ha := by
    obtain ⟨t', hstep⟩ := hok t a ha
    have hone : t.forEach step [a] = (.ok (), t') := by
      rw [forEach_cons_ok hstep, forEach_nil]
    refine ⟨(), congrArg Prod.fst hone, fun rest ↦ ?_⟩
    rw [forEach_cons_ok hstep, hone]
    rcases t'.forEach step rest with ⟨_ | _, u⟩ <;> rfl
  refuse t a ha := by
    obtain ⟨e, he, hstep⟩ := herror t a ha
    exact ⟨e, he, fun rest ↦ forEach_cons_error hstep rest⟩

theorem spelled_singleton {raw : String} : Spelled [raw] ↔ ∃ p, Path.parse raw = .ok p :=
  List.forall_mem_singleton

/-- A single text that spells no path is misspelled in one way. -/
theorem exists_parse_eq_error {raw : String} (h : ¬ Spelled [raw]) :
    ∃ e, Misspelled [raw] e ∧ Path.parse raw = .error e := by
  obtain ⟨e, raw', hraw', he⟩ := not_spelled_iff.1 h
  rw [List.mem_singleton.1 hraw'] at he
  exact ⟨e, ⟨raw, List.mem_singleton_self raw, he⟩, he⟩

/-- An operation with one path for an entry, which it does not look at otherwise. -/
theorem sequential_forEach_map {step : Tree → α → Except PathError Tree} {raw : α → String}
    {write : Tree → α → Path → Tree}
    (hstep : ∀ t a, step t a = (Path.parse (raw a)).map (write t a)) :
    Sequential (fun t entries ↦ t.forEach step entries) (fun a ↦ [raw a]) (fun _ ↦ ())
      fun _ _ ↦ () := by
  refine sequential_forEach (fun t a ha ↦ ?_) fun t a ha ↦ ?_
  · obtain ⟨p, hp⟩ := spelled_singleton.1 ha
    exact ⟨write t a p, by rw [hstep, hp]; rfl⟩
  · obtain ⟨e, he, hparse⟩ := exists_parse_eq_error ha
    exact ⟨e, he, by rw [hstep, hparse]; rfl⟩

theorem sequential_set :
    Sequential set (fun entry ↦ [entry.1]) (fun _ ↦ ()) fun _ _ ↦ () :=
  sequential_forEach_map setOne_eq

theorem sequential_bridge :
    Sequential bridge (fun entry ↦ [entry.1]) (fun _ ↦ ()) fun _ _ ↦ () :=
  sequential_forEach_map bridgeOne_eq

/-- The target of a transfer is read before its origin. -/
theorem sequential_transfer (all moving : Bool) :
    Sequential (transfer all moving) (fun entry ↦ [entry.2, entry.1]) (fun _ ↦ ())
      fun _ _ ↦ () := by
  refine sequential_forEach (fun t entry hentry ↦ ?_) fun t entry hentry ↦ ?_
  · obtain ⟨htarget, horigin⟩ := List.forall_mem_cons.1 hentry
    obtain ⟨target, htarget⟩ := htarget
    obtain ⟨origin, horigin⟩ := spelled_singleton.1 horigin
    exact ⟨transferPath all moving t origin target, by rw [transferOne_eq, htarget, horigin]; rfl⟩
  · cases htarget : Path.parse entry.2 with
    | error e =>
      exact ⟨e, ⟨_, List.mem_cons_self .., htarget⟩, by rw [transferOne_eq, htarget]; rfl⟩
    | ok target =>
      have horigin : ¬ Spelled [entry.1] := fun h ↦
        hentry (List.forall_mem_cons.2 ⟨⟨target, htarget⟩, h⟩)
      obtain ⟨e, -, he⟩ := exists_parse_eq_error horigin
      refine ⟨e, ⟨_, List.mem_cons_of_mem _ (List.mem_singleton_self _), he⟩, ?_⟩
      rw [transferOne_eq, htarget, he]
      rfl

/-- The count that deleting begins with is added in the end. -/
theorem deleteFrom_eq (count : Nat) (t : Tree) (raws : List String) :
    t.deleteFrom count raws = ((t.delete raws).1.map (count + ·), (t.delete raws).2) := by
  unfold delete
  induction raws generalizing count t with
  | nil => rfl
  | cons raw rest ih =>
    rw [deleteFrom_cons, deleteFrom_cons]
    cases Path.parse raw with
    | error e => rfl
    | ok p =>
      dsimp only
      rw [ih, ih (0 + _), Nat.zero_add]
      cases (deleteFrom 0 ((t.findPath p).2.killAll (t.findPath p).1).2 rest).1 <;>
        simp [Except.map, Nat.add_assoc]

theorem sequential_delete :
    Sequential delete (fun raw ↦ [raw]) (List.foldr (· + ·) 0) (· + ·) where
  total_cons _ _ := List.foldr_cons ..
  nil _ := rfl
  accept t raw hraw := by
    obtain ⟨p, hp⟩ := spelled_singleton.1 hraw
    have hcons : ∀ rest, t.delete (raw :: rest) =
        ((((t.findPath p).2.killAll (t.findPath p).1).2.delete rest).1.map
            (((t.findPath p).2.killAll (t.findPath p).1).1 + ·),
          (((t.findPath p).2.killAll (t.findPath p).1).2.delete rest).2) := by
      intro rest
      rw [delete, deleteFrom_cons, hp]
      dsimp only
      rw [deleteFrom_eq, Nat.zero_add]
    have hone : t.delete [raw] = (.ok ((t.findPath p).2.killAll (t.findPath p).1).1,
        ((t.findPath p).2.killAll (t.findPath p).1).2) := hcons []
    exact ⟨_, congrArg Prod.fst hone, fun rest ↦ by rw [hone]; exact hcons rest⟩
  refuse t raw hraw := by
    obtain ⟨e, he, hparse⟩ := exists_parse_eq_error hraw
    refine ⟨e, he, fun rest ↦ ?_⟩
    rw [delete, deleteFrom_cons, hparse]

/-- All changes by path treat a list of entries as if they were given one at a time, and stop at the
first one with a path that is none. -/
theorem entryByEntry_changes :
    EntryByEntry set Query.set (fun entry ↦ [entry.1]) (fun _ ↦ ()) ∧
      EntryByEntry bridge Query.bridge (fun entry ↦ [entry.1]) (fun _ ↦ ()) ∧
      EntryByEntry copy Query.copy (fun entry ↦ [entry.2, entry.1]) (fun _ ↦ ()) ∧
      EntryByEntry copyAll Query.copyAll (fun entry ↦ [entry.2, entry.1]) (fun _ ↦ ()) ∧
      EntryByEntry move Query.move (fun entry ↦ [entry.2, entry.1]) (fun _ ↦ ()) ∧
      EntryByEntry moveAll Query.moveAll (fun entry ↦ [entry.2, entry.1]) (fun _ ↦ ()) ∧
      EntryByEntry delete Query.delete (fun raw ↦ [raw]) (List.foldr (· + ·) 0) := by
  refine ⟨sequential_set.entryByEntry, sequential_bridge.entryByEntry, ?_, ?_, ?_, ?_,
    sequential_delete.entryByEntry⟩
  · exact (sequential_transfer false false).entryByEntry
  · exact (sequential_transfer true false).entryByEntry
  · exact (sequential_transfer false true).entryByEntry
  · exact (sequential_transfer true true).entryByEntry

example :
    Query.delete (.array [.null, .bool true, .null]) ["[0]", "[1]", "[", "[0]"] =
      (.error (.malformed (.missing ']' "[")), .array [.bool true]) := by
  rfl

end DocPath.Tree

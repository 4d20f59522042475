import DocPath.Proofs.Json.Order
import DocPath.Proofs.Tree.Pick

/-!
# The smallest and the largest child

`min` and `max` go through the children with the best one so far and compare each next one with it
alone (`extremeFrom`). Where the order is one of all the values, what they are left with is
`Foremost`: nothing goes before it, and it is the earliest of its ties. There is one such value at
most, and the sorted list has it at its head for `min`, and a tie of it at its end for `max`. So the
three operations agree (`sort_extremes`).
-/

namespace DocPath

namespace Json

variable {direction o : Ordering} {u v w m best : Json} {values seen sorted : List Json}

/-! ### Values that nothing goes before -/

/-- The two values are comparable, and the second does not go before the first in the direction. -/
def Leads (direction : Ordering) (v w : Json) : Prop :=
  ∃ o, w.compare v = some o ∧ o ≠ direction

/-- No value goes before this one in the direction, and it is the earliest of those that tie with
it. -/
structure Foremost (direction : Ordering) (values : List Json) (m : Json) : Prop where
  leads : ∀ w ∈ values, Leads direction m w
  first : values.find? (·.ties m) = some m

theorem leads_lt_iff : Leads .lt v w ↔ v.atMost w := by
  unfold Leads
  rw [atMost_iff, compare_swap w v]
  rcases w.compare v with - | - | - | - <;> simp

theorem leads_gt_iff : Leads .gt v w ↔ w.atMost v := by
  unfold Leads
  rw [atMost_iff]
  rcases w.compare v with - | - | - | - <;> simp

theorem leads_of_ties (hdirection : direction ≠ .eq) (h : v.ties w) : Leads direction v w :=
  ⟨.eq, ties_iff.1 (ties_comm.1 h), hdirection.symm⟩

/-- A value that goes strictly before another one leads it. -/
theorem leads_of_compare (hdirection : direction ≠ .eq) (h : v.compare w = some direction) :
    Leads direction v w := by
  refine ⟨direction.swap, by rw [compare_swap v w, h, Option.map_some], ?_⟩
  cases direction <;> simp at hdirection ⊢

theorem ties_of_leads (hvw : Leads direction v w) (hwv : Leads direction w v)
    (hdirection : direction ≠ .eq) : v.ties w := by
  rw [ties_iff_atMost]
  cases direction with
  | lt => exact ⟨leads_lt_iff.1 hvw, leads_lt_iff.1 hwv⟩
  | gt => exact ⟨leads_gt_iff.1 hwv, leads_gt_iff.1 hvw⟩
  | eq => exact absurd rfl hdirection

theorem Preordered.leads_trans (h : Preordered values) (hu : u ∈ values) (hv : v ∈ values)
    (hw : w ∈ values) (hdirection : direction ≠ .eq) (huv : Leads direction u v)
    (hvw : Leads direction v w) : Leads direction u w := by
  cases direction with
  | lt =>
    rw [leads_lt_iff] at *
    exact h.trans u hu v hv w hw huv hvw
  | gt =>
    rw [leads_gt_iff] at *
    exact h.trans w hw v hv u hu hvw huv
  | eq => exact absurd rfl hdirection

namespace Foremost

theorem mem (h : Foremost direction values m) : m ∈ values :=
  List.mem_of_find?_eq_some h.first

theorem singleton (h : v.compare v = some .eq) (hdirection : direction ≠ .eq) :
    Foremost direction [v] v where
  leads w hw := by
    rw [List.mem_singleton.1 hw]
    exact ⟨.eq, h, hdirection.symm⟩
  first := by simp [ties_iff.2 h]

/-- One more value after the others, compared with the foremost of them alone. -/
theorem append (h : Foremost direction seen best) (hdirection : direction ≠ .eq)
    (horder : Preordered (seen ++ [v])) (ho : v.compare best = some o) :
    Foremost direction (seen ++ [v]) (if o = direction then v else best) := by
  have hv : v ∈ seen ++ [v] := List.mem_append_right _ (List.mem_singleton_self v)
  have hseen : ∀ {w}, w ∈ seen → w ∈ seen ++ [v] := List.mem_append_left _
  split
  · rename_i hbefore
    have hvbest : Leads direction v best := leads_of_compare hdirection (hbefore ▸ ho)
    have hleads : ∀ w ∈ seen, Leads direction v w := fun w hw ↦
      horder.leads_trans hv (hseen h.mem) (hseen hw) hdirection hvbest (h.leads w hw)
    -- a tie from before would make the new value no better than the best one so far
    have hnone : ∀ w ∈ seen, ¬ w.ties v := by
      intro w hw hties
      obtain ⟨o', ho', hne⟩ := horder.leads_trans (hseen h.mem) (hseen hw) hv hdirection
        (h.leads w hw) (leads_of_ties hdirection hties)
      exact hne (Option.some.inj (ho'.symm.trans (hbefore ▸ ho)))
    refine ⟨fun w hw ↦ ?_, ?_⟩
    · rcases List.mem_append.1 hw with hw | hw
      · exact hleads w hw
      · rw [List.mem_singleton.1 hw]
        exact leads_of_ties hdirection (horder.ties_self hv)
    · rw [List.find?_append, List.find?_eq_none.2 hnone]
      simp [horder.ties_self hv]
  · rename_i hnot
    refine ⟨fun w hw ↦ ?_, ?_⟩
    · rcases List.mem_append.1 hw with hw | hw
      · exact h.leads w hw
      · rw [List.mem_singleton.1 hw]
        exact ⟨o, ho, hnot⟩
    · rw [List.find?_append, h.first, Option.some_or]

/-- There is one foremost value at most. -/
theorem unique {m' : Json} (h : Foremost direction values m) (h' : Foremost direction values m')
    (horder : Preordered values) (hdirection : direction ≠ .eq) : m = m' := by
  have hties : m.ties m' := ties_of_leads (h.leads m' h'.mem) (h'.leads m h.mem) hdirection
  exact Option.some.inj
    (h.first.symm.trans ((horder.find?_ties h.mem h'.mem hties).trans h'.first))

end Foremost

namespace StableSort

/-- The earliest value that ties with a given one is the first tie in the sorted list. -/
theorem find?_ties (h : StableSort values sorted) (hu : u ∈ values) :
    sorted.find? (·.ties u) = values.find? (·.ties u) := by
  rw [← List.head?_filter, ← List.head?_filter, h.stable u hu]

/-- The head of the sorted list is the earliest of the smallest values. -/
theorem foremost_head (h : StableSort values sorted) (horder : Preordered values)
    (hfirst : sorted.head? = some m) : Foremost .lt values m := by
  obtain ⟨tail, rfl⟩ := List.head?_eq_some_iff.1 hfirst
  have hm : m ∈ values := h.perm.subset (List.mem_cons_self ..)
  refine ⟨fun w hw ↦ leads_lt_iff.2 ?_, ?_⟩
  · rcases List.mem_cons.1 (h.perm.symm.subset hw) with rfl | hw
    · exact (ties_iff_atMost.1 (horder.ties_self hm)).1
    · exact List.rel_of_pairwise_cons h.ordered hw
  · rw [← h.find?_ties hm, List.find?_cons, horder.ties_self hm]

/-- The earliest tie of the last value of the sorted list is the earliest of the largest values. -/
theorem foremost_last (h : StableSort values sorted) (horder : Preordered values)
    (hlast : sorted.getLast? = some w) :
    ∃ m, values.find? (·.ties w) = some m ∧ Foremost .gt values m := by
  obtain ⟨front, rfl⟩ := List.getLast?_eq_some_iff.1 hlast
  have hw : w ∈ values := h.perm.subset (by simp)
  have hsome : (values.find? (·.ties w)).isSome :=
    List.find?_isSome.2 ⟨w, hw, horder.ties_self hw⟩
  obtain ⟨m, hm⟩ := Option.isSome_iff_exists.1 hsome
  have hmem : m ∈ values := List.mem_of_find?_eq_some hm
  have hties : m.ties w := by simpa using List.find?_some hm
  refine ⟨m, hm, fun x hx ↦ leads_gt_iff.2 ?_, ?_⟩
  · refine horder.trans x hx w hw m hmem ?_ (ties_iff_atMost.1 hties).2
    rcases List.mem_append.1 (h.perm.symm.subset hx) with hx | hx
    · exact (List.pairwise_append.1 h.ordered).2.2 x hx w (List.mem_singleton_self w)
    · rw [List.mem_singleton.1 hx]
      exact (ties_iff_atMost.1 (horder.ties_self hw)).1
  · exact (horder.find?_ties hmem hw hties).trans hm

end StableSort

/-- The values that a container holds, in their order. -/
def elements? : Json → Option (List Json)
  | array items => some items
  | object entries => some (entries.map Prod.snd)
  | scalar _ => none

theorem exists_children? (h : v.elements? = some values) :
    ∃ children, v.children? = some children ∧ children.map Prod.snd = values := by
  cases v with
  | scalar s => cases h
  | array items =>
    cases h
    exact ⟨_, rfl, by simp [List.map_map, Function.comp_def, List.zipIdx_map_fst]⟩
  | object entries =>
    cases h
    exact ⟨_, rfl, by simp [List.map_map, Function.comp_def]⟩

end Json

namespace Builtin

variable {op : Builtin} {direction : Ordering} {v m : Json} {values : List Json}
  {best child found : Key × Json} {children : List (Key × Json)} {e : OperationError}

/-- What holds of the first value and is kept by each comparison holds at the end, and there is an
end if each comparison has an answer. -/
theorem exists_extremeFrom (op : Builtin) {motive : List Json → Json → Prop} {seen : List Json}
    (start : motive seen best.2)
    (step : ∀ seen best, ∀ child ∈ children, motive seen best →
      ∃ o, child.2.compare best = some o ∧
        motive (seen ++ [child.2]) (if o = direction then child.2 else best)) :
    ∃ found, op.extremeFrom direction best children = .ok found ∧
      motive (seen ++ children.map Prod.snd) found.2 := by
  induction children generalizing seen best with
  | nil => exact ⟨best, rfl, by simpa using start⟩
  | cons child rest ih =>
    obtain ⟨o, ho, hnext⟩ := step seen best.2 child (List.mem_cons_self ..) start
    rw [← apply_ite Prod.snd] at hnext
    obtain ⟨found, hfound, hmotive⟩ :=
      ih hnext fun seen best child hmem ↦ step seen best child (List.mem_cons_of_mem _ hmem)
    refine ⟨found, ?_, ?_⟩
    · rw [extremeFrom, ho]
      exact hfound
    · rwa [List.map_cons, List.append_cons]

theorem extremeFrom_append (before after : List (Key × Json)) :
    op.extremeFrom direction best (before ++ after) =
      op.extremeFrom direction best before >>= fun best ↦ op.extremeFrom direction best after := by
  induction before generalizing best with
  | nil => rfl
  | cons child rest ih =>
    rw [List.cons_append, extremeFrom, extremeFrom]
    split
    · exact ih
    · rfl

/-- There is no extreme only where two children are not comparable. -/
theorem extremeFrom_eq_error (h : op.extremeFrom direction best children = .error e) :
    ∃ a b, e = .cannotCompare op.name a b ∧ a.compare b = none := by
  induction children generalizing best with
  | nil => cases h
  | cons child rest ih =>
    rw [extremeFrom] at h
    split at h
    · exact ih h
    · rename_i hnone
      cases h
      exact ⟨_, _, rfl, hnone⟩

theorem extreme_eq (h : v.children? = some (child :: children)) :
    op.extreme direction v = (op.extremeFrom direction child children).map some := by
  simp only [extreme, childrenOf, h, bind, Except.bind]
  cases op.extremeFrom direction child children <;> rfl

/-- What holds of the first value of a container and is kept by each comparison holds of the extreme
one, and there is an extreme one if each comparison has an answer. -/
theorem exists_extreme (op : Builtin) (direction : Ordering) {motive : List Json → Json → Prop}
    (hvalues : v.elements? = some values)
    (start : ∀ first ∈ values.head?, motive [first] first)
    (step : ∀ seen best, ∀ w ∈ values, motive seen best →
      ∃ o, w.compare best = some o ∧ motive (seen ++ [w]) (if o = direction then w else best))
    (hne : values ≠ []) :
    ∃ found, op.extreme direction v = .ok (some found) ∧ motive values found.2 := by
  obtain ⟨children, hchildren, rfl⟩ := Json.exists_children? hvalues
  cases children with
  | nil => exact absurd rfl hne
  | cons child rest =>
    obtain ⟨found, hfound, hmotive⟩ := exists_extremeFrom op (start child.2 rfl)
      fun seen best c hc ↦ step seen best c.2 (List.mem_map_of_mem (List.mem_cons_of_mem _ hc))
    exact ⟨found, by rw [extreme_eq hchildren, hfound]; rfl, hmotive⟩

/-- Where the order is one of all the values, the extreme child has the foremost of them. -/
theorem exists_extreme_foremost (op : Builtin) (hvalues : v.elements? = some values)
    (horder : Json.Preordered values) (hm : Json.Foremost direction values m)
    (hdirection : direction ≠ .eq) :
    ∃ found, op.extreme direction v = .ok (some found) ∧ found.2 = m := by
  -- among those gone through, the best one so far is the foremost
  obtain ⟨found, hfound, -, hforemost⟩ := exists_extreme op direction
    (motive := fun seen best ↦ seen ⊆ values ∧ Json.Foremost direction seen best) hvalues
    (fun first hfirst ↦ by
      have hmem : first ∈ values := List.mem_of_head? hfirst
      exact ⟨by simpa using hmem, .singleton (horder.refl hmem) hdirection⟩)
    (fun seen best w hw ⟨hsub, hbest⟩ ↦ by
      have hnext : seen ++ [w] ⊆ values := List.append_subset.2 ⟨hsub, by simpa using hw⟩
      obtain ⟨o, ho⟩ := Option.isSome_iff_exists.1
        (horder.comparable w hw best (hsub hbest.mem))
      exact ⟨o, ho, hnext, hbest.append hdirection (horder.mono hnext) ho⟩)
    (List.ne_nil_of_mem hm.mem)
  exact ⟨found, hfound, hforemost.unique hm horder hdirection⟩

/-- For the extreme child to lead all the others it is enough that what goes strictly before a value
leads what that value leads. -/
theorem exists_extreme_leads (op : Builtin) (hvalues : v.elements? = some values)
    (hne : values ≠ []) (hcomparable : ∀ x ∈ values, ∀ y ∈ values, (x.compare y).isSome)
    (htrans : ∀ x ∈ values, ∀ y ∈ values, ∀ z ∈ values, x.compare y = some direction →
      Json.Leads direction y z → Json.Leads direction x z)
    (hdirection : direction ≠ .eq) :
    ∃ found, op.extreme direction v = .ok (some found) ∧ found.2 ∈ values ∧
      ∀ w ∈ values, Json.Leads direction found.2 w := by
  have hself : ∀ x ∈ values, Json.Leads direction x x := fun x hx ↦
    ⟨.eq, Json.compare_self (hcomparable x hx x hx), hdirection.symm⟩
  obtain ⟨found, hfound, hmem, -, hleads⟩ := exists_extreme op direction
    (motive := fun seen best ↦ best ∈ values ∧ seen ⊆ values ∧
      ∀ w ∈ seen, Json.Leads direction best w) hvalues
    (fun first hfirst ↦ by
      have hmem : first ∈ values := List.mem_of_head? hfirst
      exact ⟨hmem, by simpa using hmem, by simpa using hself first hmem⟩)
    (fun seen best w hw ⟨hbest, hsub, hleads⟩ ↦ by
      obtain ⟨o, ho⟩ := Option.isSome_iff_exists.1 (hcomparable w hw best hbest)
      have hnext : seen ++ [w] ⊆ values := List.append_subset.2 ⟨hsub, by simpa using hw⟩
      refine ⟨o, ho, ?_, hnext, List.forall_mem_append.2 ⟨fun x hx ↦ ?_, ?_⟩⟩
      · split <;> assumption
      · split
        · rename_i hbefore
          exact htrans w hw best hbest x (hsub hx) (hbefore ▸ ho) (hleads x hx)
        · exact hleads x hx
      · rw [List.forall_mem_singleton]
        split
        · exact hself w hw
        · exact ⟨o, ho, ‹_›⟩)
    hne
  exact ⟨found, hfound, hmem, hleads⟩

/-- A child that is comparable with none of the others is compared with one of them at the latest when
its turn comes. -/
theorem exists_extremeFrom_eq_error (op : Builtin) (direction : Ordering)
    {before after : List (Key × Json)} {stranger : Key × Json} (hne : before ++ after ≠ [])
    (hstranger : ∀ child ∈ before ++ after, stranger.2.compare child.2 = none) :
    ∃ child rest e, before ++ stranger :: after = child :: rest ∧
      op.extremeFrom direction child rest = .error e := by
  cases before with
  | nil =>
    -- the stranger is the best one so far when the next child comes
    obtain ⟨next, rest, rfl⟩ := List.exists_cons_of_ne_nil hne
    have hnext := Json.compare_eq_none_comm.1 (hstranger next (List.mem_cons_self ..))
    exact ⟨stranger, next :: rest, _, rfl, by rw [extremeFrom, hnext]⟩
  | cons first rest =>
    cases hbest : op.extremeFrom direction first rest with
    | error e =>
      exact ⟨first, rest ++ stranger :: after, e, rfl, by rw [extremeFrom_append, hbest]; rfl⟩
    | ok best =>
      have hnone := hstranger best (List.mem_append_left _ (mem_of_extremeFrom hbest))
      refine ⟨first, rest ++ stranger :: after, .cannotCompare op.name stranger.2 best.2, rfl, ?_⟩
      rw [extremeFrom_append, hbest]
      simp only [bind, Except.bind, extremeFrom, hnone]

/-- A value that is comparable with no other one makes both extremes fail. -/
theorem extreme_eq_error (op : Builtin) (direction : Ordering)
    (hvalues : v.elements? = some values) (h : Json.HasStranger values) :
    ∃ a b, op.extreme direction v = .error (.cannotCompare op.name a b) ∧ a.compare b = none := by
  obtain ⟨children, hchildren, rfl⟩ := Json.exists_children? hvalues
  obtain ⟨before, x, after, hsplit, hne, hx⟩ := h
  obtain ⟨befores, others, rfl, rfl, hothers⟩ := List.map_eq_append_iff.1 hsplit
  obtain ⟨stranger, afters, rfl, rfl, rfl⟩ := List.map_eq_cons_iff.1 hothers
  rw [← List.map_append] at hne hx
  obtain ⟨child, rest, e, heq, he⟩ := exists_extremeFrom_eq_error op direction
    (List.map_eq_nil_iff.not.1 hne) fun c hc ↦ hx c.2 (List.mem_map_of_mem hc)
  obtain ⟨a, b, rfl, hab⟩ := extremeFrom_eq_error he
  exact ⟨a, b, by rw [extreme_eq (heq ▸ hchildren), he]; rfl, hab⟩

/-! ### The three operations -/

variable {args : List Json}

theorem call_sort (hvalues : v.elements? = some values) (args : List Json) :
    sort.call v args =
      match Json.sort? values with
      | some sorted => .ok (.array sorted)
      | none => .error .mixedSort := by
  obtain ⟨children, hchildren, rfl⟩ := Json.exists_children? hvalues
  simp only [call, childrenOf, hchildren, bind, Except.bind]
  cases Json.sort? (children.map Prod.snd) <;> rfl

theorem call_min (v : Json) (args : List Json) :
    min.call v args = (min.extreme .lt v).map fun found ↦ (found.map Prod.snd).getD .null :=
  call_eq_of_chooses (.inr (.inr (.inl rfl))) v args

theorem call_max (v : Json) (args : List Json) :
    max.call v args = (max.extreme .gt v).map fun found ↦ (found.map Prod.snd).getD .null :=
  call_eq_of_chooses (.inr (.inr (.inr rfl))) v args

/-- Where the order is one of all the values of a container, they are sorted and stay in their order
where they tie; `min` is the first value of the sorted list, and `max` is the earliest value of the
container that ties with the last one. Where some value is comparable with none of the others, the
three operations fail. -/
theorem sort_extremes (hvalues : v.elements? = some values) (args : List Json) :
    (Json.Preordered values →
      ∃ sorted, sort.call v args = .ok (.array sorted) ∧ Json.StableSort values sorted ∧
        (∀ first ∈ sorted.head?, min.call v args = .ok first) ∧
        ∀ last ∈ sorted.getLast?,
          ∃ m, values.find? (·.ties last) = some m ∧ max.call v args = .ok m) ∧
    (Json.HasStranger values →
      sort.call v args = .error .mixedSort ∧
        (∃ a b, min.call v args = .error (.cannotCompare "min" a b) ∧ a.compare b = none) ∧
        ∃ a b, max.call v args = .error (.cannotCompare "max" a b) ∧ a.compare b = none) := by
  constructor
  · intro horder
    obtain ⟨sorted, hsort, hstable⟩ := Json.exists_sort? horder
    refine ⟨sorted, by rw [call_sort hvalues, hsort], hstable, fun first hfirst ↦ ?_,
      fun last hlast ↦ ?_⟩
    · obtain ⟨found, hfound, rfl⟩ := exists_extreme_foremost min hvalues horder
        (hstable.foremost_head horder hfirst) (by decide)
      rw [call_min, hfound]
      rfl
    · obtain ⟨m, hm, hforemost⟩ := hstable.foremost_last horder hlast
      obtain ⟨found, hfound, rfl⟩ := exists_extreme_foremost max hvalues horder hforemost
        (by decide)
      exact ⟨found.2, hm, by rw [call_max, hfound]; rfl⟩
  · intro hstranger
    refine ⟨by rw [call_sort hvalues, Json.sort?_eq_none hstranger], ?_, ?_⟩
    · obtain ⟨a, b, hmin, hab⟩ := extreme_eq_error min .lt hvalues hstranger
      exact ⟨a, b, by rw [call_min, hmin]; rfl, hab⟩
    · obtain ⟨a, b, hmax, hab⟩ := extreme_eq_error max .gt hvalues hstranger
      exact ⟨a, b, by rw [call_max, hmax]; rfl, hab⟩

theorem sort_extremes_mixed :
    (∃ sorted,
      sort.call (.object [("a", .number (.double (.ofInt 2))), ("b", .ofInt 1), ("c", .ofInt 2),
        ("d", .number (.double (.ofInt 1)))]) [] = .ok (.array sorted) ∧
      Json.StableSort [.number (.double (.ofInt 2)), .ofInt 1, .ofInt 2,
        .number (.double (.ofInt 1))] sorted) ∧
    sort.call (.array [.ofInt 1, .null, .ofInt 2]) [] = .error .mixedSort := by
  constructor
  · obtain ⟨sorted, hsort, hstable, -⟩ := (sort_extremes (v := .object [("a",
      .number (.double (.ofInt 2))), ("b", .ofInt 1), ("c", .ofInt 2),
      ("d", .number (.double (.ofInt 1)))]) rfl []).1 (by decide +kernel)
    exact ⟨sorted, hsort, hstable⟩
  · refine ((sort_extremes (v := .array [.ofInt 1, .null, .ofInt 2]) rfl []).2 ?_).1
    exact ⟨[.ofInt 1], .null, [.ofInt 2], rfl, by simp, by simp [Json.compare]⟩

end Builtin

end DocPath

import DocPath.Operation.Builtin
import DocPath.Proofs.Json.Distinct
import Mathlib.Data.List.Basic

/-!
# Values in order

`Json.compare` reads the same from both sides (`compare_swap`), but it is not an order of all values:
some are not comparable at all, and a string that spells a number is ordered by its characters among
strings and by its value among numbers. Lists on which it is an order are `Preordered`.

On such a list `Json.sort?` is a stable sort (`exists_sort?`). It keeps the values that it has gone
through in decreasing order and puts each next one in its place among them: `InsertsDown` says where
that is, and `StableSort.insert` that the list stays the stable sort of what has been gone through. A
value that is comparable with no other one makes sorting fail (`sort?_eq_none`).
-/

namespace DocPath

theorem Double.compare_swap (a b : Double) : b.compare a = (a.compare b).swap :=
  @Std.OrientedCmp.eq_swap Int Ord.compare _ _ _

theorem Number.compare_swap (a b : Number) : b.compare a = (a.compare b).swap := by
  unfold compare
  cases a.int64? with
  | none => cases b.int64? <;> exact Double.compare_swap _ _
  | some m =>
    cases b.int64? with
    | none => exact Double.compare_swap _ _
    | some n => exact @Std.OrientedCmp.eq_swap Int Ord.compare _ _ _

theorem Extended.compare_swap (a b : Extended) :
    b.compare a = (a.compare b).map Ordering.swap := by
  cases a with
  | nan => cases b <;> rfl
  | infinite s =>
    cases b with
    | nan => rfl
    | infinite t => cases s <;> cases t <;> rfl
    | finite b => cases s <;> rfl
  | finite a =>
    cases b with
    | nan => rfl
    | infinite t => cases t <;> rfl
    | finite b => exact congrArg some (Double.compare_swap a b)

namespace Json

variable {u v w : Json} {values seen down result sorted : List Json}

/-- Two values that are compared the other way round give the opposite answer. -/
theorem compare_swap (v w : Json) : w.compare v = (v.compare w).map Ordering.swap := by
  have hnumeral (n : Number) (s : String) : (string s).compare (number n) =
      ((number n).compare (string s)).map Ordering.swap := by
    simp only [compare]
    cases Extended.ofNumeral? s.toList with
    | none => rfl
    | some e => exact Extended.compare_swap _ e
  cases v with
  | array items => rcases w with (- | - | - | -) | - | - <;> rfl
  | object entries => rcases w with (- | - | - | -) | - | - <;> rfl
  | scalar s =>
    cases w with
    | array items => cases s <;> rfl
    | object entries => cases s <;> rfl
    | scalar t =>
      cases s <;> cases t
      case bool.bool a b => exact congrArg some Std.OrientedCmp.eq_swap
      case number.number m n => exact congrArg some (Number.compare_swap m n)
      case string.string s t => exact congrArg some Std.OrientedCmp.eq_swap
      case number.string n s => exact hnumeral n s
      case string.number s n =>
        show (number n).compare (string s) = ((string s).compare (number n)).map Ordering.swap
        simp [hnumeral, Function.comp_def]
      all_goals rfl

/-- A value that is comparable with itself is equal to itself. -/
theorem compare_self (h : (v.compare v).isSome) : v.compare v = some .eq := by
  obtain ⟨o, ho⟩ := Option.isSome_iff_exists.1 h
  have hswap := compare_swap v v
  rw [ho] at hswap ⊢
  cases o <;> simp at hswap ⊢

/-! ### Orders -/

/-- Whether two values are comparable and the first is not the greater one. -/
def atMost (v w : Json) : Bool :=
  (v.compare w).any Ordering.isLE

/-- Whether two values are comparable and neither is the greater one. -/
def ties (v w : Json) : Bool :=
  v.compare w == some .eq

/-- All values of the list are comparable, each with itself as well, and the order is transitive on
them. -/
structure Preordered (values : List Json) : Prop where
  comparable : ∀ v ∈ values, ∀ w ∈ values, (v.compare w).isSome
  trans : ∀ u ∈ values, ∀ v ∈ values, ∀ w ∈ values, u.atMost v → v.atMost w → u.atMost w

instance (values : List Json) : Decidable (Preordered values) :=
  decidable_of_iff ((∀ v ∈ values, ∀ w ∈ values, (v.compare w).isSome) ∧
      ∀ u ∈ values, ∀ v ∈ values, ∀ w ∈ values, u.atMost v → v.atMost w → u.atMost w)
    ⟨fun h ↦ ⟨h.1, h.2⟩, fun h ↦ ⟨h.comparable, h.trans⟩⟩

theorem atMost_iff : v.atMost w ↔ v.compare w = some .lt ∨ v.compare w = some .eq := by
  unfold atMost
  rcases v.compare w with - | - | - | - <;> simp

theorem ties_iff : v.ties w ↔ v.compare w = some .eq :=
  beq_iff_eq

theorem ties_comm : v.ties w ↔ w.ties v := by
  rw [ties_iff, ties_iff, compare_swap v w]
  rcases v.compare w with - | - | - | - <;> simp

/-- Two values tie where neither is the greater one, looked at from both sides. -/
theorem ties_iff_atMost : v.ties w ↔ v.atMost w ∧ w.atMost v := by
  rw [ties_iff, atMost_iff, atMost_iff, compare_swap v w]
  rcases v.compare w with - | - | - | - <;> simp

theorem not_atMost_of_lt (h : v.compare w = some .lt) : ¬ w.atMost v := by
  rw [atMost_iff, compare_swap v w, h]
  simp

/-- A value that does not come before another one comes at or after it, if they are comparable. -/
theorem atMost_of_ne_lt {o : Ordering} (h : v.compare w = some o) (ho : o ≠ .lt) : w.atMost v := by
  rw [atMost_iff, compare_swap v w, h]
  cases o <;> simp at ho ⊢

namespace Preordered

theorem mono (h : Preordered values) (hsub : seen ⊆ values) : Preordered seen where
  comparable v hv w hw := h.comparable v (hsub hv) w (hsub hw)
  trans u hu v hv w hw := h.trans u (hsub hu) v (hsub hv) w (hsub hw)

theorem refl (h : Preordered values) (hv : v ∈ values) : v.compare v = some .eq :=
  compare_self (h.comparable v hv v hv)

theorem ties_self (h : Preordered values) (hv : v ∈ values) : v.ties v :=
  ties_iff.2 (h.refl hv)

theorem ties_trans (h : Preordered values) (hu : u ∈ values) (hv : v ∈ values) (hw : w ∈ values)
    (huv : u.ties v) (hvw : v.ties w) : u.ties w := by
  rw [ties_iff_atMost] at *
  exact ⟨h.trans u hu v hv w hw huv.1 hvw.1, h.trans w hw v hv u hu hvw.2 huv.2⟩

/-- Values that tie have the same ties. -/
theorem ties_congr (h : Preordered values) (hu : u ∈ values) (hv : v ∈ values) (hw : w ∈ values)
    (huv : u.ties v) : w.ties u = w.ties v :=
  Bool.eq_iff_iff.2 ⟨fun hwu ↦ h.ties_trans hw hu hv hwu huv,
    fun hwv ↦ h.ties_trans hw hv hu hwv (ties_comm.1 huv)⟩

/-- Values that tie have the same earliest tie. -/
theorem find?_ties (h : Preordered values) (hu : u ∈ values) (hv : v ∈ values) (huv : u.ties v) :
    values.find? (·.ties u) = values.find? (·.ties v) := by
  rw [← List.head?_filter, ← List.head?_filter,
    List.filter_congr fun w hw ↦ h.ties_congr hu hv hw huv]

end Preordered

/-! ### Putting a value in its place -/

/-- A list in decreasing order with a value put right after the greater ones. -/
structure InsertsDown (v : Json) (greater rest : List Json) : Prop where
  lt : ∀ w ∈ greater, v.compare w = some .lt
  next : ∀ w ∈ rest.head?, ∃ o, v.compare w = some o ∧ o ≠ .lt

/-- Where a value goes that is comparable with all values of the list. -/
theorem exists_insertsDown (h : ∀ w ∈ down, (v.compare w).isSome) :
    ∃ greater rest, down = greater ++ rest ∧ insertDown v down = some (greater ++ v :: rest) ∧
      InsertsDown v greater rest := by
  induction down with
  | nil => exact ⟨[], [], rfl, rfl, ⟨by simp, by simp⟩⟩
  | cons w rest ih =>
    rw [List.forall_mem_cons] at h
    obtain ⟨o, ho⟩ := Option.isSome_iff_exists.1 h.1
    by_cases hlt : o = .lt
    · obtain ⟨greater, tail, rfl, hinsert, hplace⟩ := ih h.2
      refine ⟨w :: greater, tail, rfl, ?_, ⟨?_, hplace.next⟩⟩
      · simp [insertDown, ho, hlt, hinsert]
      · exact List.forall_mem_cons.2 ⟨hlt ▸ ho, hplace.lt⟩
    · refine ⟨[], w :: rest, rfl, ?_, ⟨by simp, ?_⟩⟩
      · simp [insertDown, ho, hlt]
      · exact fun x hx ↦ ⟨o, Option.some.inj hx ▸ ho, hlt⟩

namespace InsertsDown

variable {greater rest : List Json}

/-- What follows the place of the value is not greater, since the first value there is not. -/
theorem atMost_of_mem_rest (h : InsertsDown v greater rest) (horder : Preordered values)
    (hrest : rest ⊆ values) (hv : v ∈ values) (hsorted : rest.reverse.Pairwise (·.atMost ·)) :
    ∀ w ∈ rest, w.atMost v := by
  cases rest with
  | nil => simp
  | cons x rest =>
    obtain ⟨o, ho, hne⟩ := h.next x rfl
    have hx : x.atMost v := atMost_of_ne_lt ho hne
    rw [List.reverse_cons, List.pairwise_append] at hsorted
    refine List.forall_mem_cons.2 ⟨hx, fun w hw ↦ ?_⟩
    have hwx : w.atMost x := hsorted.2.2 w (List.mem_reverse.2 hw) x (List.mem_singleton_self x)
    exact horder.trans w (hrest (List.mem_cons_of_mem _ hw)) x (hrest (List.mem_cons_self ..)) v hv
      hwx hx

/-- The list stays in order with the value in its place. -/
theorem pairwise (h : InsertsDown v greater rest) (horder : Preordered values)
    (hrest : rest ⊆ values) (hv : v ∈ values)
    (hsorted : (greater ++ rest).reverse.Pairwise (·.atMost ·)) :
    (greater ++ v :: rest).reverse.Pairwise (·.atMost ·) := by
  rw [List.reverse_append, List.pairwise_append] at hsorted
  obtain ⟨hbelow, habove, hcross⟩ := hsorted
  have hle := h.atMost_of_mem_rest horder hrest hv hbelow
  have hge : ∀ w ∈ greater, v.atMost w := fun w hw ↦ atMost_iff.2 (.inl (h.lt w hw))
  rw [List.reverse_append, List.reverse_cons, List.append_assoc, List.singleton_append,
    List.pairwise_append, List.pairwise_cons]
  refine ⟨hbelow, ⟨fun w hw ↦ hge w (List.mem_reverse.1 hw), habove⟩, fun a ha ↦ ?_⟩
  exact List.forall_mem_cons.2 ⟨hle a (List.mem_reverse.1 ha), hcross a ha⟩

/-- Nothing greater than the value ties with what ties with the value. -/
theorem not_ties (h : InsertsDown v greater rest) (horder : Preordered values)
    (hgreater : greater ⊆ values) (hv : v ∈ values) (hu : u ∈ values) (hties : v.ties u) :
    ∀ w ∈ greater, ¬ w.ties u := by
  intro w hw hwu
  have hwv : w.ties v := horder.ties_trans (hgreater hw) hu hv hwu (ties_comm.1 hties)
  exact not_atMost_of_lt (h.lt w hw) (ties_iff_atMost.1 hwv).1

/-- The value comes last among those that it ties with. -/
theorem filter_ties (h : InsertsDown v greater rest) (horder : Preordered values)
    (hgreater : greater ⊆ values) (hv : v ∈ values) (hu : u ∈ values) :
    (greater ++ v :: rest).reverse.filter (·.ties u) =
      (greater ++ rest).reverse.filter (·.ties u) ++ [v].filter (·.ties u) := by
  rw [List.reverse_append, List.reverse_cons, List.reverse_append, List.append_assoc,
    List.filter_append, List.filter_append, List.filter_append, List.append_assoc]
  by_cases hties : v.ties u
  · have hnone : greater.reverse.filter (·.ties u) = [] :=
      List.filter_eq_nil_iff.2 fun w hw ↦
        h.not_ties horder hgreater hv hu hties w (List.mem_reverse.1 hw)
    simp [hnone, hties]
  · simp [hties]

end InsertsDown

/-! ### Sorting -/

/-- The second list has the values of the first one in increasing order, those that tie in the order
in which they came. -/
structure StableSort (values sorted : List Json) : Prop where
  perm : sorted.Perm values
  ordered : sorted.Pairwise (·.atMost ·)
  stable : ∀ u ∈ values, sorted.filter (·.ties u) = values.filter (·.ties u)

/-- Values keep the order in which they came also where they tie with a value from elsewhere. -/
theorem StableSort.filter_ties (h : StableSort values sorted) (horder : Preordered (u :: values)) :
    sorted.filter (·.ties u) = values.filter (·.ties u) := by
  have hu : u ∈ u :: values := List.mem_cons_self ..
  by_cases htie : ∃ v ∈ values, u.ties v
  · obtain ⟨v, hv, huv⟩ := htie
    have hcongr : ∀ w ∈ values, w.ties u = w.ties v := fun w hw ↦
      horder.ties_congr hu (List.mem_cons_of_mem _ hv) (List.mem_cons_of_mem _ hw) huv
    rw [List.filter_congr hcongr, List.filter_congr fun w hw ↦ hcongr w (h.perm.subset hw)]
    exact h.stable v hv
  · have hnone : ∀ w ∈ values, ¬ w.ties u := fun w hw hwu ↦ htie ⟨w, hw, ties_comm.1 hwu⟩
    rw [List.filter_eq_nil_iff.2 hnone,
      List.filter_eq_nil_iff.2 fun w hw ↦ hnone w (h.perm.subset hw)]

/-- One more value in its place keeps the list sorted. -/
theorem StableSort.insert {greater rest : List Json} (h : StableSort seen (greater ++ rest).reverse)
    (hplace : InsertsDown v greater rest) (horder : Preordered (seen ++ [v])) :
    StableSort (seen ++ [v]) (greater ++ v :: rest).reverse := by
  have hseen : (greater ++ rest).Perm seen := (List.reverse_perm _).symm.trans h.perm
  have hsub : greater ++ rest ⊆ seen ++ [v] := List.subset_append_of_subset_left _ hseen.subset
  obtain ⟨hgreater, hrest⟩ := List.append_subset.1 hsub
  have hv : v ∈ seen ++ [v] := List.mem_append_right _ (List.mem_singleton_self v)
  refine ⟨?_, hplace.pairwise horder hrest hv h.ordered, fun u hu ↦ ?_⟩
  · calc List.Perm (greater ++ v :: rest).reverse (greater ++ v :: rest) := List.reverse_perm _
      List.Perm _ (v :: (greater ++ rest)) := List.perm_middle
      List.Perm _ (v :: seen) := hseen.cons v
      List.Perm _ (seen ++ [v]) := (List.perm_append_singleton v seen).symm
  · have hold : (greater ++ rest).reverse.filter (·.ties u) = seen.filter (·.ties u) :=
      h.filter_ties (horder.mono (List.cons_subset.2 ⟨hu, List.subset_append_left ..⟩))
    rw [hplace.filter_ties horder hgreater hv hu, hold, List.filter_append]

/-- Going through more values keeps the list sorted. -/
theorem exists_sortDown (h : StableSort seen down.reverse) (horder : Preordered (seen ++ values)) :
    ∃ result, sortDown down values = some result ∧ StableSort (seen ++ values) result.reverse := by
  induction values generalizing seen down with
  | nil => exact ⟨down, rfl, by simpa using h⟩
  | cons v rest ih =>
    have hdown : down ⊆ seen := fun w hw ↦ h.perm.subset (List.mem_reverse.2 hw)
    obtain ⟨greater, tail, rfl, hinsert, hplace⟩ := exists_insertsDown fun w hw ↦
      horder.comparable v (by simp) w (List.mem_append_left _ (hdown hw))
    rw [List.append_cons] at horder ⊢
    obtain ⟨result, hresult, hsorted⟩ :=
      ih (h.insert hplace (horder.mono (List.subset_append_left ..))) horder
    exact ⟨result, by simp [sortDown, hinsert, hresult], hsorted⟩

/-- Where the order is one of all the values, they are sorted, and those that tie stay as they
came. -/
theorem exists_sort? (h : Preordered values) :
    ∃ sorted, sort? values = some sorted ∧ StableSort values sorted := by
  have hnil : StableSort [] ([] : List Json).reverse := ⟨.refl _, .nil, by simp⟩
  obtain ⟨result, hresult, hsorted⟩ := exists_sortDown hnil h
  exact ⟨result.reverse, by rw [sort?, hresult, Option.map_some], hsorted⟩

/-! ### Values that compare with nothing -/

/-- Some value of the list has others beside it and is comparable with none of them. -/
def HasStranger (values : List Json) : Prop :=
  ∃ before x after, values = before ++ x :: after ∧ before ++ after ≠ [] ∧
    ∀ w ∈ before ++ after, x.compare w = none

theorem compare_eq_none_comm : v.compare w = none ↔ w.compare v = none := by
  rw [compare_swap v w, Option.map_eq_none_iff]

theorem insertDown_eq_none (h : v.compare w = none) : insertDown v (w :: down) = none := by
  simp [insertDown, h]

theorem sortDown_append (down seen values : List Json) :
    sortDown down (seen ++ values) = (sortDown down seen).bind (sortDown · values) := by
  induction seen generalizing down with
  | nil => rfl
  | cons v rest ih =>
    simp only [List.cons_append, sortDown, Option.bind_eq_bind, Option.bind_assoc, ih]

/-- A value that compares with no other one makes sorting fail. -/
theorem sort?_eq_none (h : HasStranger values) : sort? values = none := by
  obtain ⟨before, x, after, rfl, hne, hx⟩ := h
  rw [sort?, Option.map_eq_none_iff, sortDown_append, Option.bind_eq_none_iff]
  intro down hdown
  cases down with
  | cons w down =>
    have hw : w ∈ before := by
      simpa using (sortDown_perm hdown).subset (List.mem_cons_self ..)
    simp [sortDown, insertDown_eq_none (hx w (List.mem_append_left _ hw))]
  | nil =>
    -- nothing stands before the value, so the next one meets it
    obtain rfl : before = [] := by simpa using (sortDown_perm hdown).symm.eq_nil
    obtain ⟨w, rest, rfl⟩ := List.exists_cons_of_ne_nil hne
    have hwx := compare_eq_none_comm.1 (hx w (List.mem_cons_self ..))
    simp [sortDown, insertDown, hwx]

end Json

end DocPath

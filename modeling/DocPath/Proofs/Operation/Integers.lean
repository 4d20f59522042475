import DocPath.Proofs.Double.Nearest
import DocPath.Proofs.Operation.Extreme

/-!
# Integers in order

Two integers that both fit the signed range of 64 bits are compared exactly. Any other pair is
compared by its doubles, so that two integers with one double **merge**: they compare as equal.
Merging is all that is wrong with the order of integers (`Number.compare_ofInt`), and integers that
merge are at most 2048 apart (`Number.Merges.natAbs_sub_le`). It does break the order: an integer may
merge with two others that are compared exactly. Still, strict order is transitive
(`Number.lt_trans_of_not_merges`), and the smallest and the largest of a container are so up to
merging (`exists_min_ofInt`, `exists_max_ofInt`).
-/

namespace DocPath

namespace Number

variable {a b c : Int}

/-- Two integers are compared by their doubles, and these are the same although the integers are
not. -/
def Merges (a b : Int) : Prop :=
  a ≠ b ∧ ¬ (IsInt64 a ∧ IsInt64 b) ∧
    (Double.ofInt a).signedUnits = (Double.ofInt b).signedUnits

instance (a b : Int) : Decidable (Merges a b) :=
  inferInstanceAs (Decidable (_ ∧ _))

theorem merges_comm : Merges a b ↔ Merges b a := by
  unfold Merges
  rw [ne_comm, and_comm (a := IsInt64 a), eq_comm (a := (Double.ofInt a).signedUnits)]

/-- Integers that merge are close to each other. -/
theorem Merges.natAbs_sub_le (h : Merges a b) (ha : InRange a) (hb : InRange b) :
    (a - b).natAbs ≤ 2048 := by
  have hnearA := Double.two_mul_natAbs_sub_ofInt_le ha
  have hnearB := Double.two_mul_natAbs_sub_ofInt_le hb
  rw [h.2.2] at hnearA
  have hdiff : (a - b).natAbs * Double.one ≤ 2048 * Double.one := by
    rw [← Int.natAbs_natCast Double.one, ← Int.natAbs_mul, Int.sub_mul, Int.natAbs_natCast]
    generalize a * (Double.one : Int) = x at *
    generalize b * (Double.one : Int) = y at *
    generalize 2048 * Double.one = bound at *
    omega
  exact Nat.le_of_mul_le_mul_right hdiff Double.one_pos

theorem int64?_ofInt_eq (ha : InRange a) : (ofInt a).int64? = if IsInt64 a then some a else none := by
  rw [ofInt, dif_pos ha, int64?]

theorem toDouble_ofInt (ha : InRange a) : (ofInt a).toDouble = Double.ofInt a := by
  rw [ofInt, dif_pos ha, toDouble]

/-- Integers that are not both of the signed range are compared by their doubles. -/
theorem compare_ofInt_double (ha : InRange a) (hb : InRange b) (h : ¬ (IsInt64 a ∧ IsInt64 b)) :
    (ofInt a).compare (ofInt b) = (Double.ofInt a).compare (Double.ofInt b) := by
  rw [compare, int64?_ofInt_eq ha, int64?_ofInt_eq hb, toDouble_ofInt ha, toDouble_ofInt hb]
  split
  · rename_i hsome hsome'
    rw [Option.ite_none_right_eq_some] at hsome hsome'
    exact absurd ⟨hsome.1, hsome'.1⟩ h
  · rfl

/-- Integers compare exactly unless they merge. -/
theorem compare_ofInt (ha : InRange a) (hb : InRange b) :
    (ofInt a).compare (ofInt b) = if Merges a b then .eq else Ord.compare a b := by
  by_cases hboth : IsInt64 a ∧ IsInt64 b
  · rw [if_neg fun h ↦ h.2.1 hboth, compare, int64?_ofInt_eq ha, int64?_ofInt_eq hb, if_pos hboth.1,
      if_pos hboth.2]
  · rw [compare_ofInt_double ha hb hboth, Double.compare]
    -- doubles keep the order, so they can only lose it where they are the same
    have hle := Double.signedUnits_ofInt_le ha hb
    have hge := Double.signedUnits_ofInt_le hb ha
    rcases Int.lt_trichotomy (Double.ofInt a).signedUnits (Double.ofInt b).signedUnits with
      hlt | heq | hgt
    · rw [if_neg fun h ↦ hlt.ne h.2.2, compare_lt_iff_lt.2 hlt, compare_lt_iff_lt.2]
      omega
    · rw [compare_eq_iff_eq.2 heq]
      split
      · rfl
      · rename_i hmerges
        rw [compare_eq_iff_eq.2]
        by_contra hne
        exact hmerges ⟨hne, hboth, heq⟩
    · rw [if_neg fun h ↦ hgt.ne' h.2.2, compare_gt_iff_gt.2 hgt, compare_gt_iff_gt.2]
      omega

theorem compare_ofInt_eq_lt (ha : InRange a) (hb : InRange b) :
    (ofInt a).compare (ofInt b) = .lt ↔ a < b ∧ ¬ Merges a b := by
  rw [compare_ofInt ha hb]
  split <;> simp [compare_lt_iff_lt, *]

theorem compare_ofInt_eq_gt (ha : InRange a) (hb : InRange b) :
    (ofInt a).compare (ofInt b) = .gt ↔ b < a ∧ ¬ Merges a b := by
  rw [compare_ofInt ha hb]
  split <;> simp [compare_gt_iff_gt, *]

theorem compare_ofInt_eq_eq (ha : InRange a) (hb : InRange b) :
    (ofInt a).compare (ofInt b) = .eq ↔ a = b ∨ Merges a b := by
  rw [compare_ofInt ha hb]
  split <;> simp [*]

/-! ### How far order is transitive -/

section

variable (ha : InRange a) (hb : InRange b) (hc : InRange c)

include ha hb hc

/-- What is strictly less than something less is strictly less. -/
theorem lt_trans_of_not_merges (hab : a < b ∧ ¬ Merges a b) (hbc : b < c ∧ ¬ Merges b c) :
    a < c ∧ ¬ Merges a c := by
  have hleAB := Double.signedUnits_ofInt_le ha hb hab.1.le
  have hleBC := Double.signedUnits_ofInt_le hb hc hbc.1.le
  unfold Merges IsInt64 at *
  omega

/-- What is strictly less than something is not greater than what that merges with, but where it
merges with it as well. -/
theorem le_or_merges_of_lt (hab : a < b ∧ ¬ Merges a b) (hbc : b ≤ c ∨ Merges b c) :
    a ≤ c ∨ Merges a c := by
  have hleAB := Double.signedUnits_ofInt_le ha hb hab.1.le
  have hleCA := Double.signedUnits_ofInt_le hc ha
  unfold Merges IsInt64 InRange at *
  omega

/-- What is strictly greater than something is not less than what that merges with, but where it
merges with it as well. -/
theorem ge_or_merges_of_gt (hab : b < a ∧ ¬ Merges a b) (hbc : c ≤ b ∨ Merges b c) :
    c ≤ a ∨ Merges a c := by
  have hleBA := Double.signedUnits_ofInt_le hb ha hab.1.le
  have hleAC := Double.signedUnits_ofInt_le ha hc
  unfold Merges IsInt64 InRange at *
  omega

/-- Order is lost only between integers that merge with one and the same other one. -/
theorem le_or_merges_trans (hab : a ≤ b ∨ Merges a b) (hbc : b ≤ c ∨ Merges b c)
    (h : ¬ (Merges a b ∧ Merges b c)) : a ≤ c ∨ Merges a c := by
  have hleAB := Double.signedUnits_ofInt_le ha hb
  have hleBC := Double.signedUnits_ofInt_le hb hc
  have hleCA := Double.signedUnits_ofInt_le hc ha
  have hleBA := Double.signedUnits_ofInt_le hb ha
  have hleCB := Double.signedUnits_ofInt_le hc hb
  unfold Merges IsInt64 InRange at *
  omega

end

end Number

namespace Json

variable {a b : Int}

theorem compare_ofInt (a b : Int) :
    (ofInt a).compare (ofInt b) = some ((Number.ofInt a).compare (Number.ofInt b)) :=
  rfl

theorem equal_ofInt (ha : Number.InRange a) (hb : Number.InRange b) :
    (ofInt a).equal (ofInt b) ↔ a = b ∨ Number.Merges a b := by
  rw [← Number.compare_ofInt_eq_eq ha hb]
  exact beq_iff_eq

theorem atMost_ofInt (ha : Number.InRange a) (hb : Number.InRange b) :
    (ofInt a).atMost (ofInt b) ↔ a ≤ b ∨ Number.Merges a b := by
  rw [atMost_iff, compare_ofInt, Option.some.injEq, Option.some.injEq,
    Number.compare_ofInt_eq_lt ha hb, Number.compare_ofInt_eq_eq ha hb]
  by_cases h : Number.Merges a b
  · simp [h]
  · simp [h, Int.le_iff_lt_or_eq]

theorem leads_lt_ofInt (ha : Number.InRange a) (hb : Number.InRange b) :
    Leads .lt (ofInt a) (ofInt b) ↔ a ≤ b ∨ Number.Merges a b := by
  rw [leads_lt_iff, atMost_ofInt ha hb]

theorem leads_gt_ofInt (ha : Number.InRange a) (hb : Number.InRange b) :
    Leads .gt (ofInt a) (ofInt b) ↔ b ≤ a ∨ Number.Merges a b := by
  rw [leads_gt_iff, atMost_ofInt hb ha, Number.merges_comm]

/-- An integer that goes strictly before another one leads what that one leads. -/
theorem leads_trans_ofInt {c : Int} {direction : Ordering} (ha : Number.InRange a)
    (hb : Number.InRange b) (hc : Number.InRange c) (hdirection : direction ≠ .eq)
    (hab : (ofInt a).compare (ofInt b) = some direction)
    (hbc : Leads direction (ofInt b) (ofInt c)) : Leads direction (ofInt a) (ofInt c) := by
  rw [compare_ofInt, Option.some.injEq] at hab
  cases direction with
  | lt =>
    rw [Number.compare_ofInt_eq_lt ha hb] at hab
    rw [leads_lt_ofInt hb hc] at hbc
    exact (leads_lt_ofInt ha hc).2 (Number.le_or_merges_of_lt ha hb hc hab hbc)
  | gt =>
    rw [Number.compare_ofInt_eq_gt ha hb] at hab
    rw [leads_gt_ofInt hb hc] at hbc
    exact (leads_gt_ofInt ha hc).2 (Number.ge_or_merges_of_gt ha hb hc hab hbc)
  | eq => exact absurd rfl hdirection

end Json

namespace Builtin

variable {v : Json} {values : List Int}

/-- The extreme child of a container of integers. -/
theorem exists_extreme_ofInt (op : Builtin) (direction : Ordering)
    (hvalues : v.elements? = some (values.map Json.ofInt)) (hne : values ≠ [])
    (hrange : ∀ x ∈ values, Number.InRange x) (hdirection : direction ≠ .eq) :
    ∃ m ∈ values, ∃ found, op.extreme direction v = .ok (some found) ∧ found.2 = .ofInt m ∧
      ∀ x ∈ values, Json.Leads direction (.ofInt m) (.ofInt x) := by
  obtain ⟨found, hfound, hmem, hleads⟩ := exists_extreme_leads op hvalues (by simpa using hne)
    (by simp [Json.compare_ofInt])
    (by
      simp only [List.forall_mem_map]
      exact fun x hx y hy z hz ↦
        Json.leads_trans_ofInt (hrange x hx) (hrange y hy) (hrange z hz) hdirection)
    hdirection
  obtain ⟨m, hm, heq⟩ := List.mem_map.1 hmem
  exact ⟨m, hm, found, hfound, heq.symm, fun x hx ↦ heq ▸ hleads _ (List.mem_map_of_mem hx)⟩

theorem exists_min_ofInt (hvalues : v.elements? = some (values.map Json.ofInt))
    (hne : values ≠ []) (hrange : ∀ x ∈ values, Number.InRange x) (args : List Json) :
    ∃ m ∈ values, min.call v args = .ok (.ofInt m) ∧ ∀ x ∈ values, m ≤ x ∨ Number.Merges m x := by
  obtain ⟨m, hm, found, hfound, hvalue, hleads⟩ :=
    exists_extreme_ofInt min .lt hvalues hne hrange (by decide)
  refine ⟨m, hm, ?_, fun x hx ↦ (Json.leads_lt_ofInt (hrange m hm) (hrange x hx)).1 (hleads x hx)⟩
  rw [call_min, hfound, ← hvalue]
  rfl

theorem exists_max_ofInt (hvalues : v.elements? = some (values.map Json.ofInt))
    (hne : values ≠ []) (hrange : ∀ x ∈ values, Number.InRange x) (args : List Json) :
    ∃ m ∈ values, max.call v args = .ok (.ofInt m) ∧ ∀ x ∈ values, x ≤ m ∨ Number.Merges m x := by
  obtain ⟨m, hm, found, hfound, hvalue, hleads⟩ :=
    exists_extreme_ofInt max .gt hvalues hne hrange (by decide)
  refine ⟨m, hm, ?_, fun x hx ↦ (Json.leads_gt_ofInt (hrange m hm) (hrange x hx)).1 (hleads x hx)⟩
  rw [call_max, hfound, ← hvalue]
  rfl

/-- Integers are ordered as numbers but for those that merge, which are equal to each other and less
than 2049 apart. Strict order is transitive; order that is not strict is so unless both pairs merge.
`min` and `max` of a container of integers give an extreme one up to merging. The double of an
integer, by which it is compared with those beyond the signed range, is the nearest one, a half going
to the even rank. -/
theorem integers_ordered {a b c : Int} (ha : Number.InRange a) (hb : Number.InRange b)
    (hc : Number.InRange c) :
    (Json.ofInt a).compare (.ofInt b) =
        some (if Number.Merges a b then .eq else Ord.compare a b) ∧
      ((Json.ofInt a).equal (.ofInt b) ↔ a = b ∨ Number.Merges a b) ∧
      (Number.Merges a b → (a - b).natAbs ≤ 2048) ∧
      ((Json.ofInt a).compare (.ofInt b) = some .lt → (Json.ofInt b).compare (.ofInt c) = some .lt →
        (Json.ofInt a).compare (.ofInt c) = some .lt) ∧
      ((Json.ofInt a).atMost (.ofInt b) → (Json.ofInt b).atMost (.ofInt c) →
        ¬ (Number.Merges a b ∧ Number.Merges b c) → (Json.ofInt a).atMost (.ofInt c)) ∧
      Double.IsNearest (a * Double.one) (.ofInt a) ∧
      ∀ (v : Json) (values : List Int) (args : List Json),
        v.elements? = some (values.map Json.ofInt) → values ≠ [] →
          (∀ x ∈ values, Number.InRange x) →
          (∃ m ∈ values, min.call v args = .ok (.ofInt m) ∧
            ∀ x ∈ values, m ≤ x ∨ Number.Merges m x) ∧
          ∃ m ∈ values, max.call v args = .ok (.ofInt m) ∧
            ∀ x ∈ values, x ≤ m ∨ Number.Merges m x := by
  refine ⟨by rw [Json.compare_ofInt, Number.compare_ofInt ha hb], Json.equal_ofInt ha hb,
    fun h ↦ h.natAbs_sub_le ha hb, fun hab hbc ↦ ?_, fun hab hbc h ↦ ?_, Double.isNearest_ofInt ha,
    fun v values args hvalues hne hrange ↦
      ⟨exists_min_ofInt hvalues hne hrange args, exists_max_ofInt hvalues hne hrange args⟩⟩
  · rw [Json.compare_ofInt, Option.some.injEq] at *
    rw [Number.compare_ofInt_eq_lt ha hb] at hab
    rw [Number.compare_ofInt_eq_lt hb hc] at hbc
    exact (Number.compare_ofInt_eq_lt ha hc).2 (Number.lt_trans_of_not_merges ha hb hc hab hbc)
  · rw [Json.atMost_ofInt ha hb] at hab
    rw [Json.atMost_ofInt hb hc] at hbc
    exact (Json.atMost_ofInt ha hc).2 (Number.le_or_merges_trans ha hb hc hab hbc h)

theorem integers_ordered_largest :
    Number.Merges 18446744073709551615 18446744073709551614 ∧
      (Json.ofInt 18446744073709551615).compare (.ofInt 18446744073709551614) =
        some (if Number.Merges 18446744073709551615 18446744073709551614 then .eq
          else Ord.compare (18446744073709551615 : Int) 18446744073709551614) ∧
      ∃ m ∈ [18446744073709551614, 18446744073709551615],
        max.call (.array ([18446744073709551614, 18446744073709551615].map Json.ofInt)) [] =
          .ok (.ofInt m) ∧
        ∀ x ∈ [18446744073709551614, 18446744073709551615], x ≤ m ∨ Number.Merges m x := by
  obtain ⟨hcompare, -, -, -, -, -, hextremes⟩ :=
    integers_ordered (a := 18446744073709551615) (b := 18446744073709551614)
      (c := 9223372036854775808) (by decide) (by decide) (by decide)
  exact ⟨by decide +kernel, hcompare, (hextremes _ [18446744073709551614, 18446744073709551615] []
    rfl (by simp) (by decide)).2⟩

/-- Two integers beyond the signed range that compare as equal although they are not, so that the
smaller one is the maximum, and one that merges with two others of which it separates the order. -/
theorem integers_merged :
    (Json.ofInt 18446744073709551615).compare (.ofInt 18446744073709551614) = some .eq ∧
      (Json.ofInt 18446744073709551615).equal (.ofInt 18446744073709551614) ∧
      max.call (.array [.ofInt 18446744073709551614, .ofInt 18446744073709551615]) [] =
        .ok (.ofInt 18446744073709551614) ∧
      (Json.ofInt 9223372036854775807).atMost (.ofInt 9223372036854775808) ∧
      (Json.ofInt 9223372036854775808).atMost (.ofInt 9223372036854775806) ∧
      ¬ (Json.ofInt 9223372036854775807).atMost (.ofInt 9223372036854775806) := by
  have hmerged : (Json.ofInt 18446744073709551615).compare (.ofInt 18446744073709551614) =
      some .eq := by decide +kernel
  refine ⟨hmerged, by decide +kernel, ?_, by decide +kernel, by decide +kernel, by decide +kernel⟩
  have hchildren : (Json.array [.ofInt 18446744073709551614, .ofInt 18446744073709551615]).children? =
    some [(.index 0, .ofInt 18446744073709551614), (.index 1, .ofInt 18446744073709551615)] := rfl
  rw [call_max, extreme_eq hchildren, extremeFrom, hmerged]
  rfl

end Builtin

end DocPath

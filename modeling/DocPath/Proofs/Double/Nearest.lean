import DocPath.Json.Number
import Mathlib.Algebra.Order.Group.Nat
import Mathlib.Tactic.Ring

/-!
# Rounding to the nearest double

Every inexact result is rounded by `Double.rankOfQuotient`, which cuts a quotient to 53 significant
bits. No magnitude is nearer to the quotient than the one it gives, and where another one is as near
the rank is even (`isNearestRank_rankOfQuotient`). Magnitudes of the binades from that of the quotient
on are multiples of one power of two, among which `nearestEven` chooses; those below are further away
than the smallest of these.

So the double of an integer is the nearest one (`isNearest_ofInt`), and rounding keeps the order of
integers (`signedUnits_ofInt_le`).
-/

namespace DocPath

namespace Double

variable {num den rank r k e m shift : Nat}

theorem binade_eq : binade = 2 ^ 52 := by decide

theorem one_pos : 0 < one := by decide

/-! ### Magnitudes -/

/-- A significand at an exponent, with the first of the next binade allowed. -/
theorem unitsOfRank_add (hm : m ≤ 2 * binade) (he : e = 0 ∨ binade ≤ m) :
    unitsOfRank (e * binade + m) = m * 2 ^ e := by
  have hpos : 0 < binade := by decide
  have hdiv : ∀ c k, k < binade → (c * binade + k) / binade = c ∧ (c * binade + k) % binade = k := by
    intro c k hk
    rw [Nat.add_comm, Nat.add_mul_div_right _ _ hpos, Nat.add_mul_mod_self_right,
      Nat.div_eq_of_lt hk, Nat.mod_eq_of_lt hk, Nat.zero_add]
    exact ⟨rfl, rfl⟩
  rcases Nat.lt_or_ge m binade with hlt | hge
  · obtain rfl : e = 0 := he.resolve_right (by omega)
    simp [unitsOfRank, hlt]
  · have hnot : ¬ e * binade + m < binade := by omega
    rw [unitsOfRank, if_neg hnot, Nat.shiftLeft_eq]
    rcases Nat.lt_or_ge m (2 * binade) with hlt | hle
    · have hrank : e * binade + m = (e + 1) * binade + (m - binade) := by
        rw [Nat.add_mul]
        omega
      obtain ⟨hquot, hrem⟩ := hdiv (e + 1) (m - binade) (by omega)
      rw [hrank, hquot, hrem, Nat.add_sub_cancel' hge, Nat.add_sub_cancel]
    · obtain rfl : m = 2 * binade := by omega
      have hrank : e * binade + 2 * binade = (e + 2) * binade + 0 := by ring
      obtain ⟨hquot, hrem⟩ := hdiv (e + 2) 0 hpos
      rw [hrank, hquot, hrem, Nat.add_zero, show e + 2 - 1 = e + 1 by omega, Nat.pow_succ]
      ring

/-- Every rank is a significand at an exponent. -/
theorem exists_unitsOfRank (r : Nat) :
    ∃ e m, m < 2 * binade ∧ unitsOfRank r = m * 2 ^ e := by
  have hpos : 0 < binade := by decide
  unfold unitsOfRank
  split
  · exact ⟨0, r, by omega, by simp⟩
  · have := Nat.mod_lt r hpos
    exact ⟨r / binade - 1, binade + r % binade, by omega, Nat.shiftLeft_eq ..⟩

/-- A magnitude is a multiple of a power of two, or it is below the binade of that power. -/
theorem unitsOfRank_multiple (r shift : Nat) :
    (∃ k, unitsOfRank r = k * 2 ^ shift) ∨
      shift ≠ 0 ∧ unitsOfRank r < binade * 2 ^ shift := by
  obtain ⟨e, m, hm, hunits⟩ := exists_unitsOfRank r
  rcases Nat.le_total shift e with hle | hle
  · refine .inl ⟨m * 2 ^ (e - shift), ?_⟩
    rw [hunits, Nat.mul_assoc, ← Nat.pow_add, Nat.sub_add_cancel hle]
  · rcases Nat.eq_or_lt_of_le hle with rfl | hlt
    · exact .inl ⟨m, hunits⟩
    · refine .inr ⟨by omega, ?_⟩
      calc unitsOfRank r = m * 2 ^ e := hunits
        _ < 2 * binade * 2 ^ e := Nat.mul_lt_mul_of_pos_right hm (Nat.two_pow_pos e)
        _ = binade * 2 ^ (e + 1) := by rw [Nat.pow_succ]; ring
        _ ≤ binade * 2 ^ shift := Nat.mul_le_mul_left _ (Nat.pow_le_pow_right (by decide) hlt)

/-! ### Nearest magnitudes -/

/-- The distance of `num / den` from a number of units, times the denominator. -/
def distance (num den units : Nat) : Nat :=
  ((num : Int) - (den * units : Nat)).natAbs

theorem distance_mul_two_pow (num den k shift : Nat) :
    distance num den (k * 2 ^ shift) = distance num (den <<< shift) k := by
  rw [distance, distance, Nat.shiftLeft_eq, Nat.mul_assoc, Nat.mul_comm k]

/-- Below a quotient, what is less is further away. -/
theorem distance_lt_of_lt {units other : Nat} (hden : 0 < den) (hlt : other < units)
    (hle : units ≤ num / den) : distance num den units < distance num den other := by
  have hunits : den * units ≤ num :=
    (Nat.mul_le_mul_left den hle).trans (Nat.mul_div_le num den)
  have hother : den * other < den * units := Nat.mul_lt_mul_of_pos_left hlt hden
  unfold distance
  omega

/-- Two integers cannot both be near a quotient. -/
theorem le_distance_add (num den : Nat) (h : k ≠ m) : den ≤ distance num den k + distance num den m := by
  have hstep : ∀ {a b : Nat}, a < b → den * a + den ≤ den * b := fun hab ↦ by
    rw [← Nat.mul_succ]
    exact Nat.mul_le_mul_left den hab
  unfold distance
  rcases Nat.lt_or_gt_of_ne h with hlt | hgt
  · have := hstep hlt
    omega
  · have := hstep hgt
    omega

/-- `nearestEven` is off by a half at most, and by a half only where it is even. -/
theorem two_mul_distance_nearestEven (num : Nat) (hden : 0 < den) :
    2 * distance num den (nearestEven num den) ≤ den ∧
      (2 * distance num den (nearestEven num den) = den → nearestEven num den % 2 = 0) := by
  have hrest := Nat.mod_lt num hden
  have hnum := Nat.div_add_mod num den
  have hsucc : den * (num / den + 1) = den * (num / den) + den := Nat.mul_succ ..
  simp only [nearestEven, distance]
  split
  · omega
  · split
    · omega
    · -- a half: the floor if it is even, else the next integer
      rcases Nat.mod_two_eq_zero_or_one (num / den) with hparity | hparity
      · rw [hparity, Nat.add_zero]
        omega
      · rw [hparity]
        omega

/-- No integer is nearer to a quotient than `nearestEven`, and where another one is as near it is
even. -/
theorem nearestEven_nearest (num : Nat) (hden : 0 < den) (k : Nat) :
    distance num den (nearestEven num den) ≤ distance num den k ∧
      (k ≠ nearestEven num den →
        distance num den k = distance num den (nearestEven num den) →
          nearestEven num den % 2 = 0) := by
  obtain ⟨hhalf, heven⟩ := two_mul_distance_nearestEven num hden
  rcases eq_or_ne k (nearestEven num den) with rfl | hne
  · exact ⟨Nat.le_refl _, fun h ↦ absurd rfl h⟩
  · have hsum := le_distance_add num den hne
    exact ⟨by omega, fun _ heq ↦ heven (by omega)⟩

/-- No magnitude is nearer to `num / den` units than that of the rank, and where another one is as
near the rank is even. -/
structure IsNearestRank (num den rank : Nat) : Prop where
  le : ∀ r, distance num den (unitsOfRank rank) ≤ distance num den (unitsOfRank r)
  even : ∀ r, unitsOfRank r ≠ unitsOfRank rank →
    distance num den (unitsOfRank r) = distance num den (unitsOfRank rank) → rank % 2 = 0

/-- The exponent at which a quotient has 53 significant bits, or none where it has fewer. -/
theorem binade_le_of_log2 (num den : Nat) :
    let shift := (num / den).log2 - 52
    num / den < 2 * binade * 2 ^ shift ∧ (shift = 0 ∨ binade * 2 ^ shift ≤ num / den) := by
  intro shift
  have hbinade : ∀ e, binade * 2 ^ e = 2 ^ (52 + e) := fun e ↦ by rw [binade_eq, Nat.pow_add]
  constructor
  · calc num / den < 2 ^ ((num / den).log2 + 1) := Nat.lt_log2_self
      _ ≤ 2 ^ (52 + (shift + 1)) := Nat.pow_le_pow_right (by decide) (by omega)
      _ = 2 * binade * 2 ^ shift := by rw [← hbinade, Nat.pow_succ]; ring
  · rcases Nat.eq_zero_or_pos shift with hzero | hpos
    · exact .inl hzero
    · right
      have hlog : (num / den).log2 = 52 + shift := by omega
      have hne : num / den ≠ 0 := by
        intro h
        rw [h, Nat.log2_zero] at hlog
        omega
      rw [hbinade, ← hlog]
      exact Nat.log2_self_le hne

/-- The significand of the rank that a quotient is rounded to. -/
theorem nearestEven_le (num den : Nat) :
    let shift := (num / den).log2 - 52
    let m := nearestEven num (den <<< shift)
    m ≤ 2 * binade ∧ (shift = 0 ∨ binade ≤ m) := by
  intro shift m
  obtain ⟨hlt, hge⟩ := binade_le_of_log2 num den
  have hfloor : num / (den <<< shift) = num / den / 2 ^ shift := by
    rw [Nat.shiftLeft_eq, Nat.div_div_eq_div_mul]
  have hm : num / den / 2 ^ shift ≤ m ∧ m ≤ num / den / 2 ^ shift + 1 := by
    simp only [m, nearestEven, hfloor]
    have := Nat.mod_lt (num / den / 2 ^ shift) (by decide : 2 > 0)
    split
    · omega
    · split <;> omega
  have hupper : num / den / 2 ^ shift < 2 * binade := Nat.div_lt_of_lt_mul (by rwa [Nat.mul_comm])
  refine ⟨by omega, hge.imp_right fun h ↦ ?_⟩
  exact Nat.le_trans ((Nat.le_div_iff_mul_le (Nat.two_pow_pos shift)).2 h) hm.1

/-- The magnitude that a quotient is rounded to. -/
theorem unitsOfRank_rankOfQuotient (num den : Nat) :
    unitsOfRank (rankOfQuotient num den) =
      nearestEven num (den <<< ((num / den).log2 - 52)) * 2 ^ ((num / den).log2 - 52) := by
  obtain ⟨hupper, hlower⟩ := nearestEven_le num den
  exact unitsOfRank_add hupper hlower

/-- Rounding is off by half a step of the binade at most. -/
theorem two_mul_distance_le (num : Nat) (hden : 0 < den) :
    2 * distance num den (unitsOfRank (rankOfQuotient num den)) ≤
      den <<< ((num / den).log2 - 52) := by
  rw [unitsOfRank_rankOfQuotient, distance_mul_two_pow]
  refine (two_mul_distance_nearestEven num ?_).1
  rw [Nat.shiftLeft_eq]
  exact Nat.mul_pos hden (Nat.two_pow_pos _)

/-- A quotient is rounded to the nearest magnitude, a half going to the even rank. -/
theorem isNearestRank_rankOfQuotient (num : Nat) (hden : 0 < den) :
    IsNearestRank num den (rankOfQuotient num den) := by
  obtain ⟨-, hquotient⟩ := binade_le_of_log2 num den
  have hunits := unitsOfRank_rankOfQuotient num den
  have hrank : rankOfQuotient num den = ((num / den).log2 - 52) * binade +
    nearestEven num (den <<< ((num / den).log2 - 52)) := rfl
  set shift := (num / den).log2 - 52
  set m := nearestEven num (den <<< shift)
  have hpos : 0 < den <<< shift := by
    rw [Nat.shiftLeft_eq]
    exact Nat.mul_pos hden (Nat.two_pow_pos shift)
  have hnearest := nearestEven_nearest num hpos
  -- a magnitude of a lower binade is further away than the smallest one of this binade
  have hbelow : ∀ r, shift ≠ 0 → unitsOfRank r < binade * 2 ^ shift →
      distance num den (m * 2 ^ shift) < distance num den (unitsOfRank r) := by
    intro r hne hlt
    have hstart := (hnearest binade).1
    rw [← distance_mul_two_pow, ← distance_mul_two_pow] at hstart
    exact Nat.lt_of_le_of_lt hstart (distance_lt_of_lt hden hlt (hquotient.resolve_left hne))
  constructor
  · intro r
    rw [hunits]
    rcases unitsOfRank_multiple r shift with ⟨k, hk⟩ | ⟨hpos, hlt⟩
    · rw [hk, distance_mul_two_pow, distance_mul_two_pow]
      exact (hnearest k).1
    · exact (hbelow r hpos hlt).le
  · intro r hne heq
    rw [hunits] at hne heq
    rcases unitsOfRank_multiple r shift with ⟨k, hk⟩ | ⟨hpos, hlt⟩
    · rw [hk, distance_mul_two_pow, distance_mul_two_pow] at heq
      have hkm : k ≠ m := fun h ↦ hne (by rw [hk, h])
      have heven : m % 2 = 0 := (hnearest k).2 hkm heq
      have hbinade : shift * binade % 2 = 0 := by simp [Nat.mul_mod, binade]
      omega
    · exact absurd heq (hbelow r hpos hlt).ne'

/-! ### Doubles of integers -/

/-- No double is nearer to the given number of units, and where one of another value is as near the
rank is even. -/
structure IsNearest (units : Int) (d : Double) : Prop where
  le : ∀ d' : Double, (units - d.signedUnits).natAbs ≤ (units - d'.signedUnits).natAbs
  even : ∀ d' : Double, d'.signedUnits ≠ d.signedUnits →
    (units - d'.signedUnits).natAbs = (units - d.signedUnits).natAbs → d.rank % 2 = 0

theorem one_shiftLeft_le {a b : Nat} (h : a ≤ b) : 1 <<< a ≤ 1 <<< b := by
  rw [Nat.one_shiftLeft, Nat.one_shiftLeft]
  exact Nat.pow_le_pow_right (by decide) h

theorem one_shiftLeft_add (a b : Nat) : 1 <<< (a + b) = 2 ^ a * 1 <<< b := by
  rw [Nat.one_shiftLeft, Nat.one_shiftLeft, Nat.pow_add]

theorem log2_mul_shiftLeft_le {n bits : Nat} (hn : n < 2 ^ (bits + 1)) :
    (n * (1 <<< k)).log2 ≤ bits + k := by
  rw [Nat.one_shiftLeft]
  rcases Nat.eq_zero_or_pos (n * 2 ^ k) with hzero | hpos
  · simp [hzero]
  · have hlt : n * 2 ^ k < 2 ^ (bits + k + 1) := by
      calc n * 2 ^ k < 2 ^ (bits + 1) * 2 ^ k := Nat.mul_lt_mul_of_pos_right hn (Nat.two_pow_pos k)
        _ = 2 ^ (bits + k + 1) := by rw [← Nat.pow_add, Nat.add_right_comm]
    exact Nat.le_of_lt_succ ((Nat.log2_lt (Nat.ne_of_gt hpos)).2 hlt)

/-- Integers of 64 bits have 11 bits more than a significand. -/
theorem shift_le {n : Nat} (hn : n < 2 ^ 64) : (n * one / 1).log2 - 52 ≤ 11 + 1074 := by
  have hlog : (n * one).log2 ≤ 63 + 1074 := log2_mul_shiftLeft_le hn
  rw [Nat.div_one]
  omega

/-- They are far below the largest double. -/
theorem rankOfQuotient_lt {n : Nat} (hn : n < 2 ^ 64) : rankOfQuotient (n * one) 1 < rankLimit := by
  obtain ⟨hm, -⟩ := nearestEven_le (n * one) 1
  have hshift := Nat.mul_le_mul_right binade (shift_le hn)
  have hrank : rankOfQuotient (n * one) 1 ≤ 1087 * binade := by
    rw [rankOfQuotient]
    omega
  exact Nat.lt_of_le_of_lt hrank (by decide)

theorem rank_ofInt {n : Int} (hn : Number.InRange n) :
    (ofInt n).rank = rankOfQuotient (n.natAbs * one) 1 := by
  have hlt := rankOfQuotient_lt (n := n.natAbs) (by obtain ⟨hlow, hhigh⟩ := hn; omega)
  exact Nat.min_eq_left (by omega)

/-- An integer and the value of its double are a magnitude and the nearest one to it, or the negations
of these. -/
theorem signedUnits_ofInt_cases {n : Int} (hn : Number.InRange n) :
    let x := n.natAbs * one
    let u := unitsOfRank (rankOfQuotient x 1)
    (n * one = (x : Int) ∧ (ofInt n).signedUnits = u) ∨
      (n * one = -(x : Int) ∧ (ofInt n).signedUnits = -(u : Int)) := by
  intro x u
  have hx : (x : Int) = n.natAbs * one := Int.natCast_mul ..
  have hrank : unitsOfRank (ofInt n).rank = u := by rw [rank_ofInt hn]
  rw [signedUnits, units, hrank, hx]
  rcases Int.lt_or_le n 0 with hneg | hpos
  · rw [Int.ofNat_natAbs_of_nonpos hneg.le, Int.neg_mul, Int.neg_neg]
    exact .inr ⟨rfl, if_pos (decide_eq_true hneg)⟩
  · rw [Int.natAbs_of_nonneg hpos]
    exact .inl ⟨rfl, if_neg (by simpa [ofInt, saturating] using hpos)⟩

/-- The value of a double is the magnitude of a rank, or its negation. -/
theorem signedUnits_cases (d : Double) :
    d.signedUnits = unitsOfRank d.rank ∨ d.signedUnits = -(unitsOfRank d.rank : Int) := by
  unfold signedUnits units
  split
  · exact .inr rfl
  · exact .inl rfl

/-- The double of an integer is the nearest one, a half going to the even rank. -/
theorem isNearest_ofInt {n : Int} (hn : Number.InRange n) : IsNearest (n * one) (ofInt n) := by
  have hsigns := signedUnits_ofInt_cases hn
  dsimp only at hsigns
  have hnearest := isNearestRank_rankOfQuotient (n.natAbs * one) Nat.one_pos
  -- a double of the other sign is not nearer than zero is
  have hzero : unitsOfRank 0 = 0 := by simp [unitsOfRank, binade]
  have hat := hnearest.le 0
  have hateven := hnearest.even 0
  rw [hzero] at hat hateven
  simp only [distance, Nat.one_mul, Nat.mul_zero] at hat hateven
  constructor
  · intro d
    have hrank := hnearest.le d.rank
    simp only [distance, Nat.one_mul] at hrank
    generalize n.natAbs * one = x at *
    generalize unitsOfRank (rankOfQuotient x 1) = u at *
    rcases hsigns with ⟨hx, hu⟩ | ⟨hx, hu⟩ <;> rcases signedUnits_cases d with hd | hd <;>
      rw [hx, hu, hd] <;> omega
  · intro d hne heq
    have hrank := hnearest.even d.rank
    simp only [distance, Nat.one_mul] at hrank
    rw [rank_ofInt hn]
    generalize n.natAbs * one = x at *
    generalize unitsOfRank (rankOfQuotient x 1) = u at *
    generalize rankOfQuotient x 1 = rank at *
    rcases hsigns with ⟨hx, hu⟩ | ⟨hx, hu⟩ <;> rcases signedUnits_cases d with hd | hd <;>
      rw [hu, hd] at hne <;> rw [hx, hu, hd] at heq <;> omega

/-- The double of an integer is off by 1024 at most. -/
theorem two_mul_natAbs_sub_ofInt_le {n : Int} (hn : Number.InRange n) :
    2 * (n * one - (ofInt n).signedUnits).natAbs ≤ 2048 * one := by
  have hsigns := signedUnits_ofInt_cases hn
  dsimp only at hsigns
  have hlt : n.natAbs < 2 ^ 64 := by
    obtain ⟨hlow, hhigh⟩ := hn
    omega
  have hstep : 1 <<< ((n.natAbs * one / 1).log2 - 52) ≤ 2048 * one := by
    calc 1 <<< ((n.natAbs * one / 1).log2 - 52) ≤ 1 <<< (11 + 1074) :=
          one_shiftLeft_le (shift_le hlt)
      _ = 2048 * one := one_shiftLeft_add 11 1074
  have hnear := (two_mul_distance_le (n.natAbs * one) Nat.one_pos).trans hstep
  simp only [distance, Nat.one_mul] at hnear
  generalize n.natAbs * one = x at *
  generalize unitsOfRank (rankOfQuotient x 1) = u at *
  rcases hsigns with ⟨hx, hu⟩ | ⟨hx, hu⟩ <;> rw [hx, hu] <;> omega

/-- Rounding keeps the order of integers. -/
theorem signedUnits_ofInt_le {a b : Int} (ha : Number.InRange a) (hb : Number.InRange b)
    (hab : a ≤ b) : (ofInt a).signedUnits ≤ (ofInt b).signedUnits := by
  have hone : (0 : Int) < one := Int.natCast_pos.2 one_pos
  rcases eq_or_ne a b with rfl | hne
  · exact Int.le_refl _
  · have hlt : a * (one : Int) < b * one := Int.mul_lt_mul_of_pos_right (by omega) hone
    have hnearestA := (isNearest_ofInt ha).le (ofInt b)
    have hnearestB := (isNearest_ofInt hb).le (ofInt a)
    omega

end Double

end DocPath

import DocPath.Formula.Basic
import DocPath.Proofs.Double.Nearest
import DocPath.Proofs.Formula.Roundtrip

/-!
# Exact arithmetic

`Arithmetic.Makes` says what the five operations make of integers by rights: division is allowed
where it comes out even, and a remainder has the sign of the dividend. A term of literals, parts of
the subject, signs and operations `Amounts` to an integer if it does so by rights at every part of
it, within the signed range of 64 bits.

Such a term has this integer as its value, and never a double (`eval_of_amounts`), with one
exception: the quotient that goes with a remainder of the least integer by minus one is out of range
(`Arithmetic.Overflows`), and the remainder is a double there. Whatever a term amounts to, a divisor
of zero anywhere in it is an error (`exists_error_of_zero`).
-/

namespace DocPath.Formula

open Number (IsInt64)

/-! ### Integers by rights -/

/-- The result of an operation on two integers. Nothing is divided by zero, a quotient leaves
nothing over, and a remainder is smaller than the divisor and not of the other sign than the
dividend. -/
inductive Arithmetic.Makes : Arithmetic → Int → Int → Int → Prop
  | add (m n : Int) : Makes .add m n (m + n)
  | sub (m n : Int) : Makes .sub m n (m - n)
  | mul (m n : Int) : Makes .mul m n (m * n)
  | div {m n q : Int} (hn : n ≠ 0) (h : q * n = m) : Makes .div m n q
  | rem {m n r : Int} (q : Int) (h : q * n + r = m) (hlt : r.natAbs < n.natAbs)
    (hsign : (0 ≤ m → 0 ≤ r) ∧ (m ≤ 0 → r ≤ 0)) : Makes .rem m n r

/-- The remainder of the least integer by minus one: there is one, but the quotient is one more than
the largest integer. -/
def Arithmetic.Overflows (op : Arithmetic) (m n : Int) : Prop :=
  op = .rem ∧ m = -0x8000000000000000 ∧ n = -1

/-- The term is a calculation with integers that comes to this one, and every part of it comes to an
integer of the signed range. -/
inductive Term.Amounts (subject : Json) : Term → Int → Prop
  | literal {n : Int} (hn : IsInt64 n) : Amounts subject (.literal (.number (.ofInt n))) n
  | subject {path : List Access} {n : Int} (h : readPath subject path = .ofInt n) (hn : IsInt64 n) :
    Amounts subject (.subject path) n
  | neg {t : Term} {n : Int} (ht : Amounts subject t n) (hn : IsInt64 (-n)) :
    Amounts subject (.neg t) (-n)
  | arith {op : Arithmetic} {left right : Term} {m n r : Int} (hleft : Amounts subject left m)
    (hright : Amounts subject right n) (h : op.Makes m n r) (hr : IsInt64 r) :
    Amounts subject (.arith op left right) r

/-- The first term is the second one or an operand in it, at any depth of signs and operations. -/
inductive Term.PartOf : Term → Term → Prop
  | self (t : Term) : PartOf t t
  | neg {s t : Term} (h : PartOf s t) : PartOf s (.neg t)
  | left {s left : Term} (op : Arithmetic) (h : PartOf s left) (right : Term) :
    PartOf s (.arith op left right)
  | right {s right : Term} (op : Arithmetic) (left : Term) (h : PartOf s right) :
    PartOf s (.arith op left right)

/-- At some part of the term an operation overflows. -/
def Term.Overflows (subject : Json) (t : Term) : Prop :=
  ∃ op left right m n, PartOf (.arith op left right) t ∧ left.Amounts subject m ∧
    right.Amounts subject n ∧ op.Overflows m n

variable {subject : Json} {op : Arithmetic} {s t left right : Term} {m n r : Int}

theorem Term.Amounts.isInt64 (h : t.Amounts subject n) : IsInt64 n := by
  cases h <;> assumption

/-- The parts of a term in which nothing overflows. -/
theorem Term.PartOf.not_overflows (h : s.PartOf t) (ht : ¬ t.Overflows subject) :
    ¬ s.Overflows subject := by
  rintro ⟨op, left, right, m, n, hpart, hamounts⟩
  refine ht ⟨op, left, right, m, n, ?_, hamounts⟩
  clear ht
  induction h with
  | self => exact hpart
  | neg _ ih => exact .neg ih
  | left op _ right ih => exact .left op ih right
  | right op left _ ih => exact .right op left ih

/-! ### Operations -/

/-- The remainder by rights is that of the division toward zero. -/
theorem tmod_eq_of_makes (h : Arithmetic.Makes .rem m n r) : n ≠ 0 ∧ m.tmod n = r := by
  cases h with
  | rem q h hlt hsign =>
    have hn : n ≠ 0 := by omega
    have hdivide : r + n * q = m := by rw [Int.mul_comm, Int.add_comm, h]
    refine ⟨hn, ?_⟩
    rcases Int.le_total 0 m with hm | hm
    · exact ((Int.tdiv_tmod_unique hm hn).2 ⟨hdivide, hsign.1 hm, by omega⟩).2
    · exact ((Int.tdiv_tmod_unique' hm hn).2 ⟨hdivide, by omega, hsign.2 hm⟩).2

/-- The quotient of two integers of the signed range is one too, with one exception. -/
theorem isInt64_tdiv (hm : IsInt64 m) (h : ¬ (m = -0x8000000000000000 ∧ n = -1)) :
    IsInt64 (m.tdiv n) := by
  have hquotient : (m.tdiv n).natAbs = m.natAbs / n.natAbs := Int.natAbs_tdiv m n
  unfold IsInt64 at hm ⊢
  rcases Nat.lt_or_ge n.natAbs 2 with hsmall | hlarge
  · obtain rfl | rfl | rfl : n = 0 ∨ n = 1 ∨ n = -1 := by omega
    · simp
    · rwa [Int.tdiv_one]
    · rw [Int.tdiv_neg, Int.tdiv_one]
      omega
  · have hhalf : m.natAbs / n.natAbs ≤ m.natAbs / 2 := Nat.div_le_div_left hlarge (by decide)
    omega

/-- The integer that an operation gives is the one by rights, where that is of the signed range. -/
theorem Arithmetic.exact?_of_makes (h : op.Makes m n r) (hm : IsInt64 m) (hr : IsInt64 r)
    (hover : ¬ op.Overflows m n) : op.exact? m n = some r := by
  have hkept : ∀ result : Option Int, result = some r →
      (result.filter fun r ↦ decide (IsInt64 r)) = some r := by
    rintro _ rfl
    exact Option.filter_some_pos (decide_eq_true hr)
  refine hkept _ ?_
  cases op with
  | add =>
    cases h
    rfl
  | sub =>
    cases h
    rfl
  | mul =>
    cases h
    rfl
  | div =>
    cases h with
    | div hn h =>
      rw [← h]
      simp [hn]
  | rem =>
    obtain ⟨hn, hmod⟩ := tmod_eq_of_makes h
    have hquotient : IsInt64 (m.tdiv n) := isInt64_tdiv hm fun hmn ↦ hover ⟨rfl, hmn⟩
    simp [hn, hquotient, hmod]

theorem Arithmetic.apply_number (op : Arithmetic) (m n : Number) :
    op.apply (.number m) (.number n) = op.onNumbers m n := by
  cases op <;> rfl

/-- Of integers the result is the integer by rights. -/
theorem Arithmetic.apply_of_makes (h : op.Makes m n r) (hm : IsInt64 m) (hn : IsInt64 n)
    (hr : IsInt64 r) (hover : ¬ op.Overflows m n) :
    op.apply (.ofInt m) (.ofInt n) = .ok (.ofInt r) := by
  rw [apply_number, onNumbers, Number.int64?_ofInt hm, Number.int64?_ofInt hn]
  simp only [Option.bind_eq_bind, Option.bind_some, exact?_of_makes h hm hr hover]

theorem negate_ofInt (hn : IsInt64 n) (hneg : IsInt64 (-n)) :
    negate (.ofInt n) = .ok (.ofInt (-n)) := by
  have hkept : ((some n).filter fun i ↦ decide (IsInt64 (-i))) = some n :=
    Option.filter_some_pos (decide_eq_true hneg)
  rw [negate, Number.int64?_ofInt hn, hkept]

/-! ### Terms -/

theorem Term.eval_neg (subject : Json) (t : Term) :
    (Term.neg t).eval subject = t.eval subject >>= negate :=
  rfl

theorem Term.eval_arith (subject : Json) (op : Arithmetic) (left right : Term) :
    (Term.arith op left right).eval subject =
      left.eval subject >>= fun v ↦ right.eval subject >>= fun w ↦ op.apply v w :=
  rfl

/-- A term that amounts to an integer has it as its value, where nothing overflows. -/
theorem eval_of_amounts (h : t.Amounts subject n) (hover : ¬ t.Overflows subject) :
    t.eval subject = .ok (.ofInt n) := by
  induction h with
  | literal hn => rfl
  | subject h hn => exact congrArg Except.ok h
  | neg ht hn ih =>
    have hvalue := ih ((Term.PartOf.neg (.self _)).not_overflows hover)
    rw [Term.eval_neg, hvalue]
    exact negate_ofInt ht.isInt64 hn
  | @arith op left right m n r hleft hright h hr ihl ihr =>
    have hvalue := ihl ((Term.PartOf.left op (.self left) right).not_overflows hover)
    have hvalue' := ihr ((Term.PartOf.right op left (.self right)).not_overflows hover)
    rw [Term.eval_arith, hvalue, hvalue']
    exact Arithmetic.apply_of_makes h hleft.isInt64 hright.isInt64 hr fun hmn ↦
      hover ⟨op, left, right, m, n, .self _, hleft, hright, hmn⟩

/-- An error in a part of a term is one of the term, or an earlier one is. -/
theorem Term.PartOf.exists_error (h : s.PartOf t) (hs : ∃ e, s.eval subject = .error e) :
    ∃ e, t.eval subject = .error e := by
  induction h with
  | self => exact hs
  | neg _ ih =>
    obtain ⟨e, he⟩ := ih
    exact ⟨e, by rw [Term.eval_neg, he]; rfl⟩
  | left op _ right ih =>
    obtain ⟨e, he⟩ := ih
    exact ⟨e, by rw [Term.eval_arith, he]; rfl⟩
  | right op left _ ih =>
    obtain ⟨e, he⟩ := ih
    rw [Term.eval_arith, he]
    cases left.eval subject with
    | error e' => exact ⟨e', rfl⟩
    | ok v => exact ⟨e, rfl⟩

/-- Only of zero the double is zero. -/
theorem eq_zero_of_isZero_ofInt (hn : Number.InRange n) (h : (Double.ofInt n).isZero) : n = 0 := by
  have hrank : Double.rankOfQuotient (n.natAbs * Double.one) 1 = 0 :=
    (Double.rank_ofInt hn).symm.trans (beq_iff_eq.1 h)
  have hnear := Double.two_mul_distance_le (n.natAbs * Double.one) Nat.one_pos
  rw [hrank, Nat.div_one] at hnear
  by_contra hne
  have hpos : 0 < n.natAbs * Double.one := Nat.mul_pos (Int.natAbs_pos.2 hne) Double.one_pos
  generalize n.natAbs * Double.one = x at hnear hpos
  -- zero is too far from what has a leading bit
  have hzero : Double.distance x 1 (Double.unitsOfRank 0) = x := by
    simp [Double.distance, Double.unitsOfRank, Double.binade]
  have hhalf : 1 <<< (x.log2 - 52) ≤ x := by
    rw [Nat.one_shiftLeft]
    exact (Nat.pow_le_pow_right Nat.two_pos (Nat.sub_le ..)).trans (Nat.log2_self_le hpos.ne')
  omega

/-- Nothing comes of a division by zero. -/
theorem Arithmetic.exists_error_of_isZero {d : Number} (hop : op = .div ∨ op = .rem)
    (hd : d.isZero) (v : Json) : ∃ e, op.apply v (.number d) = .error e := by
  have hexact : ∀ m, op.exact? m 0 = none := by
    rcases hop with rfl | rfl <;> exact fun m ↦ rfl
  have hnumbers : ∀ m : Number, op.onNumbers m d = .error .divisionByZero := by
    intro m
    have hnone : (do op.exact? (← m.int64?) (← d.int64?)) = none := by
      cases d with
      | double d => cases m.int64? <;> rfl
      | integer n hn =>
        obtain rfl : n = 0 := eq_zero_of_isZero_ofInt hn hd
        cases m.int64? with
        | none => rfl
        | some m => exact hexact m
    rw [onNumbers]
    simp only [hnone, hop, hd, and_self, if_true]
  cases v with
  | scalar v =>
    cases v with
    | number m => exact ⟨_, (apply_number op m d).trans (hnumbers m)⟩
    | _ => rcases hop with rfl | rfl <;> exact ⟨_, rfl⟩
  | _ => rcases hop with rfl | rfl <;> exact ⟨_, rfl⟩

/-- A term with a divisor that is zero has no value. -/
theorem exists_error_of_zero {d : Number} (h : Term.PartOf (.arith op left right) t)
    (hop : op = .div ∨ op = .rem) (hd : right.eval subject = .ok (.number d)) (hzero : d.isZero) :
    ∃ e, t.eval subject = .error e := by
  refine h.exists_error ?_
  rw [Term.eval_arith, hd]
  cases left.eval subject with
  | error e => exact ⟨e, rfl⟩
  | ok v => exact Arithmetic.exists_error_of_isZero hop hzero v

/-- The remainder of a division that overflows is a double. -/
theorem Arithmetic.apply_of_overflows (h : op.Overflows m n) :
    op.apply (.ofInt m) (.ofInt n) = .ok (.number (.double (.zero true))) := by
  obtain ⟨rfl, rfl, rfl⟩ := h
  have hexact : Arithmetic.exact? .rem (-0x8000000000000000) (-1) = none := by decide
  have hdivisor : (Number.ofInt (-1)).isZero = false := Bool.eq_false_iff.2 fun hzero ↦
    absurd (eq_zero_of_isZero_ofInt (n := -1) (by decide) hzero) (by decide)
  have hdouble : onDoubles .rem (Number.ofInt (-0x8000000000000000)).toDouble
      (Number.ofInt (-1)).toDouble = .finite (.zero true) := by decide +kernel
  rw [apply_number, onNumbers, Number.int64?_ofInt (by decide), Number.int64?_ofInt (by decide)]
  simp only [Option.bind_eq_bind, Option.bind_some, hexact, hdivisor, Bool.false_eq_true, and_false,
    if_false, hdouble]
  rfl

theorem eval_of_overflows (h : op.Overflows m n) (hleft : left.eval subject = .ok (.ofInt m))
    (hright : right.eval subject = .ok (.ofInt n)) :
    (Term.arith op left right).eval subject = .ok (.number (.double (.zero true))) := by
  rw [Term.eval_arith, hleft, hright]
  exact Arithmetic.apply_of_overflows h

/-- A term that amounts to an integer of the signed range has exactly this integer as its value,
where no remainder overflows. A divisor that is zero is an error. The remainder that overflows is
the negative zero of the doubles instead of the integer. -/
theorem calculation_exact (subject : Json) (t : Term) :
    (∀ n, t.Amounts subject n → ¬ t.Overflows subject →
        ∃ h, t.eval subject = .ok (.number (.integer n h))) ∧
      (∀ op left right d, Term.PartOf (.arith op left right) t → op = .div ∨ op = .rem →
        right.eval subject = .ok (.number d) → d.isZero → ∃ e, t.eval subject = .error e) ∧
      ∀ op left right m n, op.Overflows m n → left.eval subject = .ok (.ofInt m) →
        right.eval subject = .ok (.ofInt n) →
        (Term.arith op left right).eval subject = .ok (.number (.double (.zero true))) := by
  refine ⟨fun n h hover ↦ ?_, fun op left right d hpart hop hd hzero ↦
    exists_error_of_zero hpart hop hd hzero, fun op left right m n h hleft hright ↦ ?_⟩
  · obtain ⟨hlow, hhigh⟩ := h.isInt64
    have hn : Number.InRange n := ⟨hlow, by omega⟩
    refine ⟨hn, ?_⟩
    rw [eval_of_amounts h hover, Json.ofInt, Number.ofInt, dif_pos hn]
  · exact eval_of_overflows h hleft hright

/-- The least integer divided, its sign changed, and the remainder by a negative divisor taken; a
divisor that a difference makes zero; and the remainder that overflows. -/
theorem calculation_exact_least :
    (∃ h, (Term.arith .rem
          (.neg (.arith .div (.subject [.index 0]) (.literal (.number (.ofInt 8)))))
          (.arith .sub (.subject [.index 1]) (.literal (.number (.ofInt 10))))).eval
        (.array [.ofInt (-0x8000000000000000), .ofInt 7]) = .ok (.number (.integer 1 h))) ∧
      (∃ e, (Term.arith .add (.literal (.number (.ofInt 1))) (.arith .div (.subject [.index 1])
          (.arith .sub (.subject [.index 1]) (.literal (.number (.ofInt 7)))))).eval
        (.array [.ofInt (-0x8000000000000000), .ofInt 7]) = .error e) ∧
      (Term.arith .rem (.subject [.index 0]) (.neg (.literal (.number (.ofInt 1))))).eval
        (.array [.ofInt (-0x8000000000000000), .ofInt 7]) =
          .ok (.number (.double (.zero true))) := by
  refine ⟨(calculation_exact _ _).1 1 ?_ ?_,
    (calculation_exact _ _).2.1 .div _ _ (.ofInt 0) (.right _ _ (.self _)) (.inl rfl) rfl
      (by decide),
    (calculation_exact _ (.subject [])).2.2 .rem _ _ (-0x8000000000000000) (-1) ⟨rfl, rfl, rfl⟩
      rfl rfl⟩
  · have hquotient : (Term.arith .div (.subject [.index 0]) (.literal (.number (.ofInt 8)))).Amounts
        (.array [.ofInt (-0x8000000000000000), .ofInt 7]) (-0x1000000000000000) :=
      .arith (.subject rfl (by decide)) (.literal (by decide)) (.div (by decide) (by decide))
        (by decide)
    have hdifference : (Term.arith .sub (.subject [.index 1])
        (.literal (.number (.ofInt 10)))).Amounts
          (.array [.ofInt (-0x8000000000000000), .ofInt 7]) (-3) :=
      .arith (.subject rfl (by decide)) (.literal (by decide)) (.sub 7 10) (by decide)
    exact .arith (.neg hquotient (by decide)) hdifference
      (.rem (-384307168202282325) (by decide) (by decide) (by decide)) (by decide)
  · -- the only remainder is that of a term with a changed sign, which is never the least integer
    rintro ⟨op, left, right, m, n, hpart, hleft, -, rfl, rfl, rfl⟩
    cases hpart with
    | self =>
      generalize hleast : (-0x8000000000000000 : Int) = m at hleft
      cases hleft with
      | @neg _ n hquotient hn =>
        obtain ⟨-, hhigh⟩ := hquotient.isInt64
        omega
    | left _ hpart =>
      cases hpart with
      | neg hpart =>
        cases hpart with
        | left _ hpart => cases hpart
        | right _ _ hpart => cases hpart
    | right _ _ hpart =>
      cases hpart with
      | left _ hpart => cases hpart
      | right _ _ hpart => cases hpart

/-- By rights the remainder of the least integer by minus one is zero, but the value of the term is
the negative zero of the doubles. -/
theorem remainder_overflows :
    Term.read "$ % -1".toList =
        .ok (.arith .rem (.subject []) (.neg (.literal (.number (.ofInt 1))))) ∧
      (Term.arith .rem (.subject []) (.neg (.literal (.number (.ofInt 1))))).Amounts
        (.ofInt (-0x8000000000000000)) 0 ∧
      (Term.arith .rem (.subject []) (.neg (.literal (.number (.ofInt 1))))).eval
        (.ofInt (-0x8000000000000000)) = .ok (.number (.double (.zero true))) ∧
      ¬ ∃ h, (Term.arith .rem (.subject []) (.neg (.literal (.number (.ofInt 1))))).eval
        (.ofInt (-0x8000000000000000)) = .ok (.number (.integer 0 h)) := by
  -- the text is the spelling of the term with blanks around operators
  have hspell : (Term.arith .rem (.subject []) (.neg (.literal (.number (.ofInt 1))))).Spellable :=
    .arith .rem (.subject nofun) (.neg (.literal ⟨1, by decide, rfl⟩))
  have hreads := hspell.legible.spellAt
    (s := ⟨'"', .inl rfl, [' '], List.forall_mem_singleton.2 rfl, fun _ ↦ false⟩)
    (follows_nil .disjunction)
  have hdivisor : (Term.neg (.literal (.number (.ofInt 1)))).eval (.ofInt (-0x8000000000000000)) =
      .ok (.ofInt (-1)) :=
    negate_ofInt (n := 1) (by decide) (by decide)
  have hvalue : (Term.arith .rem (.subject []) (.neg (.literal (.number (.ofInt 1))))).eval
      (.ofInt (-0x8000000000000000)) = .ok (.number (.double (.zero true))) :=
    eval_of_overflows ⟨rfl, rfl, rfl⟩ rfl hdivisor
  refine ⟨hreads.read, ?_, hvalue, ?_⟩
  · exact .arith (.subject rfl (by decide)) (.neg (.literal (by decide)) (by decide))
      (.rem 0x8000000000000000 (by decide) (by decide) (by decide)) (by decide)
  · rintro ⟨h, hinteger⟩
    rw [hvalue] at hinteger
    cases hinteger

end DocPath.Formula

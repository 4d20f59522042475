import DocPath.Formula.Reader
import DocPath.Proofs.Text.Scan

/-!
# Rules of the reader of formulas

The functions of the reader are one function `readAt` of the `Level` of a term, and those that go on
with a left operand are one function `readMore` of the `Chain` of operators.

`Reads ℓ text t rest` says that at a level a text begins with a term and what is left of it, blanks
aside. Each production of the grammar is a rule for it: `Reads.chain` with `More.stop` and
`More.step` for the operators that associate to the left, `Reads.compare`, `Reads.not`, `Reads.neg`,
`Reads.paren`, `Reads.atom`, `Reads.call`. What is read at one level is read at every looser one,
as long as no operator of that level follows (`Reads.loosen`).

No rule speaks of the steps that the reader is given: they are enough as long as there are nine for
every character that a term takes up, and one more for each level down to that of operands.
-/

namespace DocPath.Formula

open Text (skipBlanks skipBlanks_skipBlanks skipBlanks_cons length_skipBlanks_le isIdentifierChar)

variable {text rest more : List Char} {t left right : Term}

/-! ### Levels -/

/-- The kinds of terms, from the tightest to the loosest. -/
inductive Level
  | operand | sign | product | sum | comparison | negation | conjunction | disjunction

namespace Level

def height : Level → Nat
  | operand => 1
  | sign => 2
  | product => 3
  | sum => 4
  | comparison => 5
  | negation => 6
  | conjunction => 7
  | disjunction => 8

/-- The level that is just looser; after the loosest there is no other. -/
def next : Level → Level
  | operand => sign
  | sign => product
  | product => sum
  | sum => comparison
  | comparison => negation
  | negation => conjunction
  | conjunction => disjunction
  | disjunction => disjunction

theorem height_injective : Function.Injective height := by
  intro a b h
  cases a <;> cases b <;> first | rfl | cases h

theorem height_pos (ℓ : Level) : 0 < ℓ.height := by
  cases ℓ <;> decide

theorem height_le (ℓ : Level) : ℓ.height ≤ 8 := by
  cases ℓ <;> decide

theorem height_next {ℓ m : Level} (h : ℓ.height < m.height) : ℓ.next.height = ℓ.height + 1 := by
  cases ℓ
  case disjunction => exact absurd m.height_le (Nat.not_le.2 h)
  all_goals rfl

end Level

/-- The reader of a level. -/
def readAt : Level → (size steps : Nat) → List Char → Except SyntaxError (Term × List Char)
  | .operand => readPrimary
  | .sign => readUnary
  | .product => readProduct
  | .sum => readSum
  | .comparison => readCompare
  | .negation => readNot
  | .conjunction => readAnd
  | .disjunction => readOr

/-- The operators that associate to the left, by their levels. -/
inductive Chain
  | product | sum | conjunction | disjunction

namespace Chain

def level : Chain → Level
  | product => .product
  | sum => .sum
  | conjunction => .conjunction
  | disjunction => .disjunction

/-- The level of the operands. -/
def operand : Chain → Level
  | product => .sign
  | sum => .product
  | conjunction => .negation
  | disjunction => .conjunction

theorem height_level (c : Chain) : c.level.height = c.operand.height + 1 := by
  cases c <;> rfl

/-- The operator at the front of a text, as what it makes of its operands. -/
def operator? : Chain → List Char → Option ((Term → Term → Term) × List Char)
  | product => fun
    | '*' :: rest => some (.arith .mul, rest)
    | '/' :: rest => some (.arith .div, rest)
    | '%' :: rest => some (.arith .rem, rest)
    | _ => none
  | sum => fun
    | '+' :: rest => some (.arith .add, rest)
    | '-' :: rest => some (.arith .sub, rest)
    | _ => none
  | conjunction => fun
    | '&' :: '&' :: rest => some (.and, rest)
    | _ => none
  | disjunction => fun
    | '|' :: '|' :: rest => some (.or, rest)
    | _ => none

end Chain

/-- The reader of a chain after its first operand. -/
def readMore : Chain → (size steps : Nat) → Term → List Char →
    Except SyntaxError (Term × List Char)
  | .product => readProducts
  | .sum => readSums
  | .conjunction => readAnds
  | .disjunction => readOrs

/-- The level of the binary operator at the front of a text. -/
def operatorAt : List Char → Option Level
  | '|' :: '|' :: _ => some .disjunction
  | '&' :: '&' :: _ => some .conjunction
  | '=' :: '=' :: _ => some .comparison
  | '!' :: '=' :: _ => some .comparison
  | '<' :: _ => some .comparison
  | '>' :: _ => some .comparison
  | '+' :: _ => some .sum
  | '-' :: _ => some .sum
  | '*' :: _ => some .product
  | '/' :: _ => some .product
  | '%' :: _ => some .product
  | _ => none

/-- The text goes on with no operator of the level or a tighter one. -/
def Ends (ℓ : Level) (text : List Char) : Prop :=
  ∀ m, operatorAt text = some m → ℓ.height < m.height

theorem Ends.mono {ℓ m : Level} (h : Ends ℓ text) (hle : m.height ≤ ℓ.height) : Ends m text :=
  fun k hk ↦ Nat.lt_of_le_of_lt hle (h k hk)

theorem Ends.operator?_eq_none {c : Chain} (h : Ends c.level text) : c.operator? text = none := by
  have hlevel : ∀ found, c.operator? text = some found → operatorAt text = some c.level := by
    intro found hfound
    cases c <;> simp only [Chain.operator?] at hfound <;> split at hfound <;> first
      | rfl
      | cases hfound
  exact Option.eq_none_iff_forall_ne_some.2 fun found hfound ↦
    Nat.lt_irrefl _ (h _ (hlevel found hfound))

theorem Ends.comparison?_eq_none (h : Ends .comparison text) : comparison? text = none := by
  have hlevel : ∀ found, comparison? text = some found → operatorAt text = some .comparison := by
    intro found hfound
    unfold comparison? at hfound
    split at hfound <;> first
      | rfl
      | cases hfound
  exact Option.eq_none_iff_forall_ne_some.2 fun found hfound ↦
    Nat.lt_irrefl _ (h _ (hlevel found hfound))

theorem length_lt_of_operator? {c : Chain} {make : Term → Term → Term}
    (h : c.operator? text = some (make, rest)) : rest.length < text.length := by
  cases c <;> simp only [Chain.operator?] at h <;> split at h <;> cases h <;>
    simp only [List.length_cons] <;> omega

theorem length_lt_of_comparison? {op : Comparison} (h : comparison? text = some (op, rest)) :
    rest.length < text.length := by
  unfold comparison? at h
  split at h <;> cases h <;> simp only [List.length_cons] <;> omega

/-! ### One step of the reader -/

section

variable (size steps : Nat)

theorem readAt_level (c : Chain) (text : List Char) :
    readAt c.level size (steps + 1) text = (readAt c.operand size steps text).bind fun first ↦
      readMore c size steps first.1 first.2 := by
  cases c <;> rfl

theorem readMore_succ (c : Chain) (left : Term) (text : List Char) :
    readMore c size (steps + 1) left text =
      match c.operator? (skipBlanks text) with
      | some (make, rest) => (readAt c.operand size steps rest).bind fun second ↦
          readMore c size steps (make left second.1) second.2
      | none => .ok (left, skipBlanks text) := by
  generalize hfront : skipBlanks text = front
  cases c
  case product =>
    simp only [readMore, readProducts, Chain.operator?, hfront]
    split
    iterate 3 rfl
    simp only [*]
    rfl
  case sum =>
    simp only [readMore, readSums, Chain.operator?, hfront]
    split
    iterate 2 rfl
    simp only [*]
    rfl
  case conjunction =>
    simp only [readMore, readAnds, Chain.operator?, hfront]
    split
    · rfl
    · simp only [*]
      rfl
  case disjunction =>
    simp only [readMore, readOrs, Chain.operator?, hfront]
    split
    · rfl
    · simp only [*]
      rfl

theorem readCompare_of_none (hleft : readSum size steps text = .ok (left, rest))
    (hop : comparison? (skipBlanks rest) = none) :
    readCompare size (steps + 1) text = .ok (left, skipBlanks rest) := by
  simp only [readCompare, hleft, bind, Except.bind, hop]
  rfl

theorem readCompare_of_some {op : Comparison}
    (hleft : readSum size steps text = .ok (left, rest))
    (hop : comparison? (skipBlanks rest) = some (op, more)) :
    readCompare size (steps + 1) text = (readSum size steps more).map fun second ↦
      (Term.compare op left second.1, second.2) := by
  simp only [readCompare, hleft, bind, Except.bind, hop]
  cases readSum size steps more <;> rfl

/-- A negation, unless it is half of an operator. -/
theorem readNot_bang (hne : ∀ rest, text ≠ '=' :: rest) :
    readNot size (steps + 1) ('!' :: text) = (readNot size steps text).map fun inner ↦
      (Term.not inner.1, inner.2) := by
  have hfront : skipBlanks ('!' :: text) = '!' :: text := skipBlanks_cons (by decide)
  rw [readNot, hfront]
  split
  · rename_i rest heq
    exact absurd (List.cons.inj heq).2 (hne rest)
  · rename_i rest _ heq
    rw [(List.cons.inj heq).2]
    cases readNot size steps rest <;> rfl
  · rename_i _ hbang
    exact absurd rfl (hbang text)

theorem readNot_of_ne {c : Char} (hfront : skipBlanks text = c :: more) (hne : c ≠ '!') :
    readNot size (steps + 1) text = readCompare size steps (c :: more) := by
  rw [readNot, hfront]
  split
  · rename_i rest heq
    exact absurd (List.cons.inj heq).1 hne
  · rename_i rest _ heq
    exact absurd (List.cons.inj heq).1 hne
  · rfl

theorem readUnary_minus (text : List Char) :
    readUnary size (steps + 1) ('-' :: text) = (readUnary size steps text).map fun inner ↦
      (Term.neg inner.1, inner.2) := by
  have hfront : skipBlanks ('-' :: text) = '-' :: text := skipBlanks_cons (by decide)
  rw [readUnary, hfront]
  show (readUnary size steps text >>= fun inner ↦ pure (Term.neg inner.1, inner.2)) = _
  cases readUnary size steps text <;> rfl

theorem readUnary_of_ne {c : Char} (hfront : skipBlanks text = c :: more) (hne : c ≠ '-') :
    readUnary size (steps + 1) text = readPrimary size steps (c :: more) := by
  rw [readUnary, hfront]
  split
  · rename_i rest heq
    exact absurd (List.cons.inj heq).1 hne
  · rfl

theorem readAt_zero (ℓ : Level) (text : List Char) :
    readAt ℓ size 0 text = .error .operandExpected := by
  cases ℓ <;> rfl

end

/-- Blanks in front of a term do not matter. -/
theorem readAt_skipBlanks (ℓ : Level) (size steps : Nat) (text : List Char) :
    readAt ℓ size steps (skipBlanks text) = readAt ℓ size steps text := by
  have hchain : ∀ c : Chain, (∀ n, readAt c.operand size n (skipBlanks text) =
      readAt c.operand size n text) →
      ∀ n, readAt c.level size n (skipBlanks text) = readAt c.level size n text := by
    intro c hoperand n
    cases n with
    | zero => rw [readAt_zero, readAt_zero]
    | succ n => rw [readAt_level, readAt_level, hoperand]
  have hoperand : ∀ n, readAt .operand size n (skipBlanks text) = readAt .operand size n text
    | 0 => rfl
    | n + 1 => by rw [readAt, readPrimary, readPrimary, skipBlanks_skipBlanks]
  have hsign : ∀ n, readAt .sign size n (skipBlanks text) = readAt .sign size n text
    | 0 => rfl
    | n + 1 => by rw [readAt, readUnary, readUnary, skipBlanks_skipBlanks]
  have hproduct := hchain .product hsign
  have hsum := hchain .sum hproduct
  have hcomparison : ∀ n,
      readAt .comparison size n (skipBlanks text) = readAt .comparison size n text
    | 0 => rfl
    | n + 1 => by
      have hleft : readSum size n (skipBlanks text) = readSum size n text := hsum n
      rw [readAt, readCompare, readCompare, hleft]
  have hnegation : ∀ n, readAt .negation size n (skipBlanks text) = readAt .negation size n text
    | 0 => rfl
    | n + 1 => by rw [readAt, readNot, readNot, skipBlanks_skipBlanks]
  have hconjunction := hchain .conjunction hnegation
  cases ℓ
  case operand => exact hoperand steps
  case sign => exact hsign steps
  case product => exact hproduct steps
  case sum => exact hsum steps
  case comparison => exact hcomparison steps
  case negation => exact hnegation steps
  case conjunction => exact hconjunction steps
  case disjunction => exact hchain .disjunction hconjunction steps

/-! ### Rules -/

/-- The first character of a term of a level is none that would be taken for something else. -/
def Level.Begins (ℓ : Level) (c : Char) : Prop :=
  c ≠ '=' ∧ c ≠ ')' ∧ (c = '!' → negation.height ≤ ℓ.height) ∧ (c = '-' → sign.height ≤ ℓ.height)

instance (ℓ : Level) (c : Char) : Decidable (ℓ.Begins c) :=
  inferInstanceAs (Decidable (_ ∧ _))

theorem Level.Begins.mono {ℓ m : Level} {c : Char} (h : ℓ.Begins c) (hle : ℓ.height ≤ m.height) :
    m.Begins c :=
  ⟨h.1, h.2.1, fun hc ↦ Nat.le_trans (h.2.2.1 hc) hle, fun hc ↦ Nat.le_trans (h.2.2.2 hc) hle⟩

/-- At a level the text begins with the term. The rest is what follows it and the blanks after
it. -/
structure Reads (ℓ : Level) (text : List Char) (t : Term) (rest : List Char) : Prop where
  shorter : rest.length < text.length
  first : ∃ c more, skipBlanks text = c :: more ∧ ℓ.Begins c
  run : ∀ size steps, 9 * text.length + ℓ.height ≤ steps + 9 * rest.length →
    ∃ after, readAt ℓ size steps text = .ok (t, after) ∧ skipBlanks after = rest

/-- After a left operand the text, without the blanks in front of it, goes on with operators of a
chain and their right operands, which makes the term. -/
structure More (c : Chain) (left : Term) (text : List Char) (t : Term) (rest : List Char) :
    Prop where
  shorter : rest.length ≤ text.length
  run : ∀ size steps before, skipBlanks before = text →
    9 * text.length + 1 ≤ steps + 9 * rest.length →
    ∃ after, readMore c size steps left before = .ok (t, after) ∧ skipBlanks after = rest

theorem More.stop {c : Chain} (h : c.operator? text = none) : More c t text t text where
  shorter := Nat.le_refl _
  run := by
    rintro size (_ | n) before rfl hsteps
    · omega
    · exact ⟨skipBlanks before, by rw [readMore_succ, h], skipBlanks_skipBlanks before⟩

theorem More.step {c : Chain} {make : Term → Term → Term} {rest' : List Char}
    (hop : c.operator? text = some (make, more)) (hright : Reads c.operand more right rest)
    (hmore : More c (make left right) rest t rest') : More c left text t rest' where
  shorter := by
    have hlength := length_lt_of_operator? hop
    have hshorter := hright.shorter
    have hshorter' := hmore.shorter
    omega
  run := by
    have hlength := length_lt_of_operator? hop
    have hshorter := hright.shorter
    have hshorter' := hmore.shorter
    have hheight := c.operand.height_le
    rintro size (_ | n) before rfl hsteps
    · omega
    · obtain ⟨middle, hread, hmiddle⟩ := hright.run size n (by omega)
      obtain ⟨after, hread', hafter⟩ := hmore.run size n middle hmiddle (by omega)
      refine ⟨after, ?_, hafter⟩
      rw [readMore_succ, hop]
      simp only [hread, Except.bind, hread']

namespace Reads

variable {ℓ m : Level} {c : Chain} {rest' : List Char}

theorem intro (hshorter : rest.length < text.length)
    (hfirst : ∃ c more, skipBlanks text = c :: more ∧ ℓ.Begins c)
    (hrun : ∀ size steps, 9 * text.length + ℓ.height ≤ steps + 1 + 9 * rest.length →
      ∃ after, readAt ℓ size (steps + 1) text = .ok (t, after) ∧ skipBlanks after = rest) :
    Reads ℓ text t rest where
  shorter := hshorter
  first := hfirst
  run := by
    rintro size (_ | n) hsteps
    · omega
    · exact hrun size n hsteps

/-- A term of the loosest level, with the reader in its own name. -/
theorem run_or (h : Reads .disjunction text t rest) (size steps : Nat)
    (hsteps : 9 * text.length + 8 ≤ steps + 9 * rest.length) :
    ∃ after, readOr size steps text = .ok (t, after) ∧ skipBlanks after = rest :=
  h.run size steps hsteps

theorem first_mono (h : Reads ℓ text t rest) (hle : ℓ.height ≤ m.height) :
    ∃ c more, skipBlanks text = c :: more ∧ m.Begins c := by
  obtain ⟨c, more, hfront, hbegins⟩ := h.first
  exact ⟨c, more, hfront, hbegins.mono hle⟩

/-- Blanks may stand in front of a term. -/
theorem blanks {gap : List Char} (hgap : ∀ c ∈ gap, Text.isBlank c) (h : Reads ℓ text t rest) :
    Reads ℓ (gap ++ text) t rest where
  shorter := by
    have hshorter := h.shorter
    rw [List.length_append]
    omega
  first := by
    rw [Text.skipBlanks_append hgap]
    exact h.first
  run size steps hsteps := by
    rw [← readAt_skipBlanks, Text.skipBlanks_append hgap, readAt_skipBlanks]
    rw [List.length_append] at hsteps
    exact h.run size steps (by omega)

/-- A term begins with no equals sign, which would be taken for a part of an operator. -/
theorem ne_equals (h : Reads ℓ text t rest) (more : List Char) : text ≠ '=' :: more := by
  rintro rfl
  obtain ⟨d, front, hfront, hbegins⟩ := h.first
  rw [skipBlanks_cons (by decide)] at hfront
  exact hbegins.1 (List.cons.inj hfront).1.symm

/-! #### Operators -/

theorem chain (h : Reads c.operand text left rest) (hmore : More c left rest t rest') :
    Reads c.level text t rest' := by
  have hshorter := h.shorter
  have hshorter' := hmore.shorter
  have hheight := c.height_level
  refine intro (by omega) (h.first_mono (by omega)) fun size steps hsteps ↦ ?_
  obtain ⟨middle, hread, hmiddle⟩ := h.run size steps (by omega)
  obtain ⟨after, hread', hafter⟩ := hmore.run size steps middle hmiddle (by omega)
  refine ⟨after, ?_, hafter⟩
  rw [readAt_level, hread]
  exact hread'

theorem compare {op : Comparison} (hleft : Reads .sum text left rest)
    (hop : comparison? rest = some (op, more)) (hright : Reads .sum more right rest') :
    Reads .comparison text (.compare op left right) rest' := by
  have hshorter := hleft.shorter
  have hlength := length_lt_of_comparison? hop
  have hshorter' := hright.shorter
  refine intro (by omega) (hleft.first_mono (by decide)) fun size steps hsteps ↦ ?_
  simp only [Level.height] at hsteps
  obtain ⟨middle, hread, rfl⟩ := hleft.run size steps (by simp only [Level.height]; omega)
  obtain ⟨after, hread', hafter⟩ := hright.run size steps (by simp only [Level.height]; omega)
  refine ⟨after, ?_, hafter⟩
  show readCompare size (steps + 1) text = _
  rw [readCompare_of_some size steps hread hop]
  show (readAt .sum size steps more).map _ = _
  rw [hread']
  rfl

theorem not (h : Reads .negation text t rest) : Reads .negation ('!' :: text) (.not t) rest := by
  have hshorter := h.shorter
  have hfront : skipBlanks ('!' :: text) = '!' :: text := skipBlanks_cons (by decide)
  refine intro (by simp only [List.length_cons]; omega) ⟨_, _, hfront, by decide⟩
    fun size steps hsteps ↦ ?_
  simp only [List.length_cons, Level.height] at hsteps
  obtain ⟨after, hread, hafter⟩ := h.run size steps (by simp only [Level.height]; omega)
  refine ⟨after, ?_, hafter⟩
  show readNot size (steps + 1) ('!' :: text) = _
  rw [readNot_bang size steps h.ne_equals]
  show (readAt .negation size steps text).map _ = _
  rw [hread]
  rfl

theorem neg (h : Reads .sign text t rest) : Reads .sign ('-' :: text) (.neg t) rest := by
  have hshorter := h.shorter
  have hfront : skipBlanks ('-' :: text) = '-' :: text := skipBlanks_cons (by decide)
  refine intro (by simp only [List.length_cons]; omega) ⟨_, _, hfront, by decide⟩
    fun size steps hsteps ↦ ?_
  simp only [List.length_cons, Level.height] at hsteps
  obtain ⟨after, hread, hafter⟩ := h.run size steps (by simp only [Level.height]; omega)
  refine ⟨after, ?_, hafter⟩
  show readUnary size (steps + 1) ('-' :: text) = _
  rw [readUnary_minus]
  show (readAt .sign size steps text).map _ = _
  rw [hread]
  rfl

/-! #### Looser levels -/

/-- What is read at a level is read at the next one, if no operator of that follows. -/
theorem next (h : Reads ℓ text t rest) (hends : Ends ℓ.next rest) : Reads ℓ.next text t rest := by
  have hchain : ∀ c : Chain, Ends c.level rest → Reads c.operand text t rest →
      Reads c.level text t rest := fun c hends h ↦ h.chain (.stop hends.operator?_eq_none)
  have hshorter := h.shorter
  obtain ⟨c, more, hfront, hbegins⟩ := h.first
  cases ℓ
  case operand =>
    have hminus : c ≠ '-' := fun hc ↦ absurd (hbegins.2.2.2 hc) (by decide)
    refine intro hshorter (h.first_mono (by decide)) fun size steps hsteps ↦ ?_
    simp only [Level.next, Level.height] at hsteps
    obtain ⟨after, hread, hafter⟩ := h.run size steps (by simp only [Level.height]; omega)
    refine ⟨after, ?_, hafter⟩
    show readUnary size (steps + 1) text = _
    rw [readUnary_of_ne size steps hfront hminus, ← hfront]
    exact (readAt_skipBlanks .operand size steps text).trans hread
  case comparison =>
    have hbang : c ≠ '!' := fun hc ↦ absurd (hbegins.2.2.1 hc) (by decide)
    refine intro hshorter (h.first_mono (by decide)) fun size steps hsteps ↦ ?_
    simp only [Level.next, Level.height] at hsteps
    obtain ⟨after, hread, hafter⟩ := h.run size steps (by simp only [Level.height]; omega)
    refine ⟨after, ?_, hafter⟩
    show readNot size (steps + 1) text = _
    rw [readNot_of_ne size steps hfront hbang, ← hfront]
    exact (readAt_skipBlanks .comparison size steps text).trans hread
  case sum =>
    refine intro hshorter (h.first_mono (by decide)) fun size steps hsteps ↦ ?_
    simp only [Level.next, Level.height] at hsteps
    obtain ⟨after, hread, rfl⟩ := h.run size steps (by simp only [Level.height]; omega)
    exact ⟨skipBlanks after, readCompare_of_none size steps hread hends.comparison?_eq_none,
      skipBlanks_skipBlanks after⟩
  case sign => exact hchain .product hends h
  case product => exact hchain .sum hends h
  case negation => exact hchain .conjunction hends h
  case conjunction => exact hchain .disjunction hends h
  case disjunction => exact h

/-- What is read at a level is read at every looser one, if no operator of those levels follows. -/
theorem loosen (h : Reads ℓ text t rest) (hle : ℓ.height ≤ m.height) (hends : Ends m rest) :
    Reads m text t rest := by
  induction hgap : m.height - ℓ.height generalizing ℓ with
  | zero =>
    obtain rfl : ℓ = m := Level.height_injective (by omega)
    exact h
  | succ gap ih =>
    have hnext : ℓ.next.height = ℓ.height + 1 := Level.height_next (m := m) (by omega)
    exact ih (h.next (hends.mono (by omega))) (by omega) (by omega)

/-! #### Operands -/

theorem paren (h : Reads .disjunction text t (')' :: rest)) :
    Reads .operand ('(' :: text) t (skipBlanks rest) := by
  have hshorter := h.shorter
  have hrest := length_skipBlanks_le rest
  have hfront : skipBlanks ('(' :: text) = '(' :: text := skipBlanks_cons (by decide)
  simp only [List.length_cons] at hshorter
  refine intro (by simp only [List.length_cons]; omega) ⟨_, _, hfront, by decide⟩
    fun size steps hsteps ↦ ⟨rest, ?_, rfl⟩
  simp only [List.length_cons, Level.height] at hsteps
  obtain ⟨after, hread, hafter⟩ := h.run_or size steps (by rw [List.length_cons]; omega)
  show readPrimary size (steps + 1) ('(' :: text) = _
  rw [readPrimary, hfront]
  simp only [hread, bind, Except.bind, hafter]
  rfl

/-- An operand that is read without reading other terms. -/
theorem atom {d : Char} (hd : Text.isBlank d = false) (hbegins : Level.operand.Begins d)
    (hshorter : rest.length ≤ more.length)
    (hread : ∀ size steps, readPrimary size (steps + 1) (d :: more) = .ok (t, rest)) :
    Reads .operand (d :: more) t (skipBlanks rest) := by
  have hrest := length_skipBlanks_le rest
  exact intro (by simp only [List.length_cons]; omega) ⟨d, more, skipBlanks_cons hd, hbegins⟩
    fun size steps _ ↦ ⟨rest, hread size steps, rfl⟩

end Reads

/-- After an opening parenthesis the text goes on with one or more arguments and a closing one. -/
structure ReadsArgs (text : List Char) (args : List Term) (rest : List Char) : Prop where
  shorter : rest.length < text.length
  first : ∃ c more, skipBlanks text = c :: more ∧ c ≠ ')'
  run : ∀ size steps, 9 * text.length + 9 ≤ steps + 9 * rest.length →
    ∃ after, readArgs size steps text = .ok (args, after) ∧ skipBlanks after = rest

theorem readArgs_skipBlanks (size steps : Nat) (text : List Char) :
    readArgs size steps (skipBlanks text) = readArgs size steps text := by
  cases steps with
  | zero => rfl
  | succ n =>
    have hread : readOr size n (skipBlanks text) = readOr size n text :=
      readAt_skipBlanks .disjunction size n text
    rw [readArgs, readArgs, hread]

namespace ReadsArgs

/-- Blanks may stand in front of arguments. -/
theorem blanks {args : List Term} {gap : List Char} (hgap : ∀ c ∈ gap, Text.isBlank c)
    (h : ReadsArgs text args rest) : ReadsArgs (gap ++ text) args rest where
  shorter := by
    have hshorter := h.shorter
    rw [List.length_append]
    omega
  first := by
    rw [Text.skipBlanks_append hgap]
    exact h.first
  run size steps hsteps := by
    rw [← readArgs_skipBlanks, Text.skipBlanks_append hgap, readArgs_skipBlanks]
    rw [List.length_append] at hsteps
    exact h.run size steps (by omega)

theorem last (h : Reads .disjunction text t (')' :: rest)) :
    ReadsArgs text [t] (skipBlanks rest) := by
  have hshorter := h.shorter
  have hrest := length_skipBlanks_le rest
  simp only [List.length_cons] at hshorter
  obtain ⟨c, more, hfront, hbegins⟩ := h.first
  refine ⟨by omega, ⟨c, more, hfront, hbegins.2.1⟩, ?_⟩
  rintro size (_ | n) hsteps
  · omega
  obtain ⟨after, hread, hafter⟩ := h.run_or size n (by rw [List.length_cons]; omega)
  refine ⟨rest, ?_, rfl⟩
  simp only [readArgs, hread, bind, Except.bind, hafter]
  rfl

theorem cons {args : List Term} (h : Reads .disjunction text t (',' :: more))
    (hargs : ReadsArgs more args rest) : ReadsArgs text (t :: args) rest := by
  have hshorter := h.shorter
  have hshorter' := hargs.shorter
  simp only [List.length_cons] at hshorter
  obtain ⟨c, front, hfront, hbegins⟩ := h.first
  refine ⟨by omega, ⟨c, front, hfront, hbegins.2.1⟩, ?_⟩
  rintro size (_ | n) hsteps
  · omega
  obtain ⟨middle, hread, hmiddle⟩ := h.run_or size n (by rw [List.length_cons]; omega)
  obtain ⟨after, hread', hafter⟩ := hargs.run size n (by omega)
  refine ⟨after, ?_, hafter⟩
  simp only [readArgs, hread, bind, Except.bind, hmiddle, hread']
  rfl

end ReadsArgs

/-! ### Whole texts -/

/-- A text that is a term to its end is read as the term. -/
theorem Reads.read (h : Reads .disjunction text t []) : Term.read text = .ok t := by
  obtain ⟨after, hread, hafter⟩ := h.run_or (byteLength text) (9 * (text.length + 1))
    (by rw [List.length_nil]; omega)
  simp only [Term.read, hread, bind, Except.bind, hafter]
  rfl

end DocPath.Formula

import DocPath.Proofs.Formula.Operands

/-!
# Reading terms back

Every term that can be written is read back from its spelling, whatever the style
(`read_spell`): with the parentheses that are needed and no others, with parentheses around every
subterm, and with any choice in between.

A term is `Legible` if what is read from its bare spelling is the term. Where its outermost operator
is one of a chain, more is needed for the induction: the reader of the chain has the left operands
behind it when it comes to the last right one, and may go on with further operators of the chain. So
a legible term of a chain is one with which the reader of the chain goes on as with a left operand
(`Legible.goesOn`).
-/

namespace DocPath.Formula

open Text (skipBlanks skipBlanks_append)

variable {s : Style} {text rest after symbol : List Char} {t left right : Term} {ℓ : Level}
  {c : Chain}

/-! ### What can follow a term -/

theorem stopsAt_of_operatorAt (h : operatorAt text = some ℓ) :
    Closed text ∧ Text.StopsAt Text.isBlank text := by
  unfold operatorAt at h
  split at h
  all_goals first
    | exact ⟨Text.stopsAt_cons.2 rfl, Text.stopsAt_cons.2 rfl⟩
    | cases h

theorem Closed.blanks {gap : List Char} (hgap : ∀ d ∈ gap, Text.isBlank d) (h : Closed text) :
    Closed (gap ++ text) := by
  cases gap with
  | nil => exact h
  | cons d gap =>
    have hblank := hgap d (List.mem_cons_self ..)
    refine Text.stopsAt_cons.2 ?_
    simp only [continues, Bool.or_eq_false_iff, beq_eq_false_iff_ne]
    refine ⟨⟨eq_false_of_ne_true fun hd ↦ ?_, ?_⟩, ?_⟩
    · rw [Text.isBlank_of_isIdentifierChar hd] at hblank
      cases hblank
    · rintro rfl
      cases hblank
    · rintro rfl
      cases hblank

/-- A text can follow a term that stands at a level: it neither goes on with the last operand of the
term nor, after blanks, with an operator of the level or a tighter one. -/
structure Follows (ℓ : Level) (text : List Char) : Prop where
  closed : Closed text
  ends : Ends ℓ (skipBlanks text)

theorem Follows.mono {m : Level} (h : Follows ℓ text) (hle : m.height ≤ ℓ.height) :
    Follows m text :=
  ⟨h.closed, h.ends.mono hle⟩

theorem follows_nil (ℓ : Level) : Follows ℓ [] :=
  ⟨Text.stopsAt_nil, nofun⟩

theorem follows_paren (ℓ : Level) (rest : List Char) : Follows ℓ (')' :: rest) :=
  ⟨Text.stopsAt_cons.2 rfl, nofun⟩

theorem follows_comma (ℓ : Level) (rest : List Char) : Follows ℓ (',' :: rest) :=
  ⟨Text.stopsAt_cons.2 rfl, nofun⟩

/-- An operator with blanks around it follows operands of tighter levels. -/
theorem follows_operator {m : Level} (hsymbol : operatorAt (symbol ++ rest) = some m)
    (htighter : ℓ.height < m.height) :
    Follows ℓ (s.gap ++ (symbol ++ rest)) ∧
      skipBlanks (s.gap ++ (symbol ++ rest)) = symbol ++ rest := by
  obtain ⟨hclosed, hstops⟩ := stopsAt_of_operatorAt hsymbol
  have hfront : skipBlanks (s.gap ++ (symbol ++ rest)) = symbol ++ rest := by
    rw [skipBlanks_append s.blank, Text.skipBlanks_of_stopsAt hstops]
  refine ⟨⟨hclosed.blanks s.blank, ?_⟩, hfront⟩
  rw [hfront]
  intro k hk
  rw [hsymbol] at hk
  exact Option.some.inj hk ▸ htighter

/-! ### Legible terms -/

/-- A bare term is read as the term, and the reader of a chain goes on with a bare term of the chain
as with a left operand. -/
structure Legible (s : Style) (t : Term) : Prop where
  reads : ∀ {after : List Char}, Follows t.level after →
    Reads t.level (s.bare t ++ after) t (skipBlanks after)
  goesOn : ∀ {c : Chain} {after : List Char} {u : Term} {rest : List Char}, t.level = c.level →
    Follows c.operand after → More c t (skipBlanks after) u rest →
    Reads c.level (s.bare t ++ after) u rest

namespace Legible

/-- With parentheses where they are needed, a legible term is read at any place. -/
theorem spellAt (h : Legible s t) (hafter : Follows ℓ after) :
    Reads ℓ (s.spellAt ℓ t ++ after) t (skipBlanks after) := by
  unfold Style.spellAt Style.enclose
  split
  · have hinner := h.reads (follows_paren t.level after)
    rw [Text.skipBlanks_cons (by decide)] at hinner
    have hparen := (hinner.loosen (Level.height_le _) nofun).paren
    rw [List.cons_append, List.append_assoc, List.singleton_append]
    exact hparen.loosen (Level.height_pos _) hafter.ends
  · rename_i hbare
    have hle : t.level.height ≤ ℓ.height := by
      simp only [Style.encloses, Bool.or_eq_true, decide_eq_true_eq, not_or] at hbare
      exact Nat.le_of_not_lt hbare.2
    exact (h.reads (hafter.mono hle)).loosen hle hafter.ends

/-- The reader of a chain goes on with any legible term as with a left operand. -/
theorem spellFirst (h : Legible s t) {u : Term} (hafter : Follows c.operand after)
    (hmore : More c t (skipBlanks after) u rest) :
    Reads c.level (s.spellAt c.level t ++ after) u rest := by
  by_cases hchain : t.level = c.level ∧ s.wraps t = false
  · obtain ⟨hlevel, hwraps⟩ := hchain
    have hbare : s.spellAt c.level t = s.bare t := by
      simp [Style.spellAt, Style.enclose, Style.encloses, hlevel, hwraps]
    rw [hbare]
    exact h.goesOn hlevel hafter hmore
  · -- otherwise it stands there as it would stand as a right operand
    have hsame : s.spellAt c.level t = s.spellAt c.operand t := by
      have hencloses : s.encloses c.level t = s.encloses c.operand t := by
        have hheight := c.height_level
        have hne : s.wraps t = false → t.level.height ≠ c.level.height := fun hwraps heq ↦
          hchain ⟨Level.height_injective heq, hwraps⟩
        unfold Style.encloses
        cases hwraps : s.wraps t with
        | true => rfl
        | false =>
          have hne := hne hwraps
          simp only [Bool.false_or, decide_eq_decide]
          omega
      rw [Style.spellAt, Style.spellAt, hencloses]
    rw [hsame]
    exact (h.spellAt hafter).chain hmore

/-- The second operand of an operator, after the blanks. -/
theorem spellSecond (h : Legible s t) (hafter : Follows ℓ after) :
    Reads ℓ (s.gap ++ (s.spellAt ℓ t ++ after)) t (skipBlanks after) :=
  (h.spellAt hafter).blanks s.blank

end Legible

theorem between_append (s : Style) (left symbol right after : List Char) :
    s.between left symbol right ++ after =
      left ++ (s.gap ++ (symbol ++ (s.gap ++ (right ++ after)))) := by
  simp only [Style.between, List.append_assoc]

theorem Chain.level_injective : Function.Injective Chain.level := by
  intro a b h
  cases a <;> cases b <;> first | rfl | cases h

/-- Operands of a chain that are legible make a legible term. -/
theorem legible_chain {make : Term → Term → Term} (hlevel : (make left right).level = c.level)
    (hbare : s.bare (make left right) =
      s.between (s.spellAt c.level left) symbol (s.spellAt c.operand right))
    (hop : ∀ rest, c.operator? (symbol ++ rest) = some (make, rest))
    (hsymbol : ∀ rest, operatorAt (symbol ++ rest) = some c.level)
    (hleft : Legible s left) (hright : Legible s right) : Legible s (make left right) := by
  have hgoesOn : ∀ {after u rest}, Follows c.operand after →
      More c (make left right) (skipBlanks after) u rest →
      Reads c.level (s.bare (make left right) ++ after) u rest := by
    intro after u rest hafter hmore
    have hheight := c.height_level
    obtain ⟨hfollows, hfront⟩ := follows_operator (s := s)
      (hsymbol (s.gap ++ (s.spellAt c.operand right ++ after)))
      (show c.operand.height < c.level.height by omega)
    rw [hbare, between_append]
    refine hleft.spellFirst hfollows ?_
    rw [hfront]
    exact .step (hop _) (hright.spellSecond hafter) hmore
  constructor
  case reads =>
    intro after hafter
    rw [hlevel] at hafter ⊢
    have hheight := c.height_level
    exact hgoesOn (hafter.mono (by omega)) (.stop hafter.ends.operator?_eq_none)
  case goesOn =>
    intro d after u rest hd hafter hmore
    obtain rfl := Chain.level_injective (hlevel.symm.trans hd)
    exact hgoesOn hafter hmore

/-- A term without an operator of a chain is legible if it is read back. -/
theorem legible_of_ne (hne : ∀ c : Chain, t.level ≠ c.level)
    (hreads : ∀ {after}, Follows t.level after →
      Reads t.level (s.bare t ++ after) t (skipBlanks after)) : Legible s t where
  reads := hreads
  goesOn hlevel := absurd hlevel (hne _)

/-- A comparison is told from one that goes on with an equals sign. -/
theorem comparison?_symbol (op : Comparison) (hrest : ∀ more, rest ≠ '=' :: more) :
    comparison? (op.symbol ++ rest) = some (op, rest) := by
  cases rest with
  | nil => cases op <;> rfl
  | cons d more => cases op <;> simp [comparison?, Comparison.symbol]

theorem legible_compare (op : Comparison) (hleft : Legible s left) (hright : Legible s right) :
    Legible s (.compare op left right) := by
  refine legible_of_ne (fun c ↦ by cases c <;> nofun) fun {after} hafter ↦ ?_
  have hsecond : Reads .sum (s.gap ++ (s.spellAt .sum right ++ after)) right (skipBlanks after) :=
    hright.spellSecond (hafter.mono (show Level.sum.height ≤ Level.comparison.height by decide))
  have hsymbol : ∀ rest, operatorAt (op.symbol ++ rest) = some .comparison := by
    cases op <;> exact fun _ ↦ rfl
  obtain ⟨hfollows, hfront⟩ := follows_operator (s := s)
    (hsymbol (s.gap ++ (s.spellAt .sum right ++ after)))
    (show Level.sum.height < Level.comparison.height by decide)
  show Reads .comparison (s.between (s.spellAt .sum left) op.symbol (s.spellAt .sum right) ++
    after) _ _
  rw [between_append]
  refine (hleft.spellAt hfollows).compare ?_ hsecond
  rw [hfront]
  exact comparison?_symbol op hsecond.ne_equals

theorem legible_not (ht : Legible s t) : Legible s (.not t) :=
  legible_of_ne (fun c ↦ by cases c <;> nofun) fun hafter ↦ (ht.spellAt hafter).not

theorem legible_neg (ht : Legible s t) : Legible s (.neg t) :=
  legible_of_ne (fun c ↦ by cases c <;> nofun) fun hafter ↦ (ht.spellAt hafter).neg

theorem legible_and (hleft : Legible s left) (hright : Legible s right) :
    Legible s (.and left right) :=
  legible_chain (c := .conjunction) rfl rfl (fun _ ↦ rfl) (fun _ ↦ rfl) hleft hright

theorem legible_or (hleft : Legible s left) (hright : Legible s right) :
    Legible s (.or left right) :=
  legible_chain (c := .disjunction) rfl rfl (fun _ ↦ rfl) (fun _ ↦ rfl) hleft hright

theorem legible_arith (op : Arithmetic) (hleft : Legible s left) (hright : Legible s right) :
    Legible s (.arith op left right) := by
  have hop : ∀ rest, op.chain.operator? (op.symbol ++ rest) = some (.arith op, rest) := by
    cases op <;> exact fun _ ↦ rfl
  have hsymbol : ∀ rest, operatorAt (op.symbol ++ rest) = some op.chain.level := by
    cases op <;> exact fun _ ↦ rfl
  exact legible_chain rfl rfl hop hsymbol hleft hright

theorem legible_literal {v : Scalar} (hv : IsLiteral v) : Legible s (.literal v) :=
  legible_of_ne (fun c ↦ by cases c <;> nofun) fun hafter ↦
    reads_literal s.isQuote hv hafter.closed

theorem legible_subject {path : List Access} (hpath : ∀ a ∈ path, a.InRange) :
    Legible s (.subject path) :=
  legible_of_ne (fun c ↦ by cases c <;> nofun) fun hafter ↦
    reads_subject s.isQuote hpath hafter.closed

/-- Arguments are read up to the parenthesis after them. -/
theorem readsArgs_bareArgs {args : List Term} (hne : args ≠ []) (hargs : ∀ t ∈ args, Legible s t)
    (after : List Char) :
    ReadsArgs (s.bareArgs args ++ ')' :: after) args (skipBlanks after) := by
  induction args with
  | nil => exact absurd rfl hne
  | cons t rest ih =>
    obtain ⟨ht, hrest⟩ := List.forall_mem_cons.1 hargs
    cases rest with
    | nil =>
      have hread := ht.spellAt (follows_paren .disjunction after)
      rw [Text.skipBlanks_cons (by decide)] at hread
      exact .last hread
    | cons u rest =>
      have hread := ht.spellAt (follows_comma .disjunction
        (s.gap ++ (s.bareArgs (u :: rest) ++ ')' :: after)))
      rw [Text.skipBlanks_cons (by decide)] at hread
      have hargs : s.bareArgs (t :: u :: rest) ++ ')' :: after =
          s.spellAt .disjunction t ++
            ',' :: (s.gap ++ (s.bareArgs (u :: rest) ++ ')' :: after)) := by
        rw [Style.bareArgs, ← Style.spellAt]
        simp only [List.append_assoc, List.cons_append]
      rw [hargs]
      exact .cons hread ((ih (List.cons_ne_nil u rest) hrest).blanks s.blank)

theorem legible_call {name : String} (hname : IsFunctionName name) {args : List Term}
    (hargs : ∀ t ∈ args, Legible s t) : Legible s (.call name args) := by
  refine legible_of_ne (fun c ↦ by cases c <;> nofun) fun {after} _ ↦ ?_
  show Reads .operand (name.toList ++ '(' :: (s.bareArgs args ++ [')']) ++ after) _ _
  simp only [List.append_assoc, List.cons_append, List.nil_append]
  by_cases hnil : args = []
  · rw [hnil]
    exact reads_call_nil hname after
  · exact reads_call hname (readsArgs_bareArgs hnil hargs after)

theorem Term.Spellable.legible (h : t.Spellable) : Legible s t := by
  induction h with
  | literal hv => exact legible_literal hv
  | subject hpath => exact legible_subject hpath
  | not _ ih => exact legible_not ih
  | neg _ ih => exact legible_neg ih
  | and _ _ ihl ihr => exact legible_and ihl ihr
  | or _ _ ihl ihr => exact legible_or ihl ihr
  | compare op _ _ ihl ihr => exact legible_compare op ihl ihr
  | arith op _ _ ihl ihr => exact legible_arith op ihl ihr
  | call hname _ ih => exact legible_call hname ih

/-- A term that can be written is read back from its spelling. -/
theorem read_spell (s : Style) (h : t.Spellable) : Term.read (s.spell t) = .ok t := by
  have hread := h.legible.spellAt (s := s) (follows_nil .disjunction)
  rw [List.append_nil] at hread
  exact hread.read

/-- A negation on either side of an operator, an operator on the right of one that binds as
tightly, and a key with both a quote and a backslash in it. -/
def awkward : Term :=
  .or (.not (.compare .lt (.neg (.subject [.key "it's \\", .index (-1)])) (.literal (.bool true))))
    (.and (.not (.literal .null)) (.compare .eq
      (.arith .sub (.literal (.number (.ofNat 7))) (.arith .sub (.literal (.string "\n"))
        (.call "length" [.subject [], .not (.literal (.bool false))])))
      (.neg (.neg (.literal (.number (.ofNat 0)))))))

theorem read_spell_awkward :
    Term.read (Style.spell ⟨'\'', .inr rfl, [' '], List.forall_mem_singleton.2 rfl,
        fun _ ↦ false⟩ awkward) = .ok awkward ∧
      Term.read (Style.spell ⟨'"', .inl rfl, [], nofun, fun _ ↦ true⟩ awkward) =
        .ok awkward := by
  have hname : IsFunctionName "length" := ⟨⟨_, _, rfl, rfl⟩, List.all_eq_true.1 rfl, by decide⟩
  have hindex : Access.InRange (.index (-1)) := show Number.IsInt64 (-1) by decide
  have hpath : ∀ a ∈ [Access.key "it's \\", .index (-1)], a.InRange :=
    List.forall_mem_cons.2 ⟨trivial, List.forall_mem_singleton.2 hindex⟩
  have hargs : ∀ t ∈ [Term.subject [], .not (.literal (.bool false))], t.Spellable :=
    List.forall_mem_cons.2 ⟨.subject nofun, List.forall_mem_singleton.2 (.not (.literal trivial))⟩
  have hawkward : awkward.Spellable :=
    .or (.not (.compare .lt (.neg (.subject hpath)) (.literal trivial)))
      (.and (.not (.literal trivial)) (.compare .eq
        (.arith .sub (.literal ⟨7, by decide, rfl⟩) (.arith .sub (.literal trivial)
          (.call hname hargs)))
        (.neg (.neg (.literal ⟨0, by decide, rfl⟩)))))
  exact ⟨read_spell _ hawkward, read_spell _ hawkward⟩

end DocPath.Formula

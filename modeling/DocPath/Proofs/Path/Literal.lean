import DocPath.Proofs.Json.Write
import DocPath.Proofs.Path.WellFormed
import DocPath.Tree.Edit

/-!
# Plain and literal segments

A plain segment is a name or a position, with no formula and no depth. It is literal, and names one
key, unless its position counts from the end.
-/

namespace DocPath

namespace Path.Segment

/-- A name or a position, with no formula and no depth. -/
inductive Plain : Segment → Prop
  | key (raw name : String) : Plain ⟨raw, .key name, none, false⟩
  | index (raw : String) (i : Int) : Plain ⟨raw, .index i, none, false⟩

/-- The key that a segment names literally: it filters nothing, reaches no deeper, and its position
does not count from the end. -/
def literal? (s : Segment) : Option Key :=
  if s.recursive || s.formula.isSome then none
  else match s.selector with
    | .key name => some (.name name)
    | .index i => if 0 ≤ i then some (.index i.toNat) else none
    | _ => none

variable {s : Segment} {key : Key}

theorem Plain.recursive_eq (h : s.Plain) : s.recursive = false := by
  cases h <;> rfl

theorem Plain.formula_eq (h : s.Plain) : s.formula = none := by
  cases h <;> rfl

theorem Plain.ne_special (h : s.Plain) (operation : String) (args : List Json) :
    s.selector ≠ .special operation args := by
  cases h <;> exact fun heq ↦ by cases heq

/-- A literal segment has no formula, is not recursive, and its selector is its key. -/
theorem selector_of_literal? (h : s.literal? = some key) :
    s.recursive = false ∧ s.formula = none ∧
      s.selector = match key with
        | .name k => .key k
        | .index i => .index i := by
  unfold literal? at h
  split at h
  · cases h
  · rename_i hplain
    obtain ⟨hrec, hformula⟩ : s.recursive = false ∧ s.formula = none := by simpa using hplain
    refine ⟨hrec, hformula, ?_⟩
    split at h
    · rename_i hselector
      cases h
      exact hselector
    · rename_i i hselector
      split at h
      · cases h
        rw [hselector]
        simp only [Selector.index.injEq]
        omega
      · cases h
    · cases h

theorem plain_of_literal? (h : s.literal? = some key) : s.Plain := by
  obtain ⟨hrec, hformula, hselector⟩ := selector_of_literal? h
  obtain ⟨raw, selector, formula, recursive⟩ := s
  obtain rfl : recursive = false := hrec
  obtain rfl : formula = none := hformula
  cases key with
  | name k =>
    have hselector : selector = .key k := hselector
    rw [hselector]
    exact .key raw k
  | index i =>
    have hselector : selector = .index i := hselector
    rw [hselector]
    exact .index raw i

theorem inRange_of_literal? (h : s.literal? = some key) (hs : s.selector.WellFormed) :
    key.InRange := by
  obtain ⟨-, -, hselector⟩ := selector_of_literal? h
  rw [hselector] at hs
  cases key with
  | name k => trivial
  | index i =>
    have hlt := hs.2
    show i < 0x8000000000000000
    omega

end Path.Segment

namespace Tree

variable {s : Path.Segment} {key : Key} {n : Node}

theorem containerFor_of_literal? (h : s.literal? = some key) : containerFor s = key.container := by
  obtain ⟨-, -, hselector⟩ := Path.Segment.selector_of_literal? h
  unfold containerFor
  rw [hselector]
  cases key <;> rfl

/-- The keys that segments name literally. -/
def Literal (segments : List Path.Segment) (keys : List Key) : Prop :=
  segments.map Path.Segment.literal? = keys.map some

theorem Literal.cons {segments : List Path.Segment} {rest : List Key}
    (h : Literal (s :: segments) (key :: rest)) : s.literal? = some key ∧ Literal segments rest :=
  List.cons.inj h

theorem Literal.exists_of_mem {segments : List Path.Segment} {keys : List Key}
    (h : Literal segments keys) (hs : s ∈ segments) : ∃ key ∈ keys, s.literal? = some key := by
  have hmem : s.literal? ∈ keys.map some := h ▸ List.mem_map_of_mem hs
  obtain ⟨key, hkey, heq⟩ := List.mem_map.1 hmem
  exact ⟨key, hkey, heq.symm⟩

theorem Literal.inRange {segments : List Path.Segment} {keys : List Key} (h : Literal segments keys)
    (hs : ∀ s ∈ segments, s.selector.WellFormed) : ∀ key ∈ keys, key.InRange := by
  intro key hkey
  have hmem : some key ∈ segments.map Path.Segment.literal? := h ▸ List.mem_map_of_mem hkey
  obtain ⟨s, hmem, hliteral⟩ := List.mem_map.1 hmem
  exact Path.Segment.inRange_of_literal? hliteral (hs s hmem)

theorem intText_ofNat (i : Nat) : String.ofList (Number.intText i) = Key.indexText i := by
  rw [Number.intText, if_neg (Int.not_lt.2 (Int.natCast_nonneg i)), Int.natAbs_natCast]
  rfl

end Tree

end DocPath

import DocPath.Path.Basic
import DocPath.Proofs.Json.Distinct

/-!
# What reading a path ensures

The selectors of a path that was read are well formed: their positions are words of 64 bits, and no
object in an argument of an operation has a key twice (`wellFormed_of_parse`).
-/

namespace DocPath

namespace Path

theorem distinct_readArgument (text : List Char) : (Selector.readArgument text).Distinct := by
  unfold Selector.readArgument
  split
  · exact Json.distinct_of_read? ‹_›
  · split
    · split <;> exact Json.distinct_scalar _
    · exact Json.distinct_scalar _

/-- A position is a word of 64 bits, and the arguments have distinct keys. -/
def Selector.WellFormed : Selector → Prop
  | .index i => Number.IsInt64 i
  | .special _ args => ∀ arg ∈ args, arg.Distinct
  | _ => True

theorem isInt64_of_int64? {text : List Char} {i : Int} (h : Text.int64? text = some i) :
    Number.IsInt64 i := by
  have hchecked : ∀ read : Option Int,
      (read.bind fun n ↦ if Number.IsInt64 n then some n else none) = some i →
        Number.IsInt64 i := by
    intro read hread
    obtain ⟨n, -, hn⟩ := Option.bind_eq_some_iff.1 hread
    split at hn
    · cases hn
      assumption
    · cases hn
  unfold Text.int64? at h
  dsimp only at h
  split at h <;> exact hchecked _ h

theorem isInt64_of_scanInt {text rest : List Char} {i : Int}
    (h : Text.scanInt text = .ok (i, rest)) : Number.IsInt64 i := by
  unfold Text.scanInt at h
  dsimp only at h
  split at h
  all_goals
    split at h
    · cases h
    · split at h
      · rename_i hn
        cases h
        exact isInt64_of_int64? hn
      · cases h

theorem Selector.wellFormed_of_readRangeEnd {bracket text : List Char} {start : Int}
    {exclusive : Bool} {s : Selector} (h : readRangeEnd bracket start exclusive text = .ok s) :
    s.WellFormed := by
  unfold readRangeEnd at h
  split at h
  · cases h
  · cases h
    trivial
  · cases h

theorem Selector.wellFormed_of_readQuotedKey {bracket text : List Char} {quote : Char}
    {s : Selector} (h : readQuotedKey bracket quote text = .ok s) : s.WellFormed := by
  unfold readQuotedKey at h
  split at h
  · cases h
  · split at h
    · cases h
      trivial
    · cases h

theorem Selector.wellFormed_of_readBracket {bracket : List Char} {s : Selector}
    (h : readBracket bracket = .ok s) : s.WellFormed := by
  unfold readBracket at h
  simp only at h
  split at h
  · exact wellFormed_of_readQuotedKey h
  · exact wellFormed_of_readQuotedKey h
  · split at h
    · cases h
      trivial
    · rename_i hn
      cases h
      exact isInt64_of_scanInt hn
    · exact wellFormed_of_readRangeEnd h
    · exact wellFormed_of_readRangeEnd h
    · cases h
      trivial

theorem Selector.wellFormed_readSpecial (inner : List Char) : (readSpecial inner).WellFormed := by
  intro arg harg
  obtain ⟨text, -, rfl⟩ := List.mem_map.1 harg
  exact distinct_readArgument text

theorem Selector.wellFormed_of_readPattern {text : List Char} {s : Selector}
    (h : readPattern text = .ok s) : s.WellFormed := by
  unfold readPattern at h
  simp only [bind, Except.bind, throw, throwThe, MonadExceptOf.throw, pure, Except.pure] at h
  split at h
  · cases h
  · split at h
    · cases h
    · split at h
      · cases h
        trivial
      · cases h

theorem Selector.wellFormed_of_read {text : List Char} {s : Selector} (h : read text = .ok s) :
    s.WellFormed := by
  unfold read at h
  split at h
  · cases h
    trivial
  · cases h
    trivial
  · split at h
    · exact wellFormed_of_readBracket h
    · cases h
      trivial
  · split at h
    · cases h
      exact wellFormed_readSpecial _
    · cases h
      trivial
  · exact wellFormed_of_readPattern h
  · cases h
    trivial

theorem Segment.wellFormed_of_read {token : List Char} {recursive : Bool} {s : Segment}
    (h : Segment.read token recursive = .ok s) : s.selector.WellFormed := by
  unfold Segment.read at h
  simp only [bind, Except.bind, pure, Except.pure] at h
  split at h <;> split at h <;> cases h <;> exact Selector.wellFormed_of_read ‹_›

/-- The first segment is read from the first token, unless that is empty. -/
theorem exists_of_segmentsOf_cons {token : List Char} (hne : token ≠ [])
    {tokens : List (List Char)} {isFirst recursive : Bool} {segments : List Segment}
    (h : segmentsOf isFirst recursive (token :: tokens) = .ok segments) :
    ∃ segment rest, Segment.read token recursive = .ok segment ∧
      segmentsOf false false tokens = .ok rest ∧ segments = segment :: rest := by
  rw [segmentsOf.eq_3 _ _ _ _ hne] at h
  cases hread : Segment.read token recursive with
  | error e =>
    rw [hread] at h
    cases h
  | ok segment =>
    cases hrest : segmentsOf false false tokens with
    | error e =>
      simp only [hread, hrest, bind, Except.bind] at h
      cases h
    | ok rest =>
      simp only [hread, hrest, bind, Except.bind] at h
      cases h
      exact ⟨segment, rest, rfl, rfl, rfl⟩

theorem wellFormed_of_segmentsOf {isFirst recursive : Bool} {tokens : List (List Char)}
    {segments : List Segment} (h : segmentsOf isFirst recursive tokens = .ok segments) :
    ∀ s ∈ segments, s.selector.WellFormed := by
  induction tokens generalizing isFirst recursive segments with
  | nil =>
    cases h
    simp
  | cons token rest ih =>
    cases token with
    | nil => exact ih h
    | cons c token =>
      obtain ⟨s, segments, hread, hrest, rfl⟩ :=
        exists_of_segmentsOf_cons (List.cons_ne_nil c token) h
      exact List.forall_mem_cons.2 ⟨Segment.wellFormed_of_read hread, ih hrest⟩

/-- The segments of a path are those of its tokens. -/
theorem segmentsOf_of_parse {raw : String} {p : Path} {tokens : List (List Char)}
    (hp : Path.parse raw = .ok p) (htokens : tokenize raw = .ok tokens) :
    segmentsOf true false tokens = .ok p.segments := by
  unfold Path.parse at hp
  rw [htokens] at hp
  cases hsegments : segmentsOf true false tokens with
  | error e =>
    simp only [hsegments, bind, Except.bind] at hp
    cases hp
  | ok segments =>
    simp only [hsegments, bind, Except.bind] at hp
    cases hp
    rfl

/-- The segments of a path that a text spells are well formed. -/
theorem wellFormed_of_parse {raw : String} {p : Path} (h : Path.parse raw = .ok p) :
    ∀ s ∈ p.segments, s.selector.WellFormed := by
  cases htokens : tokenize raw with
  | error e =>
    rw [Path.parse, htokens] at h
    cases h
  | ok tokens => exact wellFormed_of_segmentsOf (segmentsOf_of_parse h htokens)

end Path

end DocPath

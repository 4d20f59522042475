import DocPath.Key
import DocPath.Text.Integer

/-!
# Reading positions back

The decimal digits of a position are read as that position wherever the library reads an integer, as
long as it fits the word that is read. In particular different positions have different digits.
-/

namespace DocPath

namespace Text

theorem digitsValue_toDigits (n : Nat) : digitsValue 0 (Nat.toDigits 10 n) = n := by
  have h := Nat.ofDigitChars_ten_toDigits (n := n)
  rwa [Nat.ofDigitChars_eq_foldl] at h

theorem isDigit_toDigits (n : Nat) : ∀ c ∈ Nat.toDigits 10 n, c.isDigit :=
  fun _ hc ↦ Nat.isDigit_of_mem_toDigits (by decide) (by decide) hc

theorem natural?_toDigits (n : Nat) : natural? (Nat.toDigits 10 n) = some n := by
  have hdigits : (Nat.toDigits 10 n).all Char.isDigit = true :=
    List.all_eq_true.2 (isDigit_toDigits n)
  simp [natural?, Nat.toDigits_ne_nil, hdigits, digitsValue_toDigits]

/-- The digits of a number begin with a digit. -/
theorem exists_toDigits_eq_cons (n : Nat) :
    ∃ c rest, Nat.toDigits 10 n = c :: rest ∧ c.isDigit := by
  cases h : Nat.toDigits 10 n with
  | nil => exact absurd h Nat.toDigits_ne_nil
  | cons c rest => exact ⟨c, rest, rfl, isDigit_toDigits n c (by simp [h])⟩

/-- An integer is written with a sign or a digit in front. -/
theorem exists_intText_eq_cons (i : Int) :
    ∃ c rest, Number.intText i = c :: rest ∧ (c = '-' ∨ c.isDigit) := by
  unfold Number.intText
  split
  · exact ⟨_, _, rfl, .inl rfl⟩
  · obtain ⟨c, rest, hcons, hc⟩ := exists_toDigits_eq_cons i.natAbs
    exact ⟨c, rest, hcons, .inr hc⟩

theorem int64?_toDigits_eq (n : Nat) :
    int64? (Nat.toDigits 10 n) = if n < 0x8000000000000000 then some (n : Int) else none := by
  obtain ⟨c, rest, hn, hc⟩ := exists_toDigits_eq_cons n
  have hnat := natural?_toDigits n
  have hrange : Number.IsInt64 n ↔ n < 0x8000000000000000 := by
    unfold Number.IsInt64
    omega
  rw [hn] at hnat ⊢
  have hminus : c ≠ '-' := by rintro rfl; exact absurd hc (by decide)
  have hplus : c ≠ '+' := by rintro rfl; exact absurd hc (by decide)
  unfold int64?
  dsimp only
  split
  · rename_i heq
    exact absurd (List.cons.inj heq).1 hminus
  · rename_i heq
    exact absurd (List.cons.inj heq).1 hplus
  · have hread : Option.map Int.ofNat (some n) = some (n : Int) := rfl
    rw [hnat, hread, Option.bind_eq_bind, Option.bind_some]
    simp only [hrange]

theorem int64?_toDigits {n : Nat} (h : n < 0x8000000000000000) :
    int64? (Nat.toDigits 10 n) = some (n : Int) := by
  rw [int64?_toDigits_eq, if_pos h]

/-- An integer of the signed range is read back from its digits. -/
theorem int64?_intText {i : Int} (h : Number.IsInt64 i) : int64? (Number.intText i) = some i := by
  obtain ⟨hlow, hhigh⟩ := h
  unfold Number.intText
  split
  · have hneg : -(i.natAbs : Int) = i := by omega
    simp only [int64?, natural?_toDigits, Option.map_some, Option.bind_eq_bind, Option.bind_some,
      Option.pure_def, hneg]
    exact if_pos ⟨hlow, hhigh⟩
  · rw [int64?_toDigits (by omega)]
    exact congrArg some (by omega)

end Text

namespace Key

/-- Different positions are written differently. -/
theorem indexText_injective : Function.Injective indexText := by
  intro a b h
  have hdigits : Nat.toDigits 10 a = Nat.toDigits 10 b := String.ofList_injective h
  rw [← Text.digitsValue_toDigits a, hdigits, Text.digitsValue_toDigits]

theorem toList_indexText (i : Nat) : (indexText i).toList = Nat.toDigits 10 i :=
  String.toList_ofList

/-- A position has no colon in front. -/
theorem normalName_indexText (i : Nat) : normalName (indexText i) = indexText i := by
  obtain ⟨c, rest, hn, hc⟩ := Text.exists_toDigits_eq_cons i
  have hcolon : c ≠ ':' := by rintro rfl; exact absurd hc (by decide)
  unfold normalName
  rw [toList_indexText, hn]
  split
  · rename_i heq
    exact absurd (List.cons.inj heq).1 hcolon
  · rfl

end Key

end DocPath

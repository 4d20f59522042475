import DocPath.Proofs.Text.Integer
import DocPath.Text.Scan

/-!
# Reading tokens back

A token in front of a text that does not go on with it is read back, and the rest of the text is
left: integers (`scanInt_intText`), identifiers (`scanIdentifier_append`), and anything whatever
between quotes, if backslashes and the quote are escaped (`scanQuoted_escapeQuoted`).
-/

namespace DocPath.Text

variable {p : Char → Bool} {word rest text gap : List Char} {c quote : Char}

/-- The text does not begin with a character of this kind. -/
def StopsAt (p : Char → Bool) (text : List Char) : Prop :=
  ∀ c ∈ text.head?, p c = false

theorem stopsAt_cons : StopsAt p (c :: rest) ↔ p c = false := by
  simp [StopsAt]

@[simp] theorem stopsAt_nil : StopsAt p [] :=
  nofun

theorem takeWhile_append (hword : ∀ c ∈ word, p c) (hrest : StopsAt p rest) :
    (word ++ rest).takeWhile p = word := by
  rw [List.takeWhile_append_of_pos hword]
  cases rest with
  | nil => simp
  | cons c rest => rw [List.takeWhile_cons_of_neg (by simp [stopsAt_cons.1 hrest]), List.append_nil]

theorem dropWhile_append (hword : ∀ c ∈ word, p c) (hrest : StopsAt p rest) :
    (word ++ rest).dropWhile p = rest := by
  rw [List.dropWhile_append_of_pos hword]
  cases rest with
  | nil => rfl
  | cons c rest => exact List.dropWhile_cons_of_neg (by simp [stopsAt_cons.1 hrest])

/-! ### Blanks -/

theorem skipBlanks_of_stopsAt (h : StopsAt isBlank text) : skipBlanks text = text := by
  have hnil : ∀ c ∈ ([] : List Char), isBlank c := nofun
  exact dropWhile_append hnil h

theorem skipBlanks_cons (h : isBlank c = false) : skipBlanks (c :: rest) = c :: rest :=
  skipBlanks_of_stopsAt (stopsAt_cons.2 h)

theorem stopsAt_skipBlanks (text : List Char) : StopsAt isBlank (skipBlanks text) := by
  intro c hc
  have h := List.head?_dropWhile_not isBlank text
  rw [skipBlanks] at hc
  rw [Option.mem_def.1 hc] at h
  simpa using h

@[simp] theorem skipBlanks_skipBlanks (text : List Char) :
    skipBlanks (skipBlanks text) = skipBlanks text :=
  skipBlanks_of_stopsAt (stopsAt_skipBlanks text)

theorem skipBlanks_append (hgap : ∀ c ∈ gap, isBlank c) (text : List Char) :
    skipBlanks (gap ++ text) = skipBlanks text :=
  List.dropWhile_append_of_pos hgap

/-- A text that begins and ends with characters that are not blank is trimmed. -/
theorem trim_eq_self_of_ends (hfirst : StopsAt isBlank text)
    (hlast : StopsAt isBlank text.reverse) : trim text = text := by
  rw [trim, skipBlanks_of_stopsAt hfirst, dropEndBlanks]
  exact (congrArg List.reverse (skipBlanks_of_stopsAt hlast)).trans text.reverse_reverse

theorem length_skipBlanks_le (text : List Char) : (skipBlanks text).length ≤ text.length :=
  (List.dropWhile_sublist _).length_le

theorem isBlank_of_isIdentifierChar (h : isIdentifierChar c) : isBlank c = false := by
  have hclass : (c == '_' || (c.isUpper || c.isLower || c.isDigit)) = true := h
  simp only [Bool.or_eq_true, beq_iff_eq] at hclass
  have hbounds : c.toNat = 95 ∨ (65 ≤ c.toNat ∧ c.toNat ≤ 122) ∨ (48 ≤ c.toNat ∧ c.toNat ≤ 57) := by
    rcases hclass with rfl | (hupper | hlower) | hdigit
    · exact .inl rfl
    · obtain ⟨hlow, hhigh⟩ : 'A'.val ≤ c.val ∧ c.val ≤ 'Z'.val := of_decide_eq_true hupper
      exact .inr (.inl ⟨hlow, Nat.le_trans hhigh (by decide)⟩)
    · obtain ⟨hlow, hhigh⟩ := Bool.and_eq_true_iff.1 hlower
      have hlow' : 'a'.val ≤ c.val := of_decide_eq_true hlow
      have hhigh' : c.val ≤ 'z'.val := of_decide_eq_true hhigh
      exact .inr (.inl ⟨Nat.le_trans (by decide) hlow', hhigh'⟩)
    · obtain ⟨hlow, hhigh⟩ := Bool.and_eq_true_iff.1 hdigit
      have hlow' : '0'.val ≤ c.val := of_decide_eq_true hlow
      have hhigh' : c.val ≤ '9'.val := of_decide_eq_true hhigh
      exact .inr (.inr ⟨hlow', hhigh'⟩)
  simp only [isBlank, Bool.or_eq_false_iff, Bool.and_eq_false_iff, decide_eq_false_iff_not,
    beq_eq_false_iff_ne]
  omega

theorem isIdentifierChar_of_isDigit (h : c.isDigit) : isIdentifierChar c := by
  show (c == '_' || (c.isAlpha || c.isDigit)) = true
  rw [h, Bool.or_true, Bool.or_true]

/-! ### Integers and identifiers -/

theorem scanInt_toDigits (n : Nat) (hrest : StopsAt Char.isDigit rest) :
    scanInt (Nat.toDigits 10 n ++ rest) =
      if n < 0x8000000000000000 then .ok (n, rest) else .error .integerOutOfRange := by
  have htake := takeWhile_append (isDigit_toDigits n) hrest
  have hdrop := dropWhile_append (isDigit_toDigits n) hrest
  have hread := int64?_toDigits_eq n
  obtain ⟨c, digits, hcons, hc⟩ := exists_toDigits_eq_cons n
  rw [hcons] at htake hdrop hread ⊢
  have hminus : c ≠ '-' := by
    rintro rfl
    exact absurd hc (by decide)
  rw [List.cons_append] at htake hdrop ⊢
  by_cases hrange : n < 0x8000000000000000 <;>
    simp [scanInt, hminus, htake, hdrop, hread, hrange]

/-- An integer of the signed range is read back. -/
theorem scanInt_intText {i : Int} (hi : Number.IsInt64 i) (hrest : StopsAt Char.isDigit rest) :
    scanInt (Number.intText i ++ rest) = .ok (i, rest) := by
  have hread := int64?_intText hi
  obtain ⟨hlow, hhigh⟩ := hi
  unfold Number.intText at hread ⊢
  split at hread
  · rename_i hneg
    rw [if_pos hneg, List.cons_append]
    have hdigits := isDigit_toDigits i.natAbs
    have hne : Nat.toDigits 10 i.natAbs ≠ [] := Nat.toDigits_ne_nil
    simp [scanInt, takeWhile_append hdigits hrest, dropWhile_append hdigits hrest, hread, hne]
  · rename_i hpos
    rw [if_neg hpos, scanInt_toDigits _ hrest, if_pos (by omega)]
    exact congrArg (fun n : Int ↦ Except.ok (n, rest)) (by omega)

/-- An identifier is read back. -/
theorem scanIdentifier_append (hword : ∀ c ∈ word, isIdentifierChar c) (hne : word ≠ [])
    (hrest : StopsAt isIdentifierChar rest) :
    scanIdentifier (word ++ rest) = .ok (String.ofList word, rest) := by
  rw [scanIdentifier, takeWhile_append hword hrest, dropWhile_append hword hrest]
  simp [hne]

/-! ### Quotes -/

/-- The two characters that begin and end a quoted text. -/
def IsQuote (c : Char) : Prop :=
  c = '"' ∨ c = '\''

instance (c : Char) : Decidable (IsQuote c) :=
  inferInstanceAs (Decidable (_ ∨ _))

/-- A text as it is written between quotes: the backslash and the quote are escaped. -/
def escapeQuoted (quote : Char) (text : List Char) : List Char :=
  text.flatMap fun c ↦ if c = '\\' ∨ c = quote then ['\\', c] else [c]

/-- A text between quotes. -/
def quoted (quote : Char) (text : List Char) : List Char :=
  quote :: (escapeQuoted quote text ++ [quote])

theorem quoted_append (quote : Char) (text rest : List Char) :
    quoted quote text ++ rest = quote :: (escapeQuoted quote text ++ quote :: rest) := by
  rw [quoted, List.cons_append, List.append_assoc, List.singleton_append]

theorem IsQuote.isBlank (h : IsQuote quote) : isBlank quote = false := by
  rcases h with rfl | rfl <;> decide

theorem IsQuote.ne_backslash (h : IsQuote quote) : quote ≠ '\\' := by
  rcases h with rfl | rfl <;> decide

theorem IsQuote.unescapeQuoted (h : IsQuote quote) : unescapeQuoted quote = [quote] := by
  rcases h with rfl | rfl <;> rfl

theorem scanQuoted_escape (quote c : Char) (rest : List Char) :
    scanQuoted quote ('\\' :: c :: rest) = (scanQuoted quote rest).map fun scanned ↦
      (unescapeQuoted c ++ scanned.1, scanned.2) := by
  rw [scanQuoted]
  cases scanQuoted quote rest <;> rfl

theorem scanQuoted_plain (hslash : c ≠ '\\') (hquote : c ≠ quote) (rest : List Char) :
    scanQuoted quote (c :: rest) = (scanQuoted quote rest).map fun scanned ↦
      (c :: scanned.1, scanned.2) := by
  rw [scanQuoted, if_neg hquote, if_neg hslash]
  · cases scanQuoted quote rest <;> rfl
  · rintro c' rest' rfl
    exact absurd rfl hslash

/-- What stands escaped between quotes is read back, whatever it is. -/
theorem scanQuoted_escapeQuoted (hquote : IsQuote quote) (text rest : List Char) :
    scanQuoted quote (escapeQuoted quote text ++ quote :: rest) = .ok (text, rest) := by
  induction text with
  | nil =>
    rw [escapeQuoted, List.flatMap_nil, List.nil_append, scanQuoted, if_pos rfl]
    rintro c rest' rfl
    exact absurd rfl hquote.ne_backslash
  | cons c text ih =>
    rw [escapeQuoted, List.flatMap_cons, List.append_assoc, ← escapeQuoted]
    by_cases hescaped : c = '\\' ∨ c = quote
    · have hself : unescapeQuoted c = [c] := by
        rcases hescaped with rfl | rfl
        · rfl
        · exact hquote.unescapeQuoted
      rw [if_pos hescaped, List.cons_append, List.cons_append, List.nil_append, scanQuoted_escape,
        ih, hself]
      rfl
    · obtain ⟨hslash, hne⟩ := not_or.1 hescaped
      rw [if_neg hescaped, List.cons_append, List.nil_append, scanQuoted_plain hslash hne, ih]
      rfl

end DocPath.Text

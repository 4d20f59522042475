import DocPath.Json.Printer
import DocPath.Json.Reader
import DocPath.Proofs.Text.Split

/-!
# Reading scalars back

The text of a scalar is one word, of letters, digits, signs and points, or one quoted string
(`quoting_scalarText`). So it has no blank at its ends, and whatever could be taken for a delimiter
in it stands between quotes.

Null, the booleans, the integers and all strings are read back from their texts (`read?_scalar`).
A string is followed through its escapes, of which there are three kinds (`Escapes`): of one letter,
of a code, and none at all. Doubles are not looked at here, since the digits of a double are not
always read back to the last bit.
-/

namespace DocPath

namespace Json

variable {c : Char} {text rest : List Char}

/-! ### Strings -/

/-- How a character is written in a string: with a letter after a backslash, with four hexadecimal
digits, or as itself. -/
inductive Escapes (c : Char) : List Char → Prop
  | letter {e : Char} (he : unescape? e = some c) : Escapes c ['\\', e]
  | code (hc : c.toNat < 0x20) :
    Escapes c ['\\', 'u', '0', '0', Nat.digitChar (c.toNat / 16), Nat.digitChar (c.toNat % 16)]
  | plain (hquote : c ≠ '"') (hslash : c ≠ '\\') (hc : 0x20 ≤ c.toNat) : Escapes c [c]

theorem replicate_append_hex {n : Nat} (hn : n < 0x20) :
    List.replicate (4 - (hex n).length) '0' ++ hex n =
      ['0', '0', Nat.digitChar (n / 16), Nat.digitChar (n % 16)] := by
  revert n
  decide

theorem codeUnit?_digitChar {n : Nat} (hn : n < 0x20) :
    codeUnit? '0' '0' (Nat.digitChar (n / 16)) (Nat.digitChar (n % 16)) = some n := by
  revert n
  decide

theorem digitChar_ne {n : Nat} (hn : n < 16) : Nat.digitChar n ≠ '\\' ∧ Nat.digitChar n ≠ '"' := by
  revert n
  decide

theorem escapes_escape (c : Char) : Escapes c (escape c) := by
  unfold escape
  split
  · exact .letter rfl
  · exact .letter rfl
  · exact .letter rfl
  · exact .letter rfl
  · exact .letter rfl
  · exact .letter rfl
  · exact .letter rfl
  · rename_i hquote hslash _ _ _ _ _
    split
    · rename_i hc
      dsimp only
      rw [replicate_append_hex hc]
      exact .code hc
    · rename_i hc
      exact .plain hquote hslash (Nat.le_of_not_lt hc)

/-- What is written for a character is read as that character. -/
theorem Escapes.scanString_append (h : Escapes c text) (rest : List Char) :
    scanString (text ++ rest) = (scanString rest).map fun scanned ↦
      (c :: scanned.1, scanned.2) := by
  cases h with
  | @letter e he =>
    have hu : e ≠ 'u' := by
      rintro rfl
      cases he
    rw [List.cons_append, List.singleton_append, scanString.eq_4 _ _ fun _ _ _ _ _ h _ ↦ hu h, he]
    cases scanString rest <;> rfl
  | code hc =>
    have hsurrogate : c.toNat < 0xD800 ∨ 0xDFFF < c.toNat := .inl (Nat.lt_trans hc (by decide))
    simp only [List.cons_append, List.nil_append, scanString, codeUnit?_digitChar hc]
    simp only [Option.bind_eq_bind, Option.bind_some, if_pos hsurrogate, Char.ofNat_toNat]
    cases scanString rest <;> rfl
  | plain hquote hslash hc =>
    have hplain : (c == '\\' || decide (c.toNat < 0x20)) = false := by
      simp [hslash, hc]
    rw [List.singleton_append, scanString.eq_5 _ _ hquote fun _ _ _ _ _ h _ ↦ hslash h]
    · rw [hplain]
      cases scanString rest <;> rfl
    · exact fun _ _ h _ ↦ hslash h

/-- What is written for a character does not end the string. -/
theorem Escapes.shielded_append (h : Escapes c text) (hrest : Text.Shielded '"' rest) :
    Text.Shielded '"' (text ++ rest) := by
  cases h with
  | letter he => exact .escaped _ hrest
  | code hc =>
    obtain ⟨hslash, hquote⟩ := digitChar_ne (n := c.toNat / 16) (by omega)
    obtain ⟨hslash', hquote'⟩ := digitChar_ne (n := c.toNat % 16) (by omega)
    exact .escaped _ (.char (by decide) (by decide) (.char (by decide) (by decide)
      (.char hslash hquote (.char hslash' hquote' hrest))))
  | plain hquote hslash hc => exact .char hslash hquote hrest

theorem scanString_quote (s rest : List Char) :
    scanString (s.flatMap escape ++ '"' :: rest) = some (s, rest) := by
  induction s with
  | nil => rfl
  | cons c s ih =>
    rw [List.flatMap_cons, List.append_assoc, (escapes_escape c).scanString_append, ih]
    rfl

theorem shielded_flatMap_escape (s : List Char) : Text.Shielded '"' (s.flatMap escape) := by
  induction s with
  | nil => exact .nil
  | cons c s ih =>
    rw [List.flatMap_cons]
    exact (escapes_escape c).shielded_append ih

/-! ### Numbers -/

/-- The characters of null, of the booleans and of numbers. -/
def isWordChar (c : Char) : Bool :=
  Text.isIdentifierChar c || c == '-' || c == '+' || c == '.'

theorem ne_of_isWordChar {d : Char} (hc : isWordChar c) (hd : isWordChar d = false) : c ≠ d := by
  rintro rfl
  rw [hc] at hd
  cases hd

theorem isWordChar_of_isDigit (h : c.isDigit) : isWordChar c := by
  simp [isWordChar, Text.isIdentifierChar_of_isDigit h]

theorem isBlank_of_isWordChar (h : isWordChar c) : Text.isBlank c = false := by
  simp only [isWordChar, Bool.or_eq_true, beq_iff_eq] at h
  rcases h with ((h | rfl) | rfl) | rfl
  · exact Text.isBlank_of_isIdentifierChar h
  · rfl
  · rfl
  · rfl

theorem isWordChar_toDigits (n : Nat) : ∀ c ∈ Nat.toDigits 10 n, isWordChar c :=
  fun c hc ↦ isWordChar_of_isDigit (Text.isDigit_toDigits n c hc)

theorem isWordChar_intText (n : Int) : ∀ c ∈ Number.intText n, isWordChar c := by
  unfold Number.intText
  split
  · exact List.forall_mem_cons.2 ⟨rfl, isWordChar_toDigits _⟩
  · exact isWordChar_toDigits _

section Double

open List (forall_mem_append forall_mem_cons)

variable {digits : List Char}

theorem isWordChar_positional (h : ∀ c ∈ digits, isWordChar c) (leading : Int) :
    ∀ c ∈ Double.positional digits leading, isWordChar c := by
  have hzeros : ∀ n, ∀ c ∈ List.replicate n '0', isWordChar c :=
    fun n c hc ↦ (List.eq_of_mem_replicate hc) ▸ rfl
  unfold Double.positional
  dsimp only
  split
  · exact forall_mem_cons.2 ⟨rfl, forall_mem_cons.2 ⟨rfl, forall_mem_append.2 ⟨hzeros _, h⟩⟩⟩
  · split
    · exact forall_mem_append.2 ⟨forall_mem_append.2 ⟨h, hzeros _⟩, List.all_eq_true.1 rfl⟩
    · exact forall_mem_append.2 ⟨fun c hc ↦ h c (List.mem_of_mem_take hc),
        forall_mem_cons.2 ⟨rfl, fun c hc ↦ h c (List.mem_of_mem_drop hc)⟩⟩

theorem isWordChar_scientific (h : ∀ c ∈ digits, isWordChar c) (leading : Int) :
    ∀ c ∈ Double.scientific digits leading, isWordChar c := by
  have hexponent := isWordChar_toDigits leading.natAbs
  have hsign : isWordChar (if leading < 0 then '-' else '+') := by
    split <;> rfl
  unfold Double.scientific
  refine forall_mem_append.2 ⟨?_, forall_mem_cons.2 ⟨rfl, forall_mem_cons.2 ⟨hsign, hexponent⟩⟩⟩
  split
  · obtain ⟨hfirst, hrest⟩ := forall_mem_cons.1 h
    exact forall_mem_cons.2 ⟨hfirst, forall_mem_cons.2 ⟨rfl, hrest⟩⟩
  · exact h

theorem isWordChar_text (d : Double) : ∀ c ∈ d.text.toList, isWordChar c := by
  have hmagnitude : ∀ c ∈ d.magnitudeText, isWordChar c := by
    unfold Double.magnitudeText
    split
    · exact List.all_eq_true.1 rfl
    · dsimp only
      split
      · exact isWordChar_positional (isWordChar_toDigits _) _
      · exact isWordChar_scientific (isWordChar_toDigits _) _
  rw [Double.text, String.toList_ofList]
  split
  · exact forall_mem_cons.2 ⟨rfl, hmagnitude⟩
  · exact hmagnitude

theorem positional_ne_nil (digits : List Char) (leading : Int) :
    Double.positional digits leading ≠ [] := by
  unfold Double.positional
  dsimp only
  split
  · exact List.cons_ne_nil _ _
  · split <;> simp

theorem text_ne_nil (d : Double) : d.text.toList ≠ [] := by
  have hmagnitude : d.magnitudeText ≠ [] := by
    unfold Double.magnitudeText
    split
    · exact List.cons_ne_nil _ _
    · dsimp only
      split
      · exact positional_ne_nil _ _
      · simp [Double.scientific]
  rw [Double.text, String.toList_ofList]
  split
  · exact List.cons_ne_nil _ _
  · exact hmagnitude

end Double

theorem scalarText_number (n : Number) : scalarText (.number n) = n.text :=
  rfl

theorem scalarText_string (s : String) : scalarText (.string s) = quote s :=
  rfl

/-- The text of a scalar is one word or one quoted string. -/
theorem quoting_scalarText (s : Scalar) : Text.Quoting (isWordChar ·) (scalarText s) := by
  cases s with
  | null => exact .of_forall (List.all_eq_true.1 rfl)
  | bool b => cases b <;> exact .of_forall (List.all_eq_true.1 rfl)
  | number n =>
    cases n with
    | integer n _ => exact .of_forall (isWordChar_intText n)
    | double d => exact .of_forall (isWordChar_text d)
  | string s => exact .quoted (.inl rfl) (shielded_flatMap_escape s.toList) .nil

theorem scalarText_ne_nil (s : Scalar) : scalarText s ≠ [] := by
  cases s with
  | null => exact List.cons_ne_nil _ _
  | bool b => cases b <;> exact List.cons_ne_nil _ _
  | number n =>
    cases n with
    | integer n _ =>
      rw [scalarText_number, Number.text, Number.intText]
      split
      · exact List.cons_ne_nil _ _
      · exact Nat.toDigits_ne_nil
    | double d => exact text_ne_nil d
  | string s => exact List.cons_ne_nil _ _

end Json

/-! ### Integers -/

namespace Numeral

/-- Only zero is written with a zero in front. -/
theorem head?_toDigits_ne (n : Nat) (hn : 0 < n) : (Nat.toDigits 10 n).head? ≠ some '0' := by
  have hdigit : ∀ d < 10, 0 < d → [Nat.digitChar d].head? ≠ some '0' := by decide
  induction n using Nat.strongRecOn with
  | ind n ih =>
    by_cases hsmall : n < 10
    · rw [Nat.toDigits_of_lt_base hsmall]
      exact hdigit n hsmall hn
    · have hhead := ih (n / 10) (by omega) (by omega)
      rw [Nat.toDigits_of_base_le (by decide) (Nat.le_of_not_lt hsmall)]
      obtain ⟨c, rest, hcons, -⟩ := Text.exists_toDigits_eq_cons (n / 10)
      rwa [hcons] at hhead ⊢

/-- The digits of a number are a whole numeral. -/
theorem leadingZero_toDigits (n : Nat) :
    ((Nat.toDigits 10 n).head? == some '0' && (Nat.toDigits 10 n).length != 1) = false := by
  rcases Nat.eq_zero_or_pos n with rfl | hn
  · rfl
  · simp [head?_toDigits_ne n hn]

/-- The numeral of an integer. -/
def ofInt (n : Int) : Numeral :=
  ⟨n < 0, Nat.toDigits 10 n.natAbs, none, none⟩

theorem scan_intText (n : Int) : scan (Number.intText n) = some (ofInt n, []) := by
  have htake : (Nat.toDigits 10 n.natAbs).takeWhile Char.isDigit = Nat.toDigits 10 n.natAbs := by
    have h := Text.takeWhile_append (Text.isDigit_toDigits n.natAbs) Text.stopsAt_nil
    rwa [List.append_nil] at h
  have hdrop : (Nat.toDigits 10 n.natAbs).dropWhile Char.isDigit = [] := by
    have h := Text.dropWhile_append (Text.isDigit_toDigits n.natAbs) Text.stopsAt_nil
    rwa [List.append_nil] at h
  have hempty : (Nat.toDigits 10 n.natAbs).isEmpty = false := by
    simp [Nat.toDigits_ne_nil]
  have hzero := leadingZero_toDigits n.natAbs
  unfold Number.intText
  split
  · rename_i hneg
    simp [scan, htake, hdrop, hempty, hzero, scanFraction, scanExponent, ofInt, hneg]
  · rename_i hneg
    obtain ⟨c, rest, hcons, hc⟩ := Text.exists_toDigits_eq_cons n.natAbs
    have hminus : c ≠ '-' := by
      rintro rfl
      cases hc
    rw [hcons] at htake hdrop hempty hzero ⊢
    have hlone : c = '0' → rest = [] := by simpa using hzero
    simpa [scan, hminus, htake, hdrop, scanFraction, scanExponent, ofInt, hneg, hcons] using hlone

theorem le_digitsValue (start : Nat) (digits : List Char) : start ≤ digitsValue start digits := by
  induction digits generalizing start with
  | nil => exact Nat.le_refl start
  | cons c rest ih => exact Nat.le_trans (by omega) (ih (10 * start + (c.toNat - '0'.toNat)))

/-- Digits whose number fits are all absorbed. -/
theorem absorb_of_le {start : Nat} {digits : List Char}
    (h : digitsValue start digits ≤ maxSignificand) :
    absorb start digits = (digitsValue start digits, digits.length) := by
  induction digits generalizing start with
  | nil => rfl
  | cons c rest ih =>
    have hnext : 10 * start + (c.toNat - '0'.toNat) ≤ maxSignificand :=
      Nat.le_trans (le_digitsValue _ rest) h
    simp only [absorb, if_pos hnext, ih h, List.length_cons]
    rfl

/-- An integer that a document can hold is the value of its numeral. -/
theorem value_ofInt {n : Int} (hn : Number.InRange n) : (ofInt n).value = some (.ofInt n) := by
  obtain ⟨hlow, hhigh⟩ := hn
  have habsorb : absorb 0 (Nat.toDigits 10 n.natAbs) =
      (n.natAbs, (Nat.toDigits 10 n.natAbs).length) := by
    have hvalue := Text.digitsValue_toDigits n.natAbs
    rw [absorb_of_le, hvalue]
    rw [hvalue, maxSignificand]
    omega
  simp only [value, ofInt, habsorb, Int.sub_self, ne_eq, not_true_eq_false, if_false]
  by_cases hneg : n < 0
  · have hrange : ¬ (n.natAbs = 0 ∨ 0x8000000000000000 < n.natAbs) := by omega
    have hsign : -(n.natAbs : Int) = n := by omega
    rw [if_pos (decide_eq_true hneg), if_neg hrange, hsign]
  · have hsign : (n.natAbs : Int) = n := by omega
    rw [if_neg (by simpa using hneg), hsign]

end Numeral

namespace Json

variable {text : List Char}

/-! ### Values -/

/-- A text that begins like a number is read as one. -/
theorem scanValue_numeral {c : Char} (hc : c = '-' ∨ c.isDigit) (steps depth : Nat)
    (rest : List Char) :
    scanValue (steps + 1) depth (c :: rest) = (Numeral.scan (c :: rest)).bind fun scanned ↦
      scanned.1.value.map fun n ↦ (number n, scanned.2) := by
  have hne : ∀ d : Char, d ≠ '-' → d.isDigit = false → c ≠ d := by
    rintro d hminus hdigit rfl
    rcases hc with rfl | hc
    · exact hminus rfl
    · rw [hdigit] at hc
      cases hc
  have hblank : isBlank c = false := by
    simp [isBlank, hne ' ' (by decide) rfl, hne '\n' (by decide) rfl, hne '\t' (by decide) rfl,
      hne '\r' (by decide) rfl]
  rw [scanValue.eq_2, skipBlanks, List.dropWhile_cons_of_neg (by simp [hblank])]
  split
  case h_1 heq => cases heq
  case h_8 =>
    cases hscan : Numeral.scan (c :: rest) with
    | none => rfl
    | some scanned => cases hvalue : scanned.1.value <;> simp [hvalue]
  all_goals
    rename_i heq
    exact absurd (List.cons.inj heq).1 (hne _ (by decide) rfl)

theorem read?_of_scanValue {v : Json}
    (h : ∀ steps, scanValue (steps + 1) maxDepth text = some (v, [])) :
    read? (String.ofList text) = some v := by
  rw [read?, String.toList_ofList]
  simp only [h, Option.bind_eq_bind, Option.bind_some]
  rfl

theorem read?_of_numeral {c : Char} {rest : List Char} {numeral : Numeral} {n : Number}
    (hc : c = '-' ∨ c.isDigit) (hscan : Numeral.scan (c :: rest) = some (numeral, []))
    (hvalue : numeral.value = some n) : read? (String.ofList (c :: rest)) = some (number n) := by
  refine read?_of_scanValue fun steps ↦ ?_
  rw [scanValue_numeral hc, hscan, Option.bind_some, hvalue]
  rfl

/-- Every scalar that is not a double is read back. -/
theorem read?_scalar {s : Scalar} (hs : ∀ d, s ≠ .number (.double d)) :
    read? (compact (scalar s)) = some (scalar s) := by
  rw [compact, chars]
  cases s with
  | null =>
    refine read?_of_scanValue fun steps ↦ ?_
    rw [scanValue.eq_2]
    rfl
  | bool b =>
    refine read?_of_scanValue fun steps ↦ ?_
    rw [scanValue.eq_2]
    cases b <;> rfl
  | number n =>
    cases n with
    | integer n hn =>
      have hscan := Numeral.scan_intText n
      have hvalue : (Numeral.ofInt n).value = some (.integer n hn) :=
        (Numeral.value_ofInt hn).trans (congrArg some (dif_pos hn))
      obtain ⟨c, rest, hcons, hc⟩ := Text.exists_intText_eq_cons n
      rw [scalarText_number, Number.text]
      rw [hcons] at hscan ⊢
      exact read?_of_numeral hc hscan hvalue
    | double d => exact absurd rfl (hs d)
  | string s =>
    have hscan := scanString_quote s.toList []
    have hquote : skipBlanks (scalarText (.string s)) = scalarText (.string s) := rfl
    refine read?_of_scanValue fun steps ↦ ?_
    rw [scanValue.eq_2, hquote]
    simp only [scalarText_string, quote, hscan, Option.bind_eq_bind, Option.bind_some,
      String.ofList_toList]
    rfl

end Json

end DocPath

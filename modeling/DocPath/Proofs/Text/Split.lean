import DocPath.Proofs.Text.Scan
import DocPath.Text.Split

/-!
# Splitting what was joined

Texts that are joined with a delimiter are split at it again (`split_intercalate`), if the quotes in
each of them are balanced and the delimiter stands in them only between quotes.

What a quoted text looks like is said by a grammar and not through the splitter: `Shielded` is what
can stand between two quotes, `Quoting` a text of plain characters and quoted strings, and
`Unsplit` such a text whose plain characters are not the delimiter. The splitter passes over one of
these as a whole (`pieces_append`), whatever comes after it.
-/

namespace DocPath.Text

/-! ### Quoted texts -/

/-- What can stand between two quotes: a backslash protects the character after it, and no other
quote of the same kind stands there. -/
inductive Shielded (quote : Char) : List Char → Prop
  | nil : Shielded quote []
  | char {c : Char} {rest : List Char} (hslash : c ≠ '\\') (hquote : c ≠ quote)
    (hrest : Shielded quote rest) : Shielded quote (c :: rest)
  | escaped (c : Char) {rest : List Char} (hrest : Shielded quote rest) :
    Shielded quote ('\\' :: c :: rest)

/-- A text of plain characters and quoted strings. -/
inductive Quoting (plain : Char → Prop) : List Char → Prop
  | nil : Quoting plain []
  | char {c : Char} {rest : List Char} (hc : plain c) (hrest : Quoting plain rest) :
    Quoting plain (c :: rest)
  | quoted {quote : Char} {inside rest : List Char} (hquote : IsQuote quote)
    (hinside : Shielded quote inside) (hrest : Quoting plain rest) :
    Quoting plain (quote :: (inside ++ quote :: rest))

/-- A text whose quotes are balanced, with the delimiter only between quotes. -/
def Unsplit (delimiter : Char) (text : List Char) : Prop :=
  Quoting (fun c ↦ ¬ IsQuote c ∧ c ≠ delimiter) text

variable {p q : Char → Prop} {text inside rest : List Char} {c quote delimiter : Char}
  {texts : List (List Char)}

theorem Shielded.append (h : Shielded quote text) (hrest : Shielded quote rest) :
    Shielded quote (text ++ rest) := by
  induction h with
  | nil => exact hrest
  | char hslash hquote _ ih => exact .char hslash hquote ih
  | escaped c _ ih => exact .escaped c ih

theorem Quoting.mono (h : Quoting p text) (hpq : ∀ c, p c → q c) : Quoting q text := by
  induction h with
  | nil => exact .nil
  | char hc _ ih => exact .char (hpq _ hc) ih
  | quoted hquote hinside _ ih => exact .quoted hquote hinside ih

theorem Quoting.of_forall (h : ∀ c ∈ text, p c) : Quoting p text := by
  induction text with
  | nil => exact .nil
  | cons c rest ih =>
    obtain ⟨hc, hrest⟩ := List.forall_mem_cons.1 h
    exact .char hc (ih hrest)

theorem Quoting.append (h : Quoting p text) (hrest : Quoting p rest) : Quoting p (text ++ rest) := by
  induction h with
  | nil => exact hrest
  | char hc _ ih => exact .char hc ih
  | quoted hquote hinside _ ih =>
    rw [List.cons_append, List.append_assoc, List.cons_append]
    exact .quoted hquote hinside ih

theorem Quoting.intercalate (hdelimiter : p delimiter) (h : ∀ text ∈ texts, Quoting p text) :
    Quoting p ([delimiter].intercalate texts) := by
  induction texts with
  | nil => exact .nil
  | cons text more ih =>
    obtain ⟨htext, hmore⟩ := List.forall_mem_cons.1 h
    cases more with
    | nil =>
      rw [List.intercalate_singleton]
      exact htext
    | cons next more =>
      rw [List.intercalate_cons_cons, List.append_assoc]
      exact htext.append (.char hdelimiter (ih hmore))

/-! ### Blanks at the ends -/

theorem StopsAt.append {kind : Char → Bool} (h : StopsAt kind text) (hrest : StopsAt kind rest) :
    StopsAt kind (text ++ rest) := by
  cases text with
  | nil => exact hrest
  | cons c text => exact h

theorem not_all_isBlank (h : StopsAt isBlank text) (hne : text ≠ []) : ¬ text.all isBlank := by
  obtain ⟨c, rest, rfl⟩ := List.exists_cons_of_ne_nil hne
  simp [stopsAt_cons.1 h]

theorem Quoting.stopsAt_isBlank (h : Quoting p text) (hp : ∀ c, p c → isBlank c = false) :
    StopsAt isBlank text := by
  cases h with
  | nil => exact stopsAt_nil
  | char hc _ => exact stopsAt_cons.2 (hp _ hc)
  | quoted hquote _ _ => exact stopsAt_cons.2 hquote.isBlank

theorem Quoting.stopsAt_isBlank_reverse (h : Quoting p text) (hp : ∀ c, p c → isBlank c = false) :
    StopsAt isBlank text.reverse := by
  induction h with
  | nil => exact stopsAt_nil
  | char hc _ ih =>
    rw [List.reverse_cons]
    exact ih.append (stopsAt_cons.2 (hp _ hc))
  | quoted hquote _ _ ih =>
    rw [List.reverse_cons, List.reverse_append, List.reverse_cons, List.append_assoc,
      List.append_assoc]
    exact ih.append (stopsAt_cons.2 hquote.isBlank)

/-- Without blanks outside quotes there is nothing to trim. -/
theorem Quoting.trim_eq_self (h : Quoting p text) (hp : ∀ c, p c → isBlank c = false) :
    trim text = text :=
  trim_eq_self_of_ends (h.stopsAt_isBlank hp) (h.stopsAt_isBlank_reverse hp)

/-! ### Pieces -/

/-- Puts a text in front of the first piece. -/
def appendPiece (text : List Char) (pieces : List (List Char)) : List (List Char) :=
  text.foldr consPiece pieces

theorem appendPiece_cons (text first : List Char) (more : List (List Char)) :
    appendPiece text (first :: more) = (text ++ first) :: more := by
  induction text with
  | nil => rfl
  | cons c text ih => exact congrArg (consPiece c) ih

theorem appendPiece_append (a b : List Char) (pieces : List (List Char)) :
    appendPiece (a ++ b) pieces = appendPiece a (appendPiece b pieces) :=
  List.foldr_append

section

variable {delimiters : List Delimiter}

theorem pieces_quote (hquote : IsQuote c) (rest : List Char) :
    pieces delimiters none 0 (c :: rest) = consPiece c (pieces delimiters (some c) 0 rest) := by
  rw [pieces]
  exact if_pos hquote

theorem pieces_plain (hquote : ¬ IsQuote c) (rest : List Char) :
    pieces delimiters none 0 (c :: rest) =
      match delimiterLength? delimiters (c :: rest) with
      | some length => [] :: pieces delimiters none (length - 1) rest
      | none => consPiece c (pieces delimiters none 0 rest) := by
  rw [pieces]
  exact if_neg hquote

theorem pieces_inside (hslash : c ≠ '\\') (quote : Char) (rest : List Char) :
    pieces delimiters (some quote) 0 (c :: rest) =
      consPiece c (pieces delimiters (if c = quote then none else some quote) 0 rest) := by
  cases rest with
  | nil => simp [pieces, hslash]
  | cons d rest => rw [pieces, if_neg hslash]

theorem pieces_escaped (quote c : Char) (rest : List Char) :
    pieces delimiters (some quote) 0 ('\\' :: c :: rest) =
      appendPiece ['\\', c] (pieces delimiters (some quote) 0 rest) := by
  rw [pieces, if_pos rfl]
  rfl

/-- A quoted string is passed over up to the quote that closes it. -/
theorem pieces_shielded (hinside : Shielded quote inside) (hquote : quote ≠ '\\')
    (rest : List Char) :
    pieces delimiters (some quote) 0 (inside ++ quote :: rest) =
      appendPiece (inside ++ [quote]) (pieces delimiters none 0 rest) := by
  induction hinside with
  | nil =>
    rw [List.nil_append, pieces_inside hquote, if_pos rfl]
    rfl
  | char hslash hne _ ih =>
    rw [List.cons_append, pieces_inside hslash, if_neg hne, ih]
    rfl
  | escaped c _ ih =>
    rw [List.cons_append, List.cons_append, pieces_escaped, ih]
    rfl

/-- A text of plain characters and quoted strings goes to the first piece, if no delimiter begins
with a plain character. -/
theorem pieces_append (h : Quoting p text)
    (hplain : ∀ c, p c → ¬ IsQuote c ∧ ∀ rest, delimiterLength? delimiters (c :: rest) = none)
    (rest : List Char) :
    pieces delimiters none 0 (text ++ rest) =
      appendPiece text (pieces delimiters none 0 rest) := by
  induction h with
  | nil => rfl
  | char hc _ ih =>
    obtain ⟨hquote, hnone⟩ := hplain _ hc
    rw [List.cons_append, pieces_plain hquote, hnone, ih]
    rfl
  | @quoted quote inside text hquote hinside _ ih =>
    have hassoc : inside ++ quote :: text = inside ++ [quote] ++ text := by simp
    rw [List.cons_append, List.append_assoc, List.cons_append, pieces_quote hquote,
      pieces_shielded hinside hquote.ne_backslash, ih, ← appendPiece_append, ← hassoc]
    rfl

end

/-! ### A delimiter of one character -/

theorem delimiterLength?_singleton (delimiter c : Char) (rest : List Char) :
    delimiterLength? [.literal (String.singleton delimiter)] (c :: rest) =
      if delimiter = c then some 1 else none := by
  by_cases hc : delimiter = c <;>
    simp [delimiterLength?, Delimiter.length?, List.isPrefixOf, hc]

theorem pieces_delimiter (hquote : ¬ IsQuote delimiter) (rest : List Char) :
    pieces [.literal (String.singleton delimiter)] none 0 (delimiter :: rest) =
      [] :: pieces [.literal (String.singleton delimiter)] none 0 rest := by
  rw [pieces_plain hquote, delimiterLength?_singleton, if_pos rfl]

theorem Unsplit.pieces_append (h : Unsplit delimiter text) (rest : List Char) :
    pieces [.literal (String.singleton delimiter)] none 0 (text ++ rest) =
      appendPiece text (pieces [.literal (String.singleton delimiter)] none 0 rest) := by
  refine Text.pieces_append h (fun c hc ↦ ⟨hc.1, fun rest ↦ ?_⟩) rest
  rw [delimiterLength?_singleton, if_neg hc.2.symm]

/-- The pieces of joined texts are these texts. -/
theorem pieces_intercalate (hquote : ¬ IsQuote delimiter) (hne : texts ≠ [])
    (htexts : ∀ text ∈ texts, Unsplit delimiter text) :
    pieces [.literal (String.singleton delimiter)] none 0 ([delimiter].intercalate texts) =
      texts := by
  induction texts with
  | nil => exact absurd rfl hne
  | cons text more ih =>
    obtain ⟨htext, hmore⟩ := List.forall_mem_cons.1 htexts
    cases more with
    | nil =>
      have hlast := htext.pieces_append []
      rw [List.append_nil, pieces, appendPiece_cons, List.append_nil] at hlast
      rwa [List.intercalate_singleton]
    | cons next more =>
      rw [List.intercalate_cons_cons, List.append_assoc, htext.pieces_append, List.singleton_append,
        pieces_delimiter hquote, ih (List.cons_ne_nil _ _) hmore, appendPiece_cons,
        List.append_nil]

/-- Joined texts are split into these texts, without the blanks at their ends. -/
theorem split_joined (hquote : ¬ IsQuote delimiter) (hne : texts ≠ [])
    (htexts : ∀ text ∈ texts, Unsplit delimiter text)
    (hblank : ¬ ([delimiter].intercalate texts).all isBlank) :
    split [.literal (String.singleton delimiter)] ([delimiter].intercalate texts) =
      texts.map trim := by
  rw [split, if_neg hblank, pieces_intercalate hquote hne htexts]

/-- Splitting undoes joining: trimmed texts with balanced quotes, in which the delimiter stands only
between quotes, are the pieces of the text that they are joined to, unless that is blank. -/
theorem split_intercalate (hquote : ¬ IsQuote delimiter) (hne : texts ≠ [])
    (htexts : ∀ text ∈ texts, Unsplit delimiter text) (htrim : ∀ text ∈ texts, trim text = text)
    (hblank : ¬ ([delimiter].intercalate texts).all isBlank) :
    split [.literal (String.singleton delimiter)] ([delimiter].intercalate texts) = texts :=
  (split_joined hquote hne htexts hblank).trans
    ((List.map_congr_left htrim).trans texts.map_id')

/-- Empty pieces at both ends, the delimiter between quotes, an escaped quote, and a quote between
quotes of the other kind. -/
theorem split_intercalate_quoted :
    Unsplit ',' ['"', ',', '\\', '"', '"'] ∧ Unsplit ',' ['a', '\'', '"', ',', '\''] ∧
      split [.literal (String.singleton ',')]
          [',', '"', ',', '\\', '"', '"', ',', 'a', '\'', '"', ',', '\'', ','] =
        [[], ['"', ',', '\\', '"', '"'], ['a', '\'', '"', ',', '\''], []] := by
  have hdouble : Unsplit ',' ['"', ',', '\\', '"', '"'] :=
    @Quoting.quoted _ '"' [',', '\\', '"'] [] (.inl rfl)
      (.char (by decide) (by decide) (.escaped '"' .nil)) .nil
  have hsingle : Unsplit ',' ['a', '\'', '"', ',', '\''] :=
    .char ⟨by decide, by decide⟩ (@Quoting.quoted _ '\'' ['"', ','] [] (.inr rfl)
      (.char (by decide) (by decide) (.char (by decide) (by decide) .nil)) .nil)
  have htexts : ∀ text ∈ [[], ['"', ',', '\\', '"', '"'], ['a', '\'', '"', ',', '\''], []],
      Unsplit ',' text := by
    simpa using ⟨Quoting.nil, hdouble, hsingle, Quoting.nil⟩
  exact ⟨hdouble, hsingle, split_intercalate (by decide) (by decide) htexts (by decide) (by decide)⟩

end DocPath.Text

import DocPath.Proofs.Formula.Spelling

/-!
# Reading operands

Each kind of operand is read back from its spelling, if what follows is `Closed`, that is, does not
go on with the operand: quoted strings, integers, words for literals, the subject with its accesses
(`reads_subject`), and calls with whatever arguments are read (`reads_call`).
-/

namespace DocPath.Formula

open Text (skipBlanks skipBlanks_cons length_skipBlanks_le isIdentifierChar StopsAt stopsAt_cons)

variable {text rest after : List Char} {c quote : Char}

/-- A character that would go on with an operand in front of it. -/
def continues (c : Char) : Bool :=
  isIdentifierChar c || c == '.' || c == '['

/-- The text does not go on with an operand in front of it. -/
def Closed (text : List Char) : Prop :=
  StopsAt continues text

theorem Closed.identifier (h : Closed rest) : StopsAt isIdentifierChar rest := fun c hc ↦ by
  have hclosed := h c hc
  simp only [continues, Bool.or_eq_false_iff] at hclosed
  exact hclosed.1.1

theorem Closed.digit (h : Closed rest) : StopsAt Char.isDigit rest := fun c hc ↦ by
  refine eq_false_of_ne_true fun hdigit ↦ ?_
  have hidentifier := Text.isIdentifierChar_of_isDigit hdigit
  rw [h.identifier c hc] at hidentifier
  cases hidentifier

theorem Closed.ne_dot (h : Closed rest) (more : List Char) : rest ≠ '.' :: more := by
  rintro rfl
  exact absurd (stopsAt_cons.1 h) (by decide)

theorem Closed.ne_bracket (h : Closed rest) (more : List Char) : rest ≠ '[' :: more := by
  rintro rfl
  exact absurd (stopsAt_cons.1 h) (by decide)

/-! ### Literals -/

theorem reads_quoted (hquote : Text.IsQuote quote) (text rest : List Char) :
    Reads .operand (Text.quoted quote text ++ rest) (.literal (.string (String.ofList text)))
      (skipBlanks rest) := by
  have hscan := Text.scanQuoted_escapeQuoted hquote text rest
  have hbegins : Level.operand.Begins quote := by rcases hquote with rfl | rfl <;> decide
  rw [Text.quoted_append]
  refine .atom hquote.isBlank hbegins ?_ fun size steps ↦ ?_
  · rw [List.length_append, List.length_cons]
    omega
  · rw [readPrimary, skipBlanks_cons hquote.isBlank]
    rcases hquote with rfl | rfl
    · simp only [hscan, bind, Except.bind]
      rfl
    · simp only [hscan, bind, Except.bind]
      rfl

/-- A call after its opening parenthesis. -/
def readCall (size steps : Nat) (name : String) :
    List Char → Except SyntaxError (Term × List Char)
  | ')' :: rest => .ok (.call name [], rest)
  | text => (readArgs size steps text).map fun args ↦ (.call name args.1, args.2)

theorem readCall_of_ne {name : String} (hne : ∀ rest, text ≠ ')' :: rest) (size steps : Nat) :
    readCall size steps name text =
      (readArgs size steps text).map fun args ↦ (Term.call name args.1, args.2) := by
  rw [readCall]
  exact hne

/-- What begins with a letter, an underscore or a digit is none of the other operands. -/
theorem readPrimary_identifierChar (hc : isIdentifierChar c) (size steps : Nat)
    (text : List Char) :
    readPrimary size (steps + 1) (c :: text) =
      if c.isDigit then (scanNumber (c :: text)).map fun scanned ↦
        (Term.literal scanned.1, scanned.2)
      else (Text.scanIdentifier (c :: text)).bind fun scanned ↦
        match keyword? scanned.1 with
        | some value => .ok (.literal value, scanned.2)
        | none => (expect size '(' (skipBlanks scanned.2)).bind fun rest ↦
          readCall size steps scanned.1 (skipBlanks rest) := by
  have hne : ∀ d, isIdentifierChar d = false → c ≠ d := by
    rintro d hd rfl
    rw [hc] at hd
    cases hd
  rw [readPrimary, skipBlanks_cons (Text.isBlank_of_isIdentifierChar hc)]
  split
  · rename_i heq
    exact absurd (List.cons.inj heq).1 (hne '(' rfl)
  · rename_i heq
    exact absurd (List.cons.inj heq).1 (hne '"' rfl)
  · rename_i heq
    exact absurd (List.cons.inj heq).1 (hne '\'' rfl)
  · rename_i heq
    exact absurd (List.cons.inj heq).1 (hne '$' rfl)
  · rename_i heq
    obtain ⟨rfl, rfl⟩ := List.cons.inj heq
    by_cases hdigit : c.isDigit
    · rw [if_pos hdigit, if_pos hdigit]
      cases scanNumber (c :: text) <;> rfl
    · rw [if_neg hdigit, if_neg hdigit, if_pos hc]
      rcases Text.scanIdentifier (c :: text) with _ | ⟨name, rest⟩
      · rfl
      simp only [bind, Except.bind]
      cases keyword? name with
      | some value => rfl
      | none =>
        dsimp only
        cases expect size '(' (skipBlanks rest) with
        | error e => rfl
        | ok rest =>
          dsimp only
          generalize skipBlanks rest = front
          split
          · rfl
          · rename_i hparen
            rw [readCall_of_ne hparen]
            cases readArgs size steps front <;> rfl
  · rename_i heq
    cases heq

/-- The digits of a number that fits are read as the number. -/
theorem reads_number {n : Nat} (hn : n < 0x8000000000000000) (hrest : Closed rest) :
    Reads .operand (Nat.toDigits 10 n ++ rest) (.literal (.number (.ofInt n)))
      (skipBlanks rest) := by
  have hdigits := Text.isDigit_toDigits n
  have hwhole := Text.takeWhile_append hdigits hrest.digit
  have htail := Text.dropWhile_append hdigits hrest.digit
  have hscan : scanNumber (Nat.toDigits 10 n ++ rest) = .ok (.number (.ofInt n), rest) := by
    unfold scanNumber
    rw [hwhole, htail]
    dsimp only
    split
    · exact absurd rfl (hrest.ne_dot _)
    · exact absurd rfl (hrest.ne_dot _)
    · rw [scanNumber.integer, Text.int64?_toDigits hn]
  obtain ⟨c, digits, hcons, hc⟩ := Text.exists_toDigits_eq_cons n
  rw [hcons, List.cons_append] at hscan ⊢
  have hidentifier := Text.isIdentifierChar_of_isDigit hc
  have hbegins : Level.operand.Begins c := by
    refine ⟨?_, ?_, ?_, ?_⟩ <;> rintro rfl <;> cases hc
  refine .atom (Text.isBlank_of_isIdentifierChar hidentifier) hbegins ?_ fun size steps ↦ ?_
  · rw [List.length_append]
    omega
  · rw [readPrimary_identifierChar hidentifier, if_pos hc, hscan]
    rfl

/-- The first character of a name. -/
structure Initial (c : Char) : Prop where
  identifier : isIdentifierChar c
  not_digit : c.isDigit = false

theorem Initial.isBlank (h : Initial c) : Text.isBlank c = false :=
  Text.isBlank_of_isIdentifierChar h.identifier

theorem Initial.begins (h : Initial c) : Level.operand.Begins c := by
  have hc := h.identifier
  refine ⟨?_, ?_, ?_, ?_⟩ <;> rintro rfl <;> cases hc

theorem reads_word {word : List Char} {value : Scalar} (hc : Initial c)
    (hword : ∀ d ∈ c :: word, isIdentifierChar d)
    (hkeyword : keyword? (String.ofList (c :: word)) = some value) (hrest : Closed rest) :
    Reads .operand (c :: word ++ rest) (.literal value) (skipBlanks rest) := by
  have hscan := Text.scanIdentifier_append hword (List.cons_ne_nil c word) hrest.identifier
  rw [List.cons_append] at hscan ⊢
  refine .atom hc.isBlank hc.begins ?_ fun size steps ↦ ?_
  · rw [List.length_append]
    omega
  · rw [readPrimary_identifierChar hc.identifier, if_neg (by simp [hc.not_digit]), hscan]
    simp only [Except.bind, hkeyword]

/-- A literal is read back. -/
theorem reads_literal (hquote : Text.IsQuote quote) {v : Scalar} (hv : IsLiteral v)
    (hrest : Closed rest) :
    Reads .operand (spellLiteral quote v ++ rest) (.literal v) (skipBlanks rest) := by
  cases v with
  | null => exact reads_word ⟨rfl, rfl⟩ (List.all_eq_true.1 rfl) rfl hrest
  | bool b => cases b <;> exact reads_word ⟨rfl, rfl⟩ (List.all_eq_true.1 rfl) rfl hrest
  | number n =>
    obtain ⟨k, hk, hn⟩ := hv
    have hrange : Number.InRange k := by
      unfold Number.InRange
      omega
    have htext : n.text = Nat.toDigits 10 k := by
      rw [hn, Number.ofInt, dif_pos hrange, Number.text, Number.intText,
        if_neg (Int.not_lt.2 (Int.natCast_nonneg k)), Int.natAbs_natCast]
    rw [spellLiteral, htext]
    rw [hn]
    exact reads_number hk hrest
  | string s =>
    have hread := reads_quoted hquote s.toList rest
    rwa [String.ofList_toList] at hread

/-! ### The subject -/

theorem scanBracket_quoted (hquote : Text.IsQuote quote) (name rest : List Char) :
    scanBracket (skipBlanks (Text.quoted quote name ++ rest)) =
      .ok (.key (String.ofList name), rest) := by
  have hscan := Text.scanQuoted_escapeQuoted hquote name rest
  rw [Text.quoted_append, skipBlanks_cons hquote.isBlank]
  rcases hquote with rfl | rfl <;> simp only [scanBracket, hscan, bind, Except.bind] <;> rfl

theorem scanBracket_intText {i : Int} (hi : Number.IsInt64 i) (hrest : StopsAt Char.isDigit rest) :
    scanBracket (skipBlanks (Number.intText i ++ rest)) = .ok (.index i, rest) := by
  have hscan := Text.scanInt_intText hi hrest
  obtain ⟨c, digits, hcons, hc⟩ := Text.exists_intText_eq_cons i
  have hblank : Text.isBlank c = false := by
    rcases hc with rfl | hc
    · rfl
    · exact Text.isBlank_of_isIdentifierChar (Text.isIdentifierChar_of_isDigit hc)
  rw [hcons, List.cons_append] at hscan ⊢
  rw [skipBlanks_cons hblank]
  unfold scanBracket
  split
  · rename_i heq
    rw [(List.cons.inj heq).1] at hc
    exact absurd hc (by decide)
  · rename_i heq
    rw [(List.cons.inj heq).1] at hc
    exact absurd hc (by decide)
  · rw [hscan]
    rfl

/-- The inside of a bracket is read back. -/
theorem scanBracket_inside (hquote : Text.IsQuote quote) {a : Access} (ha : a.InRange)
    (rest : List Char) :
    scanBracket (skipBlanks (a.inside quote ++ ']' :: rest)) = .ok (a, ']' :: rest) := by
  cases a with
  | key name =>
    have hread := scanBracket_quoted hquote name.toList (']' :: rest)
    rwa [String.ofList_toList] at hread
  | index i => exact scanBracket_intText ha (stopsAt_cons.2 rfl)

theorem scanAccesses_closed (size : Nat) (hrest : Closed rest) (steps : Nat) :
    scanAccesses size steps rest = .ok ([], rest) := by
  cases steps with
  | zero => rfl
  | succ n =>
    unfold scanAccesses
    split
    · exact absurd rfl (hrest.ne_dot _)
    · exact absurd rfl (hrest.ne_bracket _)
    · rfl

/-- Accesses are read back, one step for each. -/
theorem scanAccesses_spell (hquote : Text.IsQuote quote) (size : Nat) (hrest : Closed rest)
    {path : List Access} (hpath : ∀ a ∈ path, a.InRange) (steps : Nat)
    (hsteps : path.length ≤ steps) :
    scanAccesses size steps (path.flatMap (Access.spell quote) ++ rest) = .ok (path, rest) := by
  induction path generalizing steps with
  | nil => exact scanAccesses_closed size hrest steps
  | cons a path ih =>
    obtain ⟨ha, hpath'⟩ := List.forall_mem_cons.1 hpath
    rw [List.length_cons] at hsteps
    obtain ⟨n, rfl⟩ : ∃ n, steps = n + 1 := ⟨steps - 1, by omega⟩
    have hread := ih hpath' n (by omega)
    have hbracket := scanBracket_inside hquote ha (path.flatMap (Access.spell quote) ++ rest)
    have htext : (a :: path).flatMap (Access.spell quote) ++ rest =
        '[' :: (a.inside quote ++ ']' :: (path.flatMap (Access.spell quote) ++ rest)) := by
      simp [Access.spell]
    rw [htext]
    simp only [scanAccesses, hbracket, bind, Except.bind, skipBlanks_cons (c := ']') rfl, expect,
      if_true, hread]
    rfl

theorem length_le_length_spell (quote : Char) (path : List Access) :
    path.length ≤ (path.flatMap (Access.spell quote)).length := by
  induction path with
  | nil => exact Nat.le_refl _
  | cons a path ih =>
    simp only [List.flatMap_cons, List.length_append, List.length_cons, Access.spell]
    omega

/-- The subject is read back with its accesses. -/
theorem reads_subject (hquote : Text.IsQuote quote) {path : List Access}
    (hpath : ∀ a ∈ path, a.InRange) (hrest : Closed rest) :
    Reads .operand ('$' :: (path.flatMap (Access.spell quote) ++ rest)) (.subject path)
      (skipBlanks rest) := by
  have hlength := length_le_length_spell quote path
  have hscan : ∀ size, scanSubject size (path.flatMap (Access.spell quote) ++ rest) =
      .ok (.subject path, rest) := by
    intro size
    have hread := scanAccesses_spell hquote size hrest hpath
      (path.flatMap (Access.spell quote) ++ rest).length (by rw [List.length_append]; omega)
    cases path with
    | nil =>
      cases rest with
      | nil => rfl
      | cons c rest =>
        have hc : isIdentifierChar c = false := stopsAt_cons.1 hrest.identifier
        rw [List.flatMap_nil, List.nil_append] at hread ⊢
        simp only [scanSubject, hc, hread, bind, Except.bind]
        rfl
    | cons a path =>
      rw [List.flatMap_cons, Access.spell, List.cons_append, List.cons_append] at hread ⊢
      have hc : isIdentifierChar '[' = false := rfl
      simp only [scanSubject, hc, hread, bind, Except.bind]
      rfl
  refine .atom (by decide) (by decide) ?_ fun size steps ↦ ?_
  · rw [List.length_append]
    omega
  · rw [readPrimary, skipBlanks_cons (by decide)]
    exact hscan size

/-! ### Calls -/

theorem keyword?_eq_none {name : String} (h : name ∉ ["true", "false", "null", "nil"]) :
    keyword? name = none := by
  unfold keyword?
  split <;> first
    | rfl
    | exact absurd (by decide) h

theorem readPrimary_call {name : String} (hname : IsFunctionName name) (size steps : Nat)
    (text : List Char) :
    readPrimary size (steps + 1) (name.toList ++ '(' :: text) =
      readCall size steps name (skipBlanks text) := by
  obtain ⟨c, word, hcons, hdigit⟩ := hname.first
  have hword := hname.identifier
  rw [hcons] at hword
  have hstop : StopsAt isIdentifierChar ('(' :: text) := stopsAt_cons.2 rfl
  have hscan := Text.scanIdentifier_append hword (List.cons_ne_nil c word) hstop
  rw [← hcons, String.ofList_toList, hcons, List.cons_append] at hscan
  have hparen : skipBlanks ('(' :: text) = '(' :: text := skipBlanks_cons (by decide)
  rw [hcons, List.cons_append, readPrimary_identifierChar (hword c (List.mem_cons_self ..)),
    if_neg (by simp [hdigit]), hscan]
  simp only [Except.bind, keyword?_eq_none hname.not_literal, hparen, expect, if_true]

theorem IsFunctionName.exists_initial {name : String} (h : IsFunctionName name) :
    ∃ c word, name.toList = c :: word ∧ Initial c := by
  obtain ⟨c, word, hcons, hdigit⟩ := h.first
  exact ⟨c, word, hcons, h.identifier c (hcons ▸ List.mem_cons_self ..), hdigit⟩

theorem reads_call_nil {name : String} (hname : IsFunctionName name) (rest : List Char) :
    Reads .operand (name.toList ++ '(' :: ')' :: rest) (.call name []) (skipBlanks rest) := by
  have hread := fun size steps ↦ readPrimary_call hname size steps (')' :: rest)
  obtain ⟨c, word, hcons, hc⟩ := hname.exists_initial
  rw [hcons, List.cons_append] at hread ⊢
  refine .atom hc.isBlank hc.begins ?_ fun size steps ↦ ?_
  · simp only [List.length_append, List.length_cons]
    omega
  · rw [hread, skipBlanks_cons (by decide)]
    rfl

/-- A call is read with the arguments that are read after its parenthesis. -/
theorem reads_call {name : String} (hname : IsFunctionName name) {args : List Term}
    (hargs : ReadsArgs text args rest) :
    Reads .operand (name.toList ++ '(' :: text) (.call name args) rest := by
  have hshorter := hargs.shorter
  obtain ⟨c, word, hcons, hc⟩ := hname.exists_initial
  have hlength : (name.toList ++ '(' :: text).length = word.length + text.length + 2 := by
    simp only [hcons, List.length_append, List.length_cons]
    omega
  have hfront : skipBlanks (name.toList ++ '(' :: text) = c :: (word ++ '(' :: text) := by
    rw [hcons, List.cons_append, skipBlanks_cons hc.isBlank]
  refine .intro (by omega) ⟨_, _, hfront, hc.begins⟩ fun size steps hsteps ↦ ?_
  rw [hlength] at hsteps
  simp only [Level.height] at hsteps
  obtain ⟨after, hread, hafter⟩ := hargs.run size steps (by omega)
  refine ⟨after, ?_, hafter⟩
  show readPrimary size (steps + 1) (name.toList ++ '(' :: text) = _
  obtain ⟨d, more, hmore, hd⟩ := hargs.first
  have hne : ∀ rest, skipBlanks text ≠ ')' :: rest := fun rest heq ↦
    hd (List.cons.inj (hmore.symm.trans heq)).1
  rw [readPrimary_call hname, readCall_of_ne hne, readArgs_skipBlanks, hread]
  rfl

end DocPath.Formula

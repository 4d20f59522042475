import DocPath.Proofs.Path.Group
import DocPath.Proofs.Text.Split

/-!
# Brackets that belong together

The reader that cuts a path into tokens keeps the brackets that are open, so it knows of every
bracket that it closes where this one was opened. `pairedTokens` is this reader with a note of these
positions, and `map_fst_pairedFrom` says that it is no other reader.

Another reader finds the group at the end of a token and only counts brackets. On every token of a
path it finds a group exactly where the last character closes a parenthesis for the first reader,
and it finds the parenthesis that belongs to it (`trailingGroup?_paired`).

Both readers are followed through a token together (`InStep`), along with the text behind them, in
which brackets are balanced up to those that are open (`Nest`). What balanced means is said by a
grammar (`Balanced`) and not through a reader.
-/

namespace DocPath.Path

open Text (Shielded)

/-! ### Notes -/

/-- What is noted about the brackets of a token: where those stand that are open, the innermost
first, and the positions of those that are closed, each with that of the one that closes it. -/
structure Notes where
  opens : List Nat
  pairs : List (Nat × Nat)

namespace Notes

def start : Notes :=
  ⟨[], []⟩

/-- The notes after a character, by what it does to the brackets that the reader keeps. One more was
opened by the character, and if there is one less, it closes the innermost one. -/
def step (position : Nat) (mode mode' : Mode) (notes : Notes) : Notes :=
  if mode.closers.length < mode'.closers.length then
    { notes with opens := position :: notes.opens }
  else if mode'.closers.length < mode.closers.length then
    match notes.opens with
    | opened :: outer => ⟨outer, (opened, position) :: notes.pairs⟩
    | [] => notes
  else notes

/-- The notes after a text in which no token ends. -/
def run : Nat → Mode → Notes → List Char → Notes
  | _, _, notes, [] => notes
  | position, mode, notes, '\\' :: _ :: rest => run (position + 2) mode notes rest
  | position, mode, notes, c :: rest =>
    if c = '\\' then run (position + 1) mode notes rest
    else match mode.step (position == 0) c with
      | some mode' => run (position + 1) mode' (notes.step position mode mode') rest
      | none => notes

end Notes

/-- Adds characters to the first token. -/
def extendPaired (chars : List Char) :
    List (List Char × List (Nat × Nat)) → List (List Char × List (Nat × Nat))
  | [] => [(chars, [])]
  | (token, pairs) :: rest => (chars ++ token, pairs) :: rest

/-- The tokens of what is left of a path, each with the positions of the brackets in it that belong
together. The position is that in the current token. -/
def pairedFrom (path : String) (mode : Mode) (position : Nat) (notes : Notes) :
    List Char → Except SyntaxError (List (List Char × List (Nat × Nat)))
  | [] =>
    match mode.leftOpen? path with
    | some e => .error e
    | none => .ok [([], notes.pairs)]
  | '\\' :: c :: rest =>
    (pairedFrom path mode (position + 2) notes rest).map (extendPaired ['\\', c])
  | c :: rest =>
    if c = '\\' then (pairedFrom path mode (position + 1) notes rest).map (extendPaired [c])
    else if c = '.' ∧ mode = .plain [] then
      (pairedFrom path mode 0 .start rest).map (([], notes.pairs) :: ·)
    else match mode.step (position == 0) c with
      | some mode' =>
        (pairedFrom path mode' (position + 1) (notes.step position mode mode') rest).map
          (extendPaired [c])
      | none => .error (.unbalanced c path)

/-- The tokens of a path, each with the positions of the brackets in it that belong together. -/
def pairedTokens (path : String) : Except SyntaxError (List (List Char × List (Nat × Nat))) :=
  pairedFrom path (.plain []) 0 .start path.toList

section

variable {path : String} {mode mode' : Mode} {atStart : Bool} {c : Char} {position : Nat}
  {notes : Notes} {text rest : List Char} {tokens : List (List Char × List (Nat × Nat))}

theorem map_fst_extendPaired (chars : List Char) (tokens : List (List Char × List (Nat × Nat))) :
    (extendPaired chars tokens).map Prod.fst = extend chars (tokens.map Prod.fst) := by
  cases tokens <;> rfl

theorem pairedFrom_char (hc : c ≠ '\\') (path : String) (mode : Mode) (position : Nat)
    (notes : Notes) (rest : List Char) :
    pairedFrom path mode position notes (c :: rest) =
      if c = '.' ∧ mode = .plain [] then
        (pairedFrom path mode 0 .start rest).map (([], notes.pairs) :: ·)
      else match mode.step (position == 0) c with
        | some mode' =>
          (pairedFrom path mode' (position + 1) (notes.step position mode mode') rest).map
            (extendPaired [c])
        | none => .error (.unbalanced c path) := by
  rw [pairedFrom.eq_3]
  · rw [if_neg hc]
  · rintro d rest' rfl -
    exact hc rfl

theorem Notes.run_char (hc : c ≠ '\\') (hstep : mode.step (position == 0) c = some mode')
    (notes : Notes) (rest : List Char) :
    notes.run position mode (c :: rest) =
      (notes.step position mode mode').run (position + 1) mode' rest := by
  rw [Notes.run.eq_3]
  · rw [if_neg hc, hstep]
  · rintro d rest' rfl -
    exact hc rfl

theorem map_map_fst_extendPaired {read : Except SyntaxError (List (List Char × List (Nat × Nat)))}
    {read' : Except SyntaxError (List (List Char))} (h : read.map (List.map Prod.fst) = read')
    (chars : List Char) :
    (read.map (extendPaired chars)).map (List.map Prod.fst) = read'.map (extend chars) := by
  subst h
  cases read with
  | error e => rfl
  | ok tokens => exact congrArg Except.ok (map_fst_extendPaired chars tokens)

/-- Notes change nothing about the tokens. -/
theorem map_fst_pairedFrom (path : String) (mode : Mode) (position : Nat) (notes : Notes)
    (text : List Char) :
    (pairedFrom path mode position notes text).map (List.map Prod.fst) =
      tokensFrom path mode (position == 0) text := by
  have hend : ∀ mode position notes atStart,
      (pairedFrom path mode position notes []).map (List.map Prod.fst) =
        tokensFrom path mode atStart [] := by
    intro mode position notes atStart
    rw [pairedFrom, tokensFrom]
    cases mode.leftOpen? path <;> rfl
  induction text using textInduction generalizing mode position notes with
  | nil => exact hend mode position notes _
  | unpaired => exact map_map_fst_extendPaired (hend mode (position + 1) notes false) ['\\']
  | escaped d rest ih => exact map_map_fst_extendPaired (ih mode (position + 2) notes) ['\\', d]
  | char c rest hc ih =>
    rw [pairedFrom_char hc, tokensFrom_char hc]
    split
    · rw [← show (pairedFrom path mode 0 .start rest).map (List.map Prod.fst) =
        tokensFrom path mode true rest from ih mode 0 .start]
      cases pairedFrom path mode 0 .start rest <;> rfl
    · cases mode.step (position == 0) c with
      | none => rfl
      | some mode' => exact map_map_fst_extendPaired (ih mode' (position + 1) _) [c]

/-- The pairs of every token but the first are those that are noted when it is read on its own. -/
theorem pairs_of_pairedFrom (h : pairedFrom path mode position notes text = .ok tokens) :
    ∃ first more, tokens = (first, (notes.run position mode first).pairs) :: more ∧
      ∀ token pairs, (token, pairs) ∈ more →
        pairs = (Notes.start.run 0 (.plain []) token).pairs := by
  induction text using textInduction generalizing mode position notes tokens with
  | nil =>
    rw [pairedFrom] at h
    split at h
    · cases h
    · cases h
      exact ⟨[], [], rfl, fun _ _ hmem ↦ nomatch hmem⟩
  | unpaired =>
    obtain ⟨tokens, hrest, rfl⟩ := exists_of_map_eq_ok h
    rw [pairedFrom] at hrest
    split at hrest
    · cases hrest
    · cases hrest
      exact ⟨['\\'], [], rfl, fun _ _ hmem ↦ nomatch hmem⟩
  | escaped d rest ih =>
    obtain ⟨tokens, hrest, rfl⟩ := exists_of_map_eq_ok h
    obtain ⟨first, more, rfl, hmore⟩ := ih hrest
    exact ⟨'\\' :: d :: first, more, rfl, hmore⟩
  | char c rest hc ih =>
    rw [pairedFrom_char hc] at h
    split at h
    · rename_i hdot
      obtain ⟨-, rfl⟩ := hdot
      obtain ⟨tokens, hrest, rfl⟩ := exists_of_map_eq_ok h
      obtain ⟨first, more, rfl, hmore⟩ := ih hrest
      refine ⟨[], _ :: more, rfl, fun token pairs hmem ↦ ?_⟩
      obtain hfirst | hmem := List.mem_cons.1 hmem
      · cases hfirst
        rfl
      · exact hmore token pairs hmem
    · split at h
      · rename_i mode' hstep
        obtain ⟨tokens, hrest, rfl⟩ := exists_of_map_eq_ok h
        obtain ⟨first, more, rfl, hmore⟩ := ih hrest
        refine ⟨c :: first, more, ?_, hmore⟩
        rw [Notes.run_char hc hstep]
        rfl
      · cases h

/-! ### Balanced brackets -/

/-- A text that closes the brackets that it opens and no others. Inside brackets strings hide what
stands in them, and outside a quote is a character like any other. -/
inductive Balanced : Bool → List Char → Prop
  | nil {inside : Bool} : Balanced inside []
  | escaped {inside : Bool} (c : Char) {rest : List Char} (hrest : Balanced inside rest) :
    Balanced inside ('\\' :: c :: rest)
  | char {inside : Bool} {c : Char} {rest : List Char} (hback : c ≠ '\\')
    (hopens : closer? c = none) (hcloses : isCloser c = false)
    (hquote : inside → isQuote c = false) (hrest : Balanced inside rest) :
    Balanced inside (c :: rest)
  | quoted {quote : Char} {string rest : List Char} (hquote : isQuote quote)
    (hstring : Shielded quote string) (hrest : Balanced true rest) :
    Balanced true (quote :: (string ++ quote :: rest))
  | bracket {inside : Bool} {opener closer : Char} {inner rest : List Char}
    (hcloser : closer? opener = some closer) (hinner : Balanced true inner)
    (hrest : Balanced inside rest) : Balanced inside (opener :: (inner ++ closer :: rest))

/-- A balanced text outside brackets, behind a pattern if it begins with one. -/
inductive BalancedBody : List Char → Prop
  | plain {text : List Char} (h : Balanced false text) : BalancedBody text
  | pattern {pattern text : List Char} (hpattern : Shielded '/' pattern)
    (h : Balanced false text) : BalancedBody ('/' :: (pattern ++ '/' :: text))

/-- A text with brackets that are still to be closed, which stand at the positions given, the
innermost first. -/
inductive Nest : List Char → List Nat → List Char → Prop
  | body {text : List Char} (h : BalancedBody text) : Nest [] [] text
  | bracket {opener closer : Char} {closers before inner : List Char} {opens : List Nat}
    (hbefore : Nest closers opens before) (hcloser : closer? opener = some closer)
    (hinner : Balanced true inner) :
    Nest (closer :: closers) (before.length :: opens) (before ++ opener :: inner)

/-- The texts after which the reader of a path may be in a mode, with the brackets that are open. -/
inductive Mode.After : Mode → List Nat → List Char → Prop
  | plain {closers text : List Char} {opens : List Nat} (h : Nest closers opens text) :
    After (.plain closers) opens text
  | pattern {text : List Char} (h : Shielded '/' text) : After .pattern [] ('/' :: text)
  | quoted {quote : Char} {closers before string : List Char} {opens : List Nat}
    (hbefore : Nest closers opens before) (hclosers : closers ≠ []) (hquote : isQuote quote)
    (hstring : Shielded quote string) :
    After (.quoted quote closers) opens (before ++ quote :: string)

section

variable {a b string : List Char} {inside : Bool} {quote closer opener : Char}
  {closers : List Char} {opens : List Nat} {opened : Nat}

theorem Balanced.append (ha : Balanced inside a) (hb : Balanced inside b) :
    Balanced inside (a ++ b) := by
  induction ha with
  | nil => exact hb
  | escaped c _ ih => exact .escaped c (ih hb)
  | char hback hopens hcloses hquote _ ih => exact .char hback hopens hcloses hquote (ih hb)
  | quoted hquote hstring _ ih =>
    rw [List.cons_append, List.append_assoc, List.cons_append]
    exact .quoted hquote hstring (ih hb)
  | bracket hcloser hinner _ _ ih =>
    rw [List.cons_append, List.append_assoc, List.cons_append]
    exact .bracket hcloser hinner (ih hb)

theorem BalancedBody.append (ha : BalancedBody a) (hb : Balanced false b) :
    BalancedBody (a ++ b) := by
  cases ha with
  | plain ha => exact .plain (ha.append hb)
  | pattern hpattern ha =>
    rw [List.cons_append, List.append_assoc, List.cons_append]
    exact .pattern hpattern (ha.append hb)

namespace Nest

/-- What is balanced opens and closes nothing. -/
theorem append (h : Nest closers opens a) (hb : Balanced (!closers.isEmpty) b) :
    Nest closers opens (a ++ b) := by
  cases h with
  | body h => exact .body (h.append hb)
  | bracket hbefore hcloser hinner =>
    rw [List.append_assoc, List.cons_append]
    exact .bracket hbefore hcloser (hinner.append hb)

theorem length_eq (h : Nest closers opens a) : opens.length = closers.length := by
  induction h with
  | body _ => rfl
  | bracket _ _ _ ih => exact congrArg (· + 1) ih

/-- The innermost bracket stands at its position, and all behind it is balanced. -/
theorem exists_of_cons (h : Nest (closer :: closers) (opened :: opens) text) :
    ∃ before opener inner, text = before ++ opener :: inner ∧ before.length = opened ∧
      closer? opener = some closer ∧ Nest closers opens before ∧ Balanced true inner := by
  cases h with
  | bracket hbefore hcloser hinner => exact ⟨_, _, _, rfl, rfl, hcloser, hbefore, hinner⟩

/-- The innermost bracket is closed. -/
theorem close (h : Nest (closer :: closers) (opened :: opens) text) :
    Nest closers opens (text ++ [closer]) := by
  obtain ⟨before, opener, inner, rfl, -, hcloser, hbefore, hinner⟩ := h.exists_of_cons
  rw [List.append_assoc, List.cons_append]
  exact hbefore.append (.bracket hcloser hinner .nil)

end Nest

end

/-! ### Steps -/

/-- What the reader of a path can do at a character that is not escaped and ends no token. -/
inductive Mode.Steps (atStart : Bool) (c : Char) : Mode → Mode → Prop
  | inPattern (hslash : c ≠ '/') : Steps atStart c .pattern .pattern
  | endPattern (hslash : c = '/') : Steps atStart c .pattern (.plain [])
  | inString {quote : Char} {closers : List Char} (hquote : c ≠ quote) :
    Steps atStart c (.quoted quote closers) (.quoted quote closers)
  | endString {quote : Char} {closers : List Char} (hquote : c = quote) :
    Steps atStart c (.quoted quote closers) (.plain closers)
  | beginPattern (hslash : c = '/') (hstart : atStart) : Steps atStart c (.plain []) .pattern
  | opens {closers : List Char} {closer : Char} (hcloser : closer? c = some closer) :
    Steps atStart c (.plain closers) (.plain (closer :: closers))
  | closes {outer : List Char} (hcloses : isCloser c) :
    Steps atStart c (.plain (c :: outer)) (.plain outer)
  | beginString {closers : List Char} (hquote : isQuote c) (hclosers : closers ≠ []) :
    Steps atStart c (.plain closers) (.quoted c closers)
  | ordinary {closers : List Char} (hopens : closer? c = none) (hcloses : isCloser c = false)
    (hquote : closers ≠ [] → isQuote c = false)
    (hslash : ¬ (c = '/' ∧ closers = [] ∧ atStart)) :
    Steps atStart c (.plain closers) (.plain closers)

theorem Mode.steps_of_step (h : mode.step atStart c = some mode') :
    Mode.Steps atStart c mode mode' := by
  unfold Mode.step at h
  cases mode with
  | pattern =>
    dsimp only at h
    split at h <;> cases h
    · exact .endPattern ‹_›
    · exact .inPattern ‹_›
  | quoted quote closers =>
    dsimp only at h
    split at h <;> cases h
    · exact .endString ‹_›
    · exact .inString ‹_›
  | plain closers =>
    dsimp only at h
    split at h
    · rename_i hslash
      obtain ⟨hslash, rfl, hstart⟩ := hslash
      cases h
      exact .beginPattern hslash hstart
    · rename_i hslash
      split at h
      · rename_i closer hcloser
        cases h
        exact .opens hcloser
      · rename_i hopens
        split at h
        · rename_i hcloses
          split at h
          · split at h
            · rename_i d outer hd
              subst hd
              cases h
              exact .closes hcloses
            · cases h
          · cases h
        · rename_i hcloses
          split at h <;> cases h
          · rename_i hquote
            exact .beginString hquote.1 hquote.2
          · rename_i hquote
            refine .ordinary hopens (by simpa using hcloses) (fun hclosers ↦ ?_) hslash
            simpa using fun h ↦ hquote ⟨h, hclosers⟩

/-- The outermost bracket that is open, if it is a parenthesis. -/
def outermost? (closers : List Char) (opens : List Nat) : Option Nat :=
  if closers.getLast? = some ')' then opens.getLast? else none

/-- Both readers after the same text: the one that keeps the open brackets, with its notes, and the
one that counts them. -/
structure InStep (mode : Mode) (notes : Notes) (s : GroupScan) (before : List Char) : Prop where
  after : mode.After notes.opens before
  tracks : s.Tracks mode
  openAt : s.openAt = outermost? mode.closers notes.opens
  lt_length : ∀ pair ∈ notes.pairs, pair.2 < before.length

section

variable {before closers outer : List Char} {opens : List Nat} {s : GroupScan} {closer : Char}
  {opened : Nat}

namespace Notes

theorem step_of_closers_eq (h : mode'.closers = mode.closers) (notes : Notes) (position : Nat) :
    notes.step position mode mode' = notes := by
  simp [step, h]

theorem step_opens (notes : Notes) (position : Nat) (closer : Char) (closers : List Char) :
    notes.step position (.plain closers) (.plain (closer :: closers)) =
      ⟨position :: notes.opens, notes.pairs⟩ := by
  simp [step, Mode.closers]

theorem step_closes (h : notes.opens = opened :: opens) (position : Nat) (closer : Char)
    (closers : List Char) :
    notes.step position (.plain (closer :: closers)) (.plain closers) =
      ⟨opens, (opened, position) :: notes.pairs⟩ := by
  simp [step, Mode.closers, h]

end Notes

theorem eq_paren_iff (h : closer? c = some closer) : c = '(' ↔ closer = ')' := by
  unfold closer? at h
  split at h <;> cases h <;> decide

theorem ne_slash_of_closer? (h : closer? c = some closer) : c ≠ '/' := by
  rintro rfl
  cases h

theorem closer?_of_isCloser (h : isCloser c) : closer? c = none := by
  simp only [isCloser, Bool.or_eq_true, beq_iff_eq] at h
  rcases h with (rfl | rfl) | rfl <;> rfl

theorem ne_slash_of_isCloser (h : isCloser c) : c ≠ '/' := by
  rintro rfl
  cases h

theorem not_bracket_of_isQuote (h : isQuote c) : closer? c = none ∧ isCloser c = false := by
  simp only [isQuote, Bool.or_eq_true, beq_iff_eq] at h
  rcases h with rfl | rfl <;> exact ⟨rfl, rfl⟩

/-! ### In step -/

theorem outermost?_cons (h : opens.length = closers.length) (hne : closers ≠ []) (closer : Char)
    (opened : Nat) :
    outermost? (closer :: closers) (opened :: opens) = outermost? closers opens := by
  have hopens : opens ≠ [] := by
    rw [← List.length_pos_iff] at hne ⊢
    omega
  rw [outermost?, outermost?, List.getLast?_cons_of_ne_nil hne, List.getLast?_cons_of_ne_nil hopens]

namespace GroupScan

theorem Tracks.openAt_pattern (h : s.Tracks .pattern) : (s.step position c).openAt = s.openAt := by
  have hpattern : s.inPattern = true := h.inPattern
  simp [GroupScan.step, hpattern]

theorem Tracks.openAt_quoted {quote : Char} (h : s.Tracks (.quoted quote closers)) :
    (s.step position c).openAt = s.openAt := by
  have hpattern : s.inPattern = false := by simp [h.inPattern]
  have hquote : s.quote = some quote := h.quote
  unfold GroupScan.step
  rw [if_neg (by simp [hpattern]), hquote]
  dsimp only
  split <;> rfl

theorem Tracks.openAt_opens (h : s.Tracks (.plain closers)) (hcloser : closer? c = some closer) :
    (s.step position c).openAt =
      if closers = [] ∧ closer = ')' then some position else s.openAt := by
  have hpattern : s.inPattern = false := by simp [h.inPattern]
  have hquote : s.quote = none := h.quote
  have hdepth : s.depth = 0 ↔ closers = [] := by
    rw [h.depth]
    exact List.length_eq_zero_iff
  simp [GroupScan.step, hpattern, hquote, ne_slash_of_closer? hcloser, isQuote_of_closer? hcloser,
    hcloser, hdepth, eq_paren_iff hcloser]

theorem Tracks.openAt_closes (h : s.Tracks (.plain (c :: outer))) (hcloses : isCloser c) :
    (s.step position c).openAt = if outer = [] then none else s.openAt := by
  have hpattern : s.inPattern = false := by simp [h.inPattern]
  have hquote : s.quote = none := h.quote
  have hdepth : s.depth ≤ 1 ↔ outer = [] := by
    rw [h.depth, ← List.length_eq_zero_iff]
    exact Nat.add_le_add_iff_right (n := 1) (k := 0) |>.trans Nat.le_zero
  have hopens : closer? c = none := closer?_of_isCloser hcloses
  simp [GroupScan.step, hpattern, hquote, ne_slash_of_isCloser hcloses,
    isQuote_of_isCloser hcloses, hopens, hcloses, hdepth]

/-- A character that is no bracket leaves the outermost parenthesis. -/
theorem Tracks.openAt_of_not_bracket (h : s.Tracks (.plain closers)) (hopens : closer? c = none)
    (hcloses : isCloser c = false) : (s.step position c).openAt = s.openAt := by
  have hpattern : s.inPattern = false := by simp [h.inPattern]
  have hquote : s.quote = none := h.quote
  unfold GroupScan.step
  simp only [hpattern, hquote, hopens, hcloses, Option.isSome_none, Bool.false_eq_true, if_false]
  split_ifs <;> rfl

end GroupScan

namespace Mode

/-- Nothing is open before the first character. -/
theorem After.eq_plain (h : mode.After opens before) (hnil : before = []) : mode = .plain [] := by
  cases h with
  | plain h =>
    cases h with
    | body _ => rfl
    | bracket _ _ _ => simp at hnil
  | pattern _ => cases hnil
  | quoted _ _ _ _ => simp at hnil

/-- An escaped character changes nothing about brackets. -/
theorem After.escaped (h : mode.After opens before) (c : Char) :
    mode.After opens (before ++ ['\\', c]) := by
  cases h with
  | plain h => exact .plain (h.append (.escaped c .nil))
  | pattern h => exact .pattern (h.append (.escaped c .nil))
  | quoted hbefore hclosers hquote hstring =>
    rw [List.append_assoc, List.cons_append]
    exact .quoted hbefore hclosers hquote (hstring.append (.escaped c .nil))

theorem After.step (h : mode.After notes.opens before) (hc : c ≠ '\\')
    (hsteps : Steps (before.length == 0) c mode mode') :
    mode'.After (notes.step before.length mode mode').opens (before ++ [c]) := by
  obtain ⟨opens, pairs⟩ := notes
  change mode.After opens before at h
  have hsame : mode'.closers = mode.closers →
      Notes.step before.length mode mode' ⟨opens, pairs⟩ = ⟨opens, pairs⟩ :=
    fun heq ↦ Notes.step_of_closers_eq heq _ _
  cases hsteps with
  | inPattern hslash =>
    rw [hsame rfl]
    cases h with
    | pattern h => exact .pattern (h.append (.char hc hslash .nil))
  | endPattern hslash =>
    subst hslash
    rw [hsame rfl]
    cases h with
    | pattern h => exact .plain (.body (.pattern h .nil))
  | inString hquote =>
    rw [hsame rfl]
    cases h with
    | quoted hbefore hclosers hisQuote hstring =>
      rw [List.append_assoc, List.cons_append]
      exact .quoted hbefore hclosers hisQuote (hstring.append (.char hc hquote .nil))
  | endString hquote =>
    subst hquote
    rw [hsame rfl]
    cases h with
    | quoted hbefore hclosers hisQuote hstring =>
      rw [List.append_assoc, List.cons_append]
      refine .plain (hbefore.append ?_)
      rw [List.isEmpty_eq_false_iff.2 hclosers]
      exact .quoted hisQuote hstring .nil
  | beginPattern hslash hstart =>
    subst hslash
    obtain rfl : before = [] := by simpa using hstart
    rw [hsame rfl]
    cases h with
    | plain h =>
      obtain rfl : opens = [] := List.length_eq_zero_iff.1 h.length_eq
      exact .pattern .nil
  | opens hcloser =>
    rw [Notes.step_opens]
    cases h with
    | plain h => exact .plain (.bracket h hcloser .nil)
  | closes hcloses =>
    cases h with
    | plain h =>
      obtain ⟨opened, outer, hopens⟩ := List.exists_cons_of_length_eq_add_one h.length_eq
      rw [Notes.step_closes hopens]
      rw [hopens] at h
      exact .plain h.close
  | beginString hquote hclosers =>
    rw [hsame rfl]
    cases h with
    | plain h => exact .quoted h hclosers hquote .nil
  | ordinary hopens hcloses hquote _ =>
    rw [hsame rfl]
    cases h with
    | plain h =>
      refine .plain (h.append (.char hc hopens hcloses (fun hinside ↦ hquote ?_) .nil))
      simpa using hinside

end Mode

namespace InStep

theorem start : InStep (.plain []) .start .start [] :=
  ⟨.plain (.body (.plain .nil)), GroupScan.tracks_start, rfl, fun _ hpair ↦ nomatch hpair⟩

theorem escaped (h : InStep mode notes s before) (c : Char) :
    InStep mode notes s (before ++ ['\\', c]) :=
  ⟨h.after.escaped c, h.tracks, h.openAt, fun pair hpair ↦ by
    rw [List.length_append]
    exact Nat.lt_add_right _ (h.lt_length pair hpair)⟩

theorem openAt_step (h : InStep mode notes s before)
    (hsteps : Mode.Steps (before.length == 0) c mode mode') :
    (s.step before.length c).openAt =
      outermost? mode'.closers (notes.step before.length mode mode').opens := by
  have htracks := h.tracks
  have hopenAt := h.openAt
  have hsame : mode'.closers = mode.closers → notes.step before.length mode mode' = notes :=
    fun heq ↦ Notes.step_of_closers_eq heq notes before.length
  cases hsteps with
  | inPattern _ | endPattern _ =>
    rw [hsame rfl]
    rw [htracks.openAt_pattern]
    exact hopenAt
  | inString _ | endString _ =>
    rw [hsame rfl]
    rw [htracks.openAt_quoted]
    exact hopenAt
  | beginPattern hslash _ =>
    subst hslash
    rw [hsame rfl]
    rw [htracks.openAt_of_not_bracket rfl rfl]
    exact hopenAt
  | @opens closers closer hcloser =>
    rw [Notes.step_opens, htracks.openAt_opens hcloser, hopenAt]
    cases h.after with
    | plain hnest =>
      by_cases hclosers : closers = []
      · subst hclosers
        have hopens : notes.opens = [] := List.length_eq_zero_iff.1 hnest.length_eq
        simp [outermost?, Mode.closers, hopens]
      · rw [if_neg fun h ↦ hclosers h.1]
        exact (outermost?_cons hnest.length_eq hclosers closer before.length).symm
  | @closes outer hcloses =>
    rw [htracks.openAt_closes hcloses, hopenAt]
    cases h.after with
    | plain hnest =>
      obtain ⟨opened, opens, hopens⟩ := List.exists_cons_of_length_eq_add_one hnest.length_eq
      have hlength : opens.length = outer.length := by
        have hall := hnest.length_eq
        rw [hopens] at hall
        exact Nat.succ.inj hall
      rw [Notes.step_closes hopens, hopens]
      split
      · rename_i houter
        subst houter
        rfl
      · rename_i houter
        exact outermost?_cons hlength houter c opened
  | beginString hquote _ =>
    obtain ⟨hopens, hcloses⟩ := not_bracket_of_isQuote hquote
    rw [hsame rfl]
    rw [htracks.openAt_of_not_bracket hopens hcloses]
    exact hopenAt
  | ordinary hopens hcloses _ _ =>
    rw [hsame rfl]
    rw [htracks.openAt_of_not_bracket hopens hcloses]
    exact hopenAt

theorem lt_length_step (h : InStep mode notes s before) (c : Char) (mode' : Mode) :
    ∀ pair ∈ (notes.step before.length mode mode').pairs, pair.2 < (before ++ [c]).length := by
  rw [List.length_append, List.length_singleton]
  have hold : ∀ pair ∈ notes.pairs, pair.2 < before.length + 1 :=
    fun pair hpair ↦ Nat.lt_succ_of_lt (h.lt_length pair hpair)
  unfold Notes.step
  split_ifs
  · exact hold
  · split
    · exact List.forall_mem_cons.2 ⟨Nat.lt_succ_self _, hold⟩
    · exact hold
  · exact hold

/-- The readers stay in step at a character. -/
theorem step (h : InStep mode notes s before) (hc : c ≠ '\\')
    (hstep : mode.step (before.length == 0) c = some mode') :
    InStep mode' (notes.step before.length mode mode') (s.step before.length c) (before ++ [c]) :=
  have hsteps := Mode.steps_of_step hstep
  ⟨h.after.step hc hsteps,
    h.tracks.step rfl (fun hzero ↦ h.after.eq_plain (List.length_eq_zero_iff.1 hzero)) hstep,
    h.openAt_step hsteps, h.lt_length_step c mode'⟩

end InStep

/-! ### Tokens -/

/-- The group that is found at the end of a token is the one that ends there by its pairs of
brackets, and it and what is before it are balanced. -/
structure Agrees (token : List Char) (pairs : List (Nat × Nat)) (found : Option Nat) : Prop where
  eq_some_iff : ∀ start, found = some start ↔
    token.getLast? = some ')' ∧ (start, token.length - 1) ∈ pairs
  balanced : ∀ start, found = some start → ∃ body formula, token = body ++ group formula ∧
    body.length = start ∧ BalancedBody body ∧ Balanced true formula

/-- Nothing is found where no bracket is closed at the end. -/
theorem Agrees.of_lt {token : List Char} {pairs : List (Nat × Nat)}
    (h : token.getLast? = some ')' → ∀ pair ∈ pairs, pair.2 < token.length - 1) :
    Agrees token pairs none := by
  refine ⟨fun start ↦ ⟨(nomatch ·), fun hpair ↦ ?_⟩, fun _ hfound ↦ nomatch hfound⟩
  exact absurd (h hpair.1 _ hpair.2) (lt_irrefl _)

/-- The only bracket that is open before a parenthesis at the end is the one that belongs to it. -/
theorem Mode.Steps.eq_of_last (h : Mode.Steps atStart ')' mode (.plain []))
    (hafter : mode.After opens before) : mode = .plain [')'] := by
  cases h with
  | endPattern hslash => cases hslash
  | endString hquote =>
    subst hquote
    cases hafter with
    | quoted _ _ hquote _ => cases hquote
  | closes _ => rfl
  | ordinary _ hcloses _ _ => cases hcloses

theorem InStep.agrees_last (h : InStep mode notes s before) (hc : c ≠ '\\')
    (hstep : mode.step (before.length == 0) c = some (.plain [])) :
    Agrees (before ++ [c]) (notes.run before.length mode [c]).pairs
      (groupStart? before.length s [c]) := by
  rw [Notes.run_char hc hstep, Notes.run]
  by_cases hparen : c = ')'
  · subst hparen
    obtain rfl := (Mode.steps_of_step hstep).eq_of_last h.after
    have hcloses : s.closes = true := by
      simp [GroupScan.closes, h.tracks.depth, h.tracks.quote, h.tracks.inPattern, Mode.closers,
        Mode.quote?]
    cases h.after with
    | plain hnest =>
      obtain ⟨opened, outer, hopens⟩ := List.exists_cons_of_length_eq_add_one hnest.length_eq
      rw [hopens] at hnest
      obtain ⟨body, opener, formula, rfl, rfl, hcloser, hbody, hformula⟩ := hnest.exists_of_cons
      obtain rfl : outer = [] := List.length_eq_zero_iff.1 hbody.length_eq
      have hfound : groupStart? (body ++ opener :: formula).length s [')'] = some body.length := by
        rw [groupStart?, if_pos ⟨rfl, hcloses⟩, h.openAt, hopens]
        rfl
      obtain rfl := (eq_paren_iff hcloser).2 rfl
      rw [hfound, Notes.step_closes hopens]
      constructor
      case eq_some_iff =>
        intro start
        have hlast : (body ++ '(' :: formula ++ [')']).length - 1 =
            (body ++ '(' :: formula).length := by simp
        rw [hlast, List.getLast?_concat, List.mem_cons, Option.some.injEq]
        refine ⟨fun hstart ↦ ⟨rfl, .inl (by rw [hstart])⟩, fun hpair ↦ ?_⟩
        obtain hpair | hpair := hpair.2
        · exact (Prod.mk.inj hpair).1.symm
        · exact absurd (h.lt_length _ hpair) (lt_irrefl _)
      case balanced =>
        rintro start hstart
        cases hstart
        cases hbody with
        | body hbody => exact ⟨body, formula, by simp [group], rfl, hbody, hformula⟩
  · rw [groupStart?_singleton hparen]
    refine .of_lt fun hlast ↦ absurd ?_ hparen
    rw [List.getLast?_concat] at hlast
    exact Option.some.inj hlast

/-- The readers agree about a token that closes all that it opens. -/
theorem InStep.agrees (h : InStep mode notes s before) (hne : text ≠ [])
    (hrun : mode.run (before.length == 0) text = some (.plain [])) :
    Agrees (before ++ text) (notes.run before.length mode text).pairs
      (groupStart? before.length s text) := by
  induction text using textInduction generalizing mode notes s before with
  | nil => exact absurd rfl hne
  | unpaired =>
    rw [groupStart?_singleton (by decide)]
    refine .of_lt fun hlast ↦ ?_
    rw [List.getLast?_concat] at hlast
    cases hlast
  | escaped c rest ih =>
    have hescaped := h.escaped c
    have hlength : (before ++ ['\\', c]).length = before.length + 2 := by simp
    by_cases hrest : rest = []
    · subst hrest
      refine .of_lt fun _ pair hpair ↦ ?_
      have hlt := h.lt_length pair hpair
      rw [hlength]
      omega
    · have hagrees := ih hescaped hrest (by rw [hlength]; exact hrun)
      rw [hlength, List.append_assoc] at hagrees
      exact hagrees
  | char c rest hc ih =>
    rw [Mode.run_char hc] at hrun
    obtain ⟨next, hstep, hrest⟩ := Option.bind_eq_some_iff.1 hrun
    by_cases hnil : rest = []
    · subst hnil
      cases hrest
      exact h.agrees_last hc hstep
    · have hlength : (before ++ [c]).length = before.length + 1 := by simp
      have hagrees := ih (h.step hc hstep) hnil (by rw [hlength]; exact hrest)
      rw [hlength, List.append_assoc, ← Notes.run_char hc hstep, ← groupStart?_cons hc hnil]
        at hagrees
      exact hagrees

/-- With its pairs of brackets a token of a path is read as it is without them, and about the group
at its end the reader that only counts brackets agrees with the one that pairs them. Formula and
body of the token are then the balanced texts between the two parentheses and before them. -/
theorem trailingGroup?_paired {raw : String} {texts : List (List Char)}
    (h : tokenize raw = .ok texts) :
    ∃ tokens, pairedTokens raw = .ok tokens ∧ tokens.map Prod.fst = texts ∧
      ∀ token pairs, (token, pairs) ∈ tokens →
        (∀ start, groupStart? 0 .start token = some start ↔
          token.getLast? = some ')' ∧ (start, token.length - 1) ∈ pairs) ∧
        ∀ start, groupStart? 0 .start token = some start → ∃ body formula,
          trailingGroup? token = some (body, formula) ∧ token = body ++ group formula ∧
            body.length = start ∧ BalancedBody body ∧ Balanced true formula := by
  have herase : (pairedTokens raw).map (List.map Prod.fst) = .ok texts :=
    (map_fst_pairedFrom raw (.plain []) 0 .start raw.toList).trans h
  obtain ⟨tokens, htokens, hfst⟩ := exists_of_map_eq_ok herase
  refine ⟨tokens, htokens, hfst, fun token pairs hmem ↦ ?_⟩
  have hpairs : pairs = (Notes.start.run 0 (.plain []) token).pairs := by
    obtain ⟨first, more, rfl, hmore⟩ := pairs_of_pairedFrom htokens
    obtain hfirst | hmem := List.mem_cons.1 hmem
    · cases hfirst
      rfl
    · exact hmore token pairs hmem
  have hrun : (Mode.plain []).run true token = some (.plain []) := by
    refine run_of_tokenize h token ?_
    rw [← hfst]
    exact List.mem_map_of_mem hmem
  have hagrees : Agrees token pairs (groupStart? 0 .start token) := by
    by_cases hne : token = []
    · subst hne
      exact .of_lt fun hlast ↦ nomatch hlast
    · rw [hpairs]
      exact InStep.start.agrees hne hrun
  refine ⟨hagrees.eq_some_iff, fun start hstart ↦ ?_⟩
  obtain ⟨body, formula, htoken, hlength, hbody, hformula⟩ := hagrees.balanced start hstart
  refine ⟨body, formula, ?_, htoken, hlength, hbody, hformula⟩
  rw [trailingGroup?, hstart, htoken, ← hlength]
  simp [group, List.drop_append]

/-- A parenthesis in a pattern, two groups in one token with a quoted parenthesis in the last one,
and an escaped parenthesis at the end. -/
theorem trailingGroup?_paired_quoted :
    pairedTokens "/(/q(a).b(x)(y[\")\"]).c\\)" =
        .ok [("/(/q(a)".toList, [(4, 6)]), ("b(x)(y[\")\"])".toList, [(4, 11), (6, 10), (1, 3)]),
          ("c\\)".toList, [])] ∧
      groupStart? 0 .start "/(/q(a)".toList = some 4 ∧
      (∃ body formula, trailingGroup? "b(x)(y[\")\"])".toList = some (body, formula) ∧
        body.length = 4 ∧ BalancedBody body ∧ Balanced true formula) ∧
      ∀ start, groupStart? 0 .start "c\\)".toList ≠ some start := by
  have htokens : tokenize "/(/q(a).b(x)(y[\")\"]).c\\)" =
      .ok ["/(/q(a)".toList, "b(x)(y[\")\"])".toList, "c\\)".toList] := rfl
  have hpaired : pairedTokens "/(/q(a).b(x)(y[\")\"]).c\\)" =
      .ok [("/(/q(a)".toList, [(4, 6)]), ("b(x)(y[\")\"])".toList, [(4, 11), (6, 10), (1, 3)]),
        ("c\\)".toList, [])] := rfl
  obtain ⟨tokens, hsame, -, hagrees⟩ := trailingGroup?_paired htokens
  obtain rfl := Except.ok.inj (hpaired.symm.trans hsame)
  obtain ⟨hpattern, -⟩ := hagrees _ _ (.head _)
  obtain ⟨hgroups, hbalanced⟩ := hagrees _ _ (.tail _ (.head _))
  obtain ⟨hescaped, -⟩ := hagrees _ _ (.tail _ (.tail _ (.head _)))
  refine ⟨hpaired, (hpattern 4).2 ⟨rfl, .head _⟩, ?_, fun start hstart ↦ ?_⟩
  · obtain ⟨body, formula, htrailing, -, hbody⟩ := hbalanced 4 ((hgroups 4).2 ⟨rfl, .head _⟩)
    exact ⟨body, formula, htrailing, hbody⟩
  · obtain ⟨-, hpair⟩ := (hescaped start).1 hstart
    cases hpair

end

end

end DocPath.Path

import DocPath.Proofs.Path.Absolute
import DocPath.Proofs.Path.WellFormed

/-!
# Groups at the end of tokens

A path is cut into tokens by a reader that keeps the brackets that are open, and the parentheses at
the end of a token are found by one that only counts them. On every token the two are in step
(`GroupScan.Tracks.run`, with `run_of_tokenize`).

A text that closes all that it opens (`Enclosed`) can therefore be put in parentheses behind a path.
It stays in the last token (`Enclosed.exists_tokenize`), from which it is cut off again
(`Enclosed.trailingGroup?_group`). So the path has the segments that it had before, and the last one
has the text as its formula (`Enclosed.parse_group`).
-/

namespace DocPath.Path

/-! ### Texts with backslashes -/

/-- A text is read from left to right, a backslash together with the character after it. Only at
the end there may be none after it. -/
@[elab_as_elim]
theorem textInduction {motive : List Char → Prop} (nil : motive []) (unpaired : motive ['\\'])
    (escaped : ∀ c rest, motive rest → motive ('\\' :: c :: rest))
    (char : ∀ c rest, c ≠ '\\' → motive rest → motive (c :: rest)) :
    (text : List Char) → motive text
  | [] => nil
  | [c] => by
    by_cases hc : c = '\\'
    · exact hc ▸ unpaired
    · exact char c [] hc nil
  | c :: d :: rest => by
    by_cases hc : c = '\\'
    · exact hc ▸ escaped d rest (textInduction nil unpaired escaped char rest)
    · exact char c _ hc (textInduction nil unpaired escaped char (d :: rest))

/-- Whether a text ends with a backslash that no character is left for. -/
def endsUnpaired : List Char → Bool
  | [] => false
  | '\\' :: _ :: rest => endsUnpaired rest
  | c :: rest => c = '\\' || endsUnpaired rest

/-- The mode after a text in which no token ends; none where a bracket does not fit. -/
def Mode.run : Mode → Bool → List Char → Option Mode
  | mode, _, [] => some mode
  | mode, _, '\\' :: _ :: rest => run mode false rest
  | mode, atStart, c :: rest =>
    if c = '\\' then run mode false rest
    else (mode.step atStart c).bind fun mode ↦ run mode false rest

/-- The brackets that are still to be closed, the innermost first. -/
def Mode.closers : Mode → List Char
  | plain closers => closers
  | pattern => []
  | quoted _ closers => closers

/-- The quote that is still to be closed. -/
def Mode.quote? : Mode → Option Char
  | quoted q _ => some q
  | _ => none

/-- The mode after a text in brackets; none also where the text closes the outermost of them. -/
def Mode.within : Mode → List Char → Option Mode
  | mode, [] => some mode
  | mode, '\\' :: _ :: rest => within mode rest
  | mode, c :: rest =>
    if c = '\\' then within mode rest
    else (mode.step false c).bind fun mode ↦ if mode.closers = [] then none else within mode rest

/-- A text that can stand in parentheses: it closes the brackets and strings that it opens and no
others, and leaves no backslash unpaired. -/
structure Enclosed (text : List Char) : Prop where
  closed : (Mode.plain [')']).within text = some (.plain [')'])
  paired : endsUnpaired text = false

section

variable {path path' : String} {mode mode' : Mode} {atStart : Bool} {c : Char}
  {text rest suffix token body formula : List Char} {tokens : List (List Char)} {position : Nat}
  {s : GroupScan}

theorem endsUnpaired_char (hc : c ≠ '\\') (rest : List Char) :
    endsUnpaired (c :: rest) = endsUnpaired rest := by
  rw [endsUnpaired.eq_3]
  · simp [hc]
  · rintro d rest' rfl -
    exact hc rfl

theorem Mode.run_char (hc : c ≠ '\\') (mode : Mode) (atStart : Bool) (rest : List Char) :
    mode.run atStart (c :: rest) = (mode.step atStart c).bind fun mode ↦ mode.run false rest := by
  rw [Mode.run.eq_3]
  · exact if_neg hc
  · rintro d rest' rfl -
    exact hc rfl

theorem Mode.within_char (hc : c ≠ '\\') (mode : Mode) (rest : List Char) :
    mode.within (c :: rest) = (mode.step false c).bind fun mode ↦
      if mode.closers = [] then none else mode.within rest := by
  rw [Mode.within.eq_3]
  · exact if_neg hc
  · rintro d rest' rfl -
    exact hc rfl

/-- Inside brackets the text goes on, and stays inside. -/
theorem Mode.exists_of_within_char (hc : c ≠ '\\') (h : mode.within (c :: rest) = some mode') :
    ∃ next, mode.step false c = some next ∧ next.closers ≠ [] ∧ next.within rest = some mode' := by
  rw [Mode.within_char hc] at h
  obtain ⟨next, hstep, hnext⟩ := Option.bind_eq_some_iff.1 h
  split at hnext
  · cases hnext
  · exact ⟨next, hstep, ‹_›, hnext⟩

/-- Whether a token begins matters only outside brackets. -/
theorem Mode.step_of_closers_ne (h : mode.closers ≠ []) (atStart : Bool) (c : Char) :
    mode.step atStart c = mode.step false c := by
  cases mode with
  | pattern => rfl
  | quoted q closers => rfl
  | plain closers =>
    have hclosers : closers ≠ [] := h
    simp [Mode.step, hclosers]

/-! ### The tokens of a longer path -/

theorem exists_of_map_eq_ok {α β : Type} {read : Except SyntaxError α} {f : α → β} {b : β}
    (h : read.map f = .ok b) : ∃ a, read = .ok a ∧ f a = b := by
  cases read with
  | error e => cases h
  | ok a => exact ⟨a, rfl, Except.ok.inj h⟩

/-- The tokens of a path, and those of the path with a text behind it that goes to the last one. -/
def Lengthens (suffix : List Char) (read read' : Except SyntaxError (List (List Char))) : Prop :=
  ∀ tokens, read = .ok tokens → ∃ before token, tokens = before ++ [token] ∧
    endsUnpaired token = false ∧ read' = .ok (before ++ [token ++ suffix])

namespace Lengthens

variable {read read' : Except SyntaxError (List (List Char))}

theorem extend (h : Lengthens suffix read read') (chars : List Char)
    (hchars : ∀ token, endsUnpaired (chars ++ token) = endsUnpaired token) :
    Lengthens suffix (read.map (extend chars)) (read'.map (extend chars)) := by
  intro tokens htokens
  obtain ⟨tokens, hread, rfl⟩ := exists_of_map_eq_ok htokens
  obtain ⟨before, token, rfl, hpaired, rfl⟩ := h tokens hread
  cases before with
  | nil =>
    refine ⟨[], chars ++ token, rfl, (hchars token).trans hpaired, ?_⟩
    rw [List.append_assoc]
    rfl
  | cons first before => exact ⟨(chars ++ first) :: before, token, rfl, hpaired, rfl⟩

theorem cut (h : Lengthens suffix read read') :
    Lengthens suffix (read.map ([] :: ·)) (read'.map ([] :: ·)) := by
  intro tokens htokens
  obtain ⟨tokens, hread, rfl⟩ := exists_of_map_eq_ok htokens
  obtain ⟨before, token, rfl, hpaired, rfl⟩ := h tokens hread
  exact ⟨[] :: before, token, rfl, hpaired, rfl⟩

end Lengthens

theorem eq_plain_of_leftOpen? (h : mode.leftOpen? path = none) : mode = .plain [] := by
  cases mode with
  | pattern => cases h
  | quoted q closers => cases h
  | plain closers =>
    cases closers with
    | nil => rfl
    | cons d outer => cases h

theorem tokensFrom_ok_nil (h : tokensFrom path mode atStart [] = .ok tokens) :
    mode = .plain [] ∧ tokens = [[]] := by
  rw [tokensFrom] at h
  split at h
  · cases h
  · rename_i hclosed
    cases h
    exact ⟨eq_plain_of_leftOpen? hclosed, rfl⟩

/-- Behind a path, a text that stays in one token becomes the end of the last token. -/
theorem lengthens_tokensFrom (hsuffix : Stays path' (.plain []) (.plain []) suffix)
    (hpaired : endsUnpaired text = false) (mode : Mode) (atStart : Bool) :
    Lengthens suffix (tokensFrom path mode atStart text)
      (tokensFrom path' mode atStart (text ++ suffix)) := by
  induction text using textInduction generalizing mode atStart with
  | nil =>
    intro tokens htokens
    obtain ⟨rfl, rfl⟩ := tokensFrom_ok_nil htokens
    refine ⟨[], [], rfl, rfl, ?_⟩
    have hend := hsuffix atStart []
    rw [List.append_nil] at hend
    rw [List.nil_append, hend]
    simp [tokensFrom, Mode.leftOpen?, Except.map, Path.extend]
  | unpaired => cases hpaired
  | escaped c rest ih => exact (ih hpaired mode false).extend ['\\', c] fun _ ↦ rfl
  | char c rest hc ih =>
    rw [endsUnpaired_char hc] at hpaired
    rw [List.cons_append, tokensFrom_char hc, tokensFrom_char hc]
    split
    · exact (ih hpaired mode true).cut
    · cases mode.step atStart c with
      | none =>
        intro tokens htokens
        cases htokens
      | some next => exact (ih hpaired next false).extend [c] (endsUnpaired_char hc)

/-- Every token but the first is read from the mode that a token begins in, and all to that mode. -/
theorem run_of_tokensFrom (h : tokensFrom path mode atStart text = .ok tokens) :
    ∃ first more, tokens = first :: more ∧ mode.run atStart first = some (.plain []) ∧
      ∀ token ∈ more, (Mode.plain []).run true token = some (.plain []) := by
  induction text using textInduction generalizing mode atStart tokens with
  | nil =>
    obtain ⟨rfl, rfl⟩ := tokensFrom_ok_nil h
    exact ⟨[], [], rfl, rfl, List.forall_mem_nil _⟩
  | unpaired =>
    obtain ⟨tokens, hrest, rfl⟩ := exists_of_map_eq_ok h
    obtain ⟨rfl, rfl⟩ := tokensFrom_ok_nil hrest
    exact ⟨['\\'], [], rfl, rfl, List.forall_mem_nil _⟩
  | escaped c rest ih =>
    obtain ⟨tokens, hrest, rfl⟩ := exists_of_map_eq_ok h
    obtain ⟨first, more, rfl, hfirst, hmore⟩ := ih hrest
    exact ⟨'\\' :: c :: first, more, rfl, hfirst, hmore⟩
  | char c rest hc ih =>
    rw [tokensFrom_char hc] at h
    split at h
    · rename_i hdot
      obtain ⟨-, rfl⟩ := hdot
      obtain ⟨tokens, hrest, rfl⟩ := exists_of_map_eq_ok h
      obtain ⟨first, more, rfl, hfirst, hmore⟩ := ih hrest
      exact ⟨[], first :: more, rfl, rfl, List.forall_mem_cons.2 ⟨hfirst, hmore⟩⟩
    · split at h
      · rename_i next hstep
        obtain ⟨tokens, hrest, rfl⟩ := exists_of_map_eq_ok h
        obtain ⟨first, more, rfl, hfirst, hmore⟩ := ih hrest
        refine ⟨c :: first, more, rfl, ?_, hmore⟩
        rw [Mode.run_char hc, hstep, Option.bind_some, hfirst]
      · cases h

/-- Every token of a path closes all that it opens. -/
theorem run_of_tokenize {raw : String} (h : tokenize raw = .ok tokens) :
    ∀ token ∈ tokens, (Mode.plain []).run true token = some (.plain []) := by
  obtain ⟨first, more, rfl, hfirst, hmore⟩ := run_of_tokensFrom h
  exact List.forall_mem_cons.2 ⟨hfirst, hmore⟩

/-! ### In parentheses -/

/-- Behind a text that began in brackets a bracket is closed. -/
theorem stays_of_within (h : mode.within text = some (.plain [')'])) (hmode : mode.closers ≠ [])
    (hpaired : endsUnpaired text = false) : Stays path mode (.plain []) (text ++ [')']) := by
  induction text using textInduction generalizing mode with
  | nil =>
    cases h
    exact .char (by decide) (fun hdot ↦ absurd hdot (by decide)) fun _ ↦ rfl
  | unpaired => cases hpaired
  | escaped c rest ih => exact (Stays.escaped path mode c).append (ih h hmode hpaired)
  | char c rest hc ih =>
    rw [endsUnpaired_char hc] at hpaired
    obtain ⟨next, hstep, hnext, hrest⟩ := Mode.exists_of_within_char hc h
    have hfirst : Stays path mode next [c] :=
      .char hc (fun _ hplain ↦ hmode (hplain ▸ rfl)) fun atStart ↦
        (Mode.step_of_closers_ne hmode atStart c).trans hstep
    exact hfirst.append (ih hrest hnext hpaired)

/-- A text in parentheses. -/
def group (text : List Char) : List Char :=
  '(' :: (text ++ [')'])

/-- A group stays in one token. -/
theorem Enclosed.stays_group (h : Enclosed text) (path : String) :
    Stays path (.plain []) (.plain []) (group text) := by
  have hopen : Stays path (.plain []) (.plain [')']) ['('] :=
    .char (by decide) (fun hdot ↦ absurd hdot (by decide)) fun _ ↦ rfl
  exact hopen.append (stays_of_within h.closed (List.cons_ne_nil _ _) h.paired)

/-- A group behind a path belongs to its last token. -/
theorem Enclosed.exists_tokenize (h : Enclosed text) {raw raw' : String}
    (hraw : raw'.toList = raw.toList ++ group text) (htokens : tokenize raw = .ok tokens)
    (hpaired : endsUnpaired raw.toList = false) :
    ∃ before token, tokens = before ++ [token] ∧ endsUnpaired token = false ∧
      tokenize raw' = .ok (before ++ [token ++ group text]) := by
  rw [tokenize, hraw]
  exact lengthens_tokensFrom (h.stays_group raw') hpaired _ _ _ htokens

/-! ### Counting brackets -/

namespace GroupScan

/-- The state after a text, from a position on. -/
def run : Nat → GroupScan → List Char → GroupScan
  | _, s, [] => s
  | position, s, '\\' :: _ :: rest => run (position + 2) s rest
  | position, s, c :: rest => run (position + 1) (s.step position c) rest

theorem run_char (hc : c ≠ '\\') (position : Nat) (s : GroupScan) (rest : List Char) :
    s.run position (c :: rest) = (s.step position c).run (position + 1) rest := by
  rw [run.eq_3]
  rintro d rest' rfl -
  exact hc rfl

/-- The state of the reader that counts, beside the mode of the one that keeps the brackets. -/
structure Tracks (s : GroupScan) (mode : Mode) : Prop where
  depth : s.depth = mode.closers.length
  quote : s.quote = mode.quote?
  inPattern : s.inPattern = decide (mode = .pattern)

theorem tracks_start : start.Tracks (.plain []) :=
  ⟨rfl, rfl, rfl⟩

theorem isQuote_of_closer? {d : Char} (h : closer? c = some d) : isQuote c = false := by
  unfold closer? at h
  split at h <;> first | rfl | cases h

theorem isQuote_of_isCloser (h : isCloser c = true) : isQuote c = false := by
  simp only [isCloser, Bool.or_eq_true, beq_iff_eq] at h
  rcases h with (rfl | rfl) | rfl <;> rfl

theorem Tracks.step_pattern (h : s.Tracks .pattern)
    (hstep : Mode.pattern.step atStart c = some mode') : (s.step position c).Tracks mode' := by
  have hpattern : s.inPattern = true := h.inPattern
  cases hstep
  unfold GroupScan.step
  rw [if_pos hpattern]
  split
  · rename_i hslash
    exact ⟨h.depth, h.quote, by simp [hslash]⟩
  · rename_i hslash
    exact ⟨h.depth, h.quote, by simpa using hslash⟩

theorem Tracks.step_quoted {q : Char} {closers : List Char} (h : s.Tracks (.quoted q closers))
    (hstep : (Mode.quoted q closers).step atStart c = some mode') :
    (s.step position c).Tracks mode' := by
  have hpattern : ¬ s.inPattern = true := by simp [h.inPattern]
  have hquote : s.quote = some q := h.quote
  cases hstep
  unfold GroupScan.step
  rw [if_neg hpattern, hquote]
  dsimp only
  split
  · exact ⟨h.depth, rfl, h.inPattern⟩
  · exact ⟨h.depth, hquote, h.inPattern⟩

/-- Outside quotes and patterns both readers ask the same of a character, in another order. -/
theorem Tracks.step_plain {closers : List Char} (h : s.Tracks (.plain closers))
    (hstart : (closers = [] ∧ atStart = true) ↔ position = 0)
    (hstep : (Mode.plain closers).step atStart c = some mode') :
    (s.step position c).Tracks mode' := by
  have hpattern : ¬ s.inPattern = true := by simp [h.inPattern]
  have hquote : s.quote = none := h.quote
  have hdepth : s.depth = closers.length := h.depth
  have hopen : 0 < s.depth ↔ closers ≠ [] := by rw [hdepth, List.length_pos_iff]
  simp only [Mode.step, hstart] at hstep
  unfold GroupScan.step
  simp only [if_neg hpattern, hquote]
  split at hstep
  · rename_i hslash
    cases hstep
    obtain rfl : closers = [] := (hstart.2 hslash.2).1
    rw [if_pos hslash]
    exact ⟨hdepth, rfl, rfl⟩
  · rename_i hslash
    rw [if_neg hslash]
    cases hcloser : closer? c with
    | some d =>
      rw [hcloser] at hstep
      cases hstep
      simp only [isQuote_of_closer? hcloser, Bool.false_eq_true, false_and, if_false,
        Option.isSome_some, if_true]
      exact ⟨congrArg (· + 1) hdepth, rfl, h.inPattern⟩
    | none =>
      simp only [hcloser] at hstep
      split at hstep
      · rename_i hclose
        simp only [isQuote_of_isCloser hclose, Bool.false_eq_true, false_and, if_false,
          Option.isSome_none, hclose, if_true]
        cases closers with
        | nil => cases hstep
        | cons d outer =>
          dsimp only at hstep
          split at hstep
          · cases hstep
            exact ⟨congrArg (· - 1) hdepth, rfl, h.inPattern⟩
          · cases hstep
      · rename_i hclose
        simp only [Option.isSome_none, Bool.false_eq_true, if_false, hclose, hopen]
        split at hstep
        · rename_i hq
          cases hstep
          rw [if_pos hq]
          exact ⟨hdepth, rfl, h.inPattern⟩
        · rename_i hq
          cases hstep
          rw [if_neg hq]
          exact h

/-- The readers stay in step at a character. -/
theorem Tracks.step (h : s.Tracks mode) (hstart : atStart = (position == 0))
    (hmode : position = 0 → mode = .plain []) (hstep : mode.step atStart c = some mode') :
    (s.step position c).Tracks mode' := by
  cases mode with
  | pattern => exact h.step_pattern hstep
  | quoted q closers => exact h.step_quoted hstep
  | plain closers =>
    refine h.step_plain ?_ hstep
    rw [hstart, beq_iff_eq]
    exact ⟨And.right, fun hpos ↦ ⟨Mode.plain.inj (hmode hpos), hpos⟩⟩

/-- The readers stay in step over a text. -/
theorem Tracks.run (h : s.Tracks mode) (hstart : atStart = (position == 0))
    (hmode : position = 0 → mode = .plain []) (hpaired : endsUnpaired text = false)
    (hrun : mode.run atStart text = some mode') : (s.run position text).Tracks mode' := by
  induction text using textInduction generalizing mode atStart position s with
  | nil =>
    cases hrun
    exact h
  | unpaired => cases hpaired
  | escaped c rest ih => exact ih h (by simp) (by simp) hpaired hrun
  | char c rest hc ih =>
    rw [endsUnpaired_char hc] at hpaired
    rw [Mode.run_char hc] at hrun
    obtain ⟨next, hstep, hrest⟩ := Option.bind_eq_some_iff.1 hrun
    rw [run_char hc]
    exact ih (h.step hstart hmode hstep) (by simp) (by simp) hpaired hrest

/-- As long as a bracket is open, the outermost parenthesis is the same one. -/
theorem openAt_step (hdepth : 0 < s.depth) (hdepth' : 0 < (s.step position c).depth) :
    (s.step position c).openAt = s.openAt := by
  unfold GroupScan.step at hdepth' ⊢
  by_cases hpattern : s.inPattern = true
  · rw [if_pos hpattern]
  · rw [if_neg hpattern] at hdepth' ⊢
    cases hquote : s.quote with
    | some q =>
      dsimp only
      split <;> rfl
    | none =>
      simp only [hquote] at hdepth' ⊢
      split_ifs at hdepth' ⊢ with hslash hq hopen houter hclose hlast
      · rfl
      · rfl
      · omega
      · rfl
      · dsimp only at hdepth'
        omega
      · rfl
      · rfl

/-- Inside brackets the readers stay in step too, and the outermost parenthesis is the same one
throughout. -/
theorem Tracks.run_within (h : s.Tracks mode) (hposition : position ≠ 0)
    (hmode : mode.closers ≠ []) (hpaired : endsUnpaired text = false)
    (hwithin : mode.within text = some mode') :
    (s.run position text).Tracks mode' ∧ (s.run position text).openAt = s.openAt := by
  induction text using textInduction generalizing mode position s with
  | nil =>
    cases hwithin
    exact ⟨h, rfl⟩
  | unpaired => cases hpaired
  | escaped c rest ih => exact ih h (by simp) hmode hpaired hwithin
  | char c rest hc ih =>
    rw [endsUnpaired_char hc] at hpaired
    obtain ⟨next, hstep, hnext, hrest⟩ := Mode.exists_of_within_char hc hwithin
    have hfirst : (s.step position c).Tracks next :=
      h.step (by simp [hposition]) (fun hzero ↦ absurd hzero hposition) hstep
    have hsame : (s.step position c).openAt = s.openAt := by
      refine openAt_step ?_ ?_
      · rw [h.depth]
        exact List.length_pos_iff.2 hmode
      · rw [hfirst.depth]
        exact List.length_pos_iff.2 hnext
    obtain ⟨htracks, hopenAt⟩ := ih hfirst (Nat.succ_ne_zero _) hnext hpaired hrest
    rw [run_char hc]
    exact ⟨htracks, hopenAt.trans hsame⟩

end GroupScan

/-- The search for a group goes over a text that is not the end of the token. -/
theorem groupStart?_append (hpaired : endsUnpaired text = false) (hrest : rest ≠ [])
    (position : Nat) (s : GroupScan) :
    groupStart? position s (text ++ rest) =
      groupStart? (position + text.length) (s.run position text) rest := by
  induction text using textInduction generalizing position s with
  | nil => rfl
  | unpaired => cases hpaired
  | escaped c text ih =>
    have hstep : groupStart? position s ('\\' :: c :: (text ++ rest)) =
        groupStart? (position + 2) s (text ++ rest) := rfl
    rw [List.cons_append, List.cons_append, hstep, ih hpaired, List.length_cons, List.length_cons]
    exact congrArg (groupStart? · _ rest) (by omega)
  | char c text hc ih =>
    rw [endsUnpaired_char hc] at hpaired
    rw [List.cons_append, groupStart?_cons hc (by simp [hrest]), ih hpaired,
      GroupScan.run_char hc, List.length_cons]
    exact congrArg (groupStart? · _ rest) (by omega)

/-- The parenthesis at the end of a token is the one that its last group begins with. -/
theorem Enclosed.groupStart?_group (h : Enclosed formula)
    (hbody : (Mode.plain []).run true body = some (.plain []))
    (hpaired : endsUnpaired body = false) :
    groupStart? 0 .start (body ++ group formula) = some body.length := by
  have hbefore : (GroupScan.start.run 0 body).Tracks (.plain []) :=
    GroupScan.tracks_start.run rfl (fun _ ↦ rfl) hpaired hbody
  rw [groupStart?_append hpaired (by simp [group]), group, groupStart?_cons (by decide) (by simp),
    groupStart?_append h.paired (by simp)]
  generalize GroupScan.start.run 0 body = s at *
  rw [Nat.zero_add]
  have hdepth : s.depth = 0 := hbefore.depth
  have hquote : s.quote = none := hbefore.quote
  have hpattern : s.inPattern = false := hbefore.inPattern
  -- the first parenthesis is the outermost one, and stays so up to the last one
  have hopen : (s.step body.length '(').Tracks (.plain [')']) :=
    hbefore.step rfl (fun _ ↦ rfl) rfl
  have hopenAt : (s.step body.length '(').openAt = some body.length := by
    simp [GroupScan.step, hpattern, hquote, hdepth, isQuote, closer?]
  obtain ⟨hafter, hsame⟩ :=
    hopen.run_within (Nat.succ_ne_zero body.length) (List.cons_ne_nil _ _) h.paired h.closed
  have hcloses : ((s.step body.length '(').run (body.length + 1) formula).closes = true := by
    simp [GroupScan.closes, hafter.depth, hafter.quote, hafter.inPattern, Mode.closers, Mode.quote?]
  exact (if_pos ⟨rfl, hcloses⟩).trans (hsame.trans hopenAt)

/-- A group at the end of a token is found. -/
theorem Enclosed.trailingGroup?_group (h : Enclosed formula)
    (hbody : (Mode.plain []).run true body = some (.plain []))
    (hpaired : endsUnpaired body = false) :
    trailingGroup? (body ++ group formula) = some (body, formula) := by
  rw [trailingGroup?, h.groupStart?_group hbody hpaired]
  simp [group, List.drop_append]

/-! ### The segments of a longer path -/

/-- The segment with a formula in parentheses behind it. -/
def Segment.filterBy (segment : Segment) (formula : String) : Segment :=
  { segment with
    raw := segment.raw ++ "(" ++ formula ++ ")"
    formula := some (Formula.compile formula) }

/-- A group behind a token without one is the formula of its segment. -/
theorem Enclosed.read_group {formula : String} (h : Enclosed formula.toList)
    (hrun : (Mode.plain []).run true token = some (.plain []))
    (hpaired : endsUnpaired token = false) (hplain : trailingGroup? token = none)
    {recursive : Bool} {segment : Segment} (hread : Segment.read token recursive = .ok segment) :
    segment.formula = none ∧
      Segment.read (token ++ group formula.toList) recursive = .ok (segment.filterBy formula) := by
  have htext : String.ofList (token ++ group formula.toList) =
      String.ofList token ++ "(" ++ formula ++ ")" := by
    rw [← String.toList_inj]
    simp [group]
  unfold Segment.read at hread ⊢
  rw [hplain] at hread
  rw [h.trailingGroup?_group hrun hpaired]
  cases hselector : Selector.read token with
  | error e =>
    rw [hselector] at hread
    cases hread
  | ok selector =>
    rw [hselector] at hread
    cases hread
    simp [hselector, bind, Except.bind, pure, Except.pure, Segment.filterBy, htext]

theorem segmentsOf_cons_eq_ok (hne : token ≠ []) {isFirst recursive : Bool} {segment : Segment}
    {segments : List Segment} (hread : Segment.read token recursive = .ok segment)
    (hrest : segmentsOf false false tokens = .ok segments) :
    segmentsOf isFirst recursive (token :: tokens) = .ok (segment :: segments) := by
  rw [segmentsOf.eq_3 _ _ _ _ hne]
  simp only [hread, hrest, bind, Except.bind, pure, Except.pure]

/-- A group behind the last token changes the last segment only. -/
theorem Enclosed.segmentsOf_group {formula : String} (h : Enclosed formula.toList)
    (hrun : (Mode.plain []).run true token = some (.plain []))
    (hpaired : endsUnpaired token = false) (hplain : trailingGroup? token = none)
    (hne : token ≠ []) {before : List (List Char)} {isFirst recursive : Bool}
    {segments : List Segment}
    (hsegments : segmentsOf isFirst recursive (before ++ [token]) = .ok segments) :
    ∃ init last, segments = init ++ [last] ∧ last.formula = none ∧
      segmentsOf isFirst recursive (before ++ [token ++ group formula.toList]) =
        .ok (init ++ [last.filterBy formula]) := by
  induction before generalizing isFirst recursive segments with
  | nil =>
    obtain ⟨last, rest, hread, hrest, rfl⟩ := exists_of_segmentsOf_cons hne hsegments
    cases hrest
    obtain ⟨hlast, hread'⟩ := h.read_group hrun hpaired hplain hread
    exact ⟨[], last, rfl, hlast, segmentsOf_cons_eq_ok (by simp [hne]) hread' rfl⟩
  | cons first before ih =>
    cases first with
    | nil => exact ih hsegments
    | cons c first =>
      obtain ⟨segment, rest, hread, hrest, rfl⟩ :=
        exists_of_segmentsOf_cons (List.cons_ne_nil c first) hsegments
      obtain ⟨init, last, rfl, hlast, hrest'⟩ := ih hrest
      exact ⟨segment :: init, last, rfl, hlast,
        segmentsOf_cons_eq_ok (List.cons_ne_nil c first) hread hrest'⟩

/-- A formula in parentheses behind a path that has none in its last segment is read as the formula
of this segment, and nothing else about the path changes. -/
theorem Enclosed.parse_group {formula : String} (h : Enclosed formula.toList) {raw : String}
    {p : Path} (hp : Path.parse raw = .ok p) (htokens : tokenize raw = .ok tokens)
    (hlast : tokens.getLast? = some token) (hne : token ≠ []) (hplain : trailingGroup? token = none)
    (hpaired : endsUnpaired raw.toList = false) :
    ∃ init last, p.segments = init ++ [last] ∧ last.formula = none ∧
      Path.parse (raw ++ "(" ++ formula ++ ")") =
        .ok ⟨raw ++ "(" ++ formula ++ ")", init ++ [last.filterBy formula]⟩ := by
  have hraw : (raw ++ "(" ++ formula ++ ")").toList = raw.toList ++ group formula.toList := by
    simp [group]
  obtain ⟨before, token', rfl, hpaired', htokens'⟩ := h.exists_tokenize hraw htokens hpaired
  obtain rfl : token' = token := by simpa using hlast
  have hrun := run_of_tokenize htokens token' (by simp)
  obtain ⟨init, last, hsegments, hformula, hsegments'⟩ :=
    h.segmentsOf_group hrun hpaired' hplain hne (segmentsOf_of_parse hp htokens)
  refine ⟨init, last, hsegments, hformula, ?_⟩
  unfold Path.parse
  rw [htokens']
  simp only [hsegments', bind, Except.bind, pure, Except.pure]

end

end DocPath.Path

import DocPath.Proofs.Path.Group

/-!
# Joining tokens and segments again

Cutting a path at its dots loses nothing: the tokens joined with dots are the path
(`intercalate_of_tokensFrom`), and every token alone is read as just that token
(`exists_of_tokensFrom`). The other way round, texts that are tokens are read back when they are
joined (`tokensFrom_intercalate`), if at most the last one ends with a backslash that the dot after
it could be taken with.

A segment is written with the two dots of its recursion, which are two empty tokens before its own
one. So the segments of a path, joined with dots, are the segments of the path that they write
(`rejoin_of_tokenize`), however many dots stood before, between and after them.
-/

namespace DocPath.Path

/-- A text that is read as one token, in whatever path it stands. -/
def Mode.ReadsWhole (mode : Mode) (atStart : Bool) (token : List Char) : Prop :=
  ∀ path, tokensFrom path mode atStart token = .ok [token]

/-- No text but the last one ends with a backslash that no character is left for. -/
def PairedBeforeLast (tokens : List (List Char)) : Prop :=
  tokens.Pairwise fun token _ ↦ endsUnpaired token = false

/-- The tokens that write a segment: the two dots of recursion end two empty ones. -/
def Segment.tokens (s : Segment) : List (List Char) :=
  if s.recursive then [[], [], s.raw.toList] else [s.raw.toList]

section

variable {path raw : String} {mode mode' : Mode} {atStart isFirst recursive : Bool} {c : Char}
  {text rest token : List Char} {tokens : List (List Char)} {segment : Segment}
  {segments : List Segment}

/-! ### Cutting and joining -/

theorem intercalate_extend (chars : List Char) (tokens : List (List Char)) :
    ['.'].intercalate (extend chars tokens) = chars ++ ['.'].intercalate tokens := by
  match tokens with
  | [] => simp [extend]
  | [token] => simp [extend]
  | token :: next :: more => simp [extend]

/-- The first token is lengthened whether or not more tokens are appended. -/
theorem map_extend_append (chars : List Char) (htokens : tokens ≠ [])
    (read : Except SyntaxError (List (List Char))) :
    (read.map (tokens ++ ·)).map (extend chars) = read.map (extend chars tokens ++ ·) := by
  obtain ⟨first, more, rfl⟩ := List.exists_cons_of_ne_nil htokens
  cases read <;> rfl

theorem ne_nil_of_tokensFrom (h : tokensFrom path mode atStart text = .ok tokens) :
    tokens ≠ [] := by
  obtain ⟨first, more, rfl, -⟩ := run_of_tokensFrom h
  exact List.cons_ne_nil first more

/-- The tokens joined with dots are the text that was cut. -/
theorem intercalate_of_tokensFrom (h : tokensFrom path mode atStart text = .ok tokens) :
    ['.'].intercalate tokens = text := by
  induction text using textInduction generalizing mode atStart tokens with
  | nil =>
    obtain ⟨-, rfl⟩ := tokensFrom_ok_nil h
    rfl
  | unpaired =>
    obtain ⟨tokens, hrest, rfl⟩ := exists_of_map_eq_ok h
    obtain ⟨-, rfl⟩ := tokensFrom_ok_nil hrest
    rfl
  | escaped c rest ih =>
    obtain ⟨tokens, hrest, rfl⟩ := exists_of_map_eq_ok h
    exact (intercalate_extend ['\\', c] tokens).trans (congrArg (['\\', c] ++ ·) (ih hrest))
  | char c rest hc ih =>
    rw [tokensFrom_char hc] at h
    split at h
    · rename_i hdot
      obtain ⟨rfl, -⟩ := hdot
      obtain ⟨tokens, hrest, rfl⟩ := exists_of_map_eq_ok h
      obtain ⟨first, more, rfl⟩ := List.exists_cons_of_ne_nil (ne_nil_of_tokensFrom hrest)
      rw [List.intercalate_cons_cons, ih hrest]
      rfl
    · split at h
      · obtain ⟨tokens, hrest, rfl⟩ := exists_of_map_eq_ok h
        exact (intercalate_extend [c] tokens).trans (congrArg (c :: ·) (ih hrest))
      · cases h

namespace Mode.ReadsWhole

theorem nil (atStart : Bool) : (Mode.plain []).ReadsWhole atStart [] :=
  fun _ ↦ rfl

theorem escaped (h : mode.ReadsWhole false token) (c : Char) (atStart : Bool) :
    mode.ReadsWhole atStart ('\\' :: c :: token) :=
  fun path ↦ congrArg (Except.map (extend ['\\', c])) (h path)

theorem char (hc : c ≠ '\\') (hdot : ¬ (c = '.' ∧ mode = .plain []))
    (hstep : mode.step atStart c = some mode') (h : mode'.ReadsWhole false token) :
    mode.ReadsWhole atStart (c :: token) := by
  intro path
  rw [tokensFrom_char hc, if_neg hdot, hstep]
  exact congrArg (Except.map (extend [c])) (h path)

theorem tokenize (h : (Mode.plain []).ReadsWhole true token) :
    tokenize (String.ofList token) = .ok [token] := by
  rw [Path.tokenize, String.toList_ofList]
  exact h _

end Mode.ReadsWhole

theorem PairedBeforeLast.extend (h : PairedBeforeLast tokens) {chars : List Char}
    (hchars : ∀ token, endsUnpaired (chars ++ token) = endsUnpaired token) :
    PairedBeforeLast (extend chars tokens) := by
  cases tokens with
  | nil => exact List.pairwise_singleton _ _
  | cons first more =>
    obtain ⟨hfirst, hmore⟩ := List.pairwise_cons.1 h
    refine List.pairwise_cons.2 ⟨fun token htoken ↦ ?_, hmore⟩
    exact (hchars first).trans (hfirst token htoken)

/-- Each token alone is read as one, the first one from where the reading of all began, and only the
last one can end with a backslash that no character is left for. -/
theorem exists_of_tokensFrom (h : tokensFrom path mode atStart text = .ok tokens) :
    ∃ first more, tokens = first :: more ∧ mode.ReadsWhole atStart first ∧
      (∀ token ∈ more, (Mode.plain []).ReadsWhole true token) ∧ PairedBeforeLast tokens := by
  induction text using textInduction generalizing mode atStart tokens with
  | nil =>
    obtain ⟨rfl, rfl⟩ := tokensFrom_ok_nil h
    exact ⟨[], [], rfl, .nil atStart, List.forall_mem_nil _, List.pairwise_singleton _ _⟩
  | unpaired =>
    obtain ⟨tokens, hrest, rfl⟩ := exists_of_map_eq_ok h
    obtain ⟨rfl, rfl⟩ := tokensFrom_ok_nil hrest
    exact ⟨['\\'], [], rfl, fun _ ↦ rfl, List.forall_mem_nil _, List.pairwise_singleton _ _⟩
  | escaped c rest ih =>
    obtain ⟨tokens, hrest, rfl⟩ := exists_of_map_eq_ok h
    obtain ⟨first, more, rfl, hfirst, hmore, hpaired⟩ := ih hrest
    exact ⟨'\\' :: c :: first, more, rfl, hfirst.escaped c atStart, hmore,
      hpaired.extend fun _ ↦ rfl⟩
  | char c rest hc ih =>
    rw [tokensFrom_char hc] at h
    split at h
    · rename_i hdot
      obtain ⟨-, rfl⟩ := hdot
      obtain ⟨tokens, hrest, rfl⟩ := exists_of_map_eq_ok h
      obtain ⟨first, more, rfl, hfirst, hmore, hpaired⟩ := ih hrest
      exact ⟨[], first :: more, rfl, .nil atStart, List.forall_mem_cons.2 ⟨hfirst, hmore⟩,
        List.pairwise_cons.2 ⟨fun _ _ ↦ rfl, hpaired⟩⟩
    · rename_i hdot
      split at h
      · rename_i next hstep
        obtain ⟨tokens, hrest, rfl⟩ := exists_of_map_eq_ok h
        obtain ⟨first, more, rfl, hfirst, hmore, hpaired⟩ := ih hrest
        exact ⟨c :: first, more, rfl, hfirst.char hc hdot hstep, hmore,
          hpaired.extend (endsUnpaired_char hc)⟩
      · cases h

theorem readsWhole_of_tokenize (h : tokenize raw = .ok tokens) :
    ∀ token ∈ tokens, (Mode.plain []).ReadsWhole true token := by
  obtain ⟨first, more, rfl, hfirst, hmore, -⟩ := exists_of_tokensFrom h
  exact List.forall_mem_cons.2 ⟨hfirst, hmore⟩

theorem pairedBeforeLast_of_tokenize (h : tokenize raw = .ok tokens) : PairedBeforeLast tokens := by
  obtain ⟨first, more, -, -, -, hpaired⟩ := exists_of_tokensFrom h
  exact hpaired

/-- A dot behind a text that is cut into tokens cuts it off from what follows. -/
theorem tokensFrom_append_dot (h : tokensFrom path mode atStart text = .ok tokens)
    (hpaired : endsUnpaired text = false) (rest : List Char) :
    tokensFrom path mode atStart (text ++ '.' :: rest) =
      (tokensFrom path (.plain []) true rest).map (tokens ++ ·) := by
  induction text using textInduction generalizing mode atStart tokens with
  | nil =>
    obtain ⟨rfl, rfl⟩ := tokensFrom_ok_nil h
    exact (tokensFrom_char (by decide) ..).trans (if_pos ⟨rfl, rfl⟩)
  | unpaired => cases hpaired
  | escaped c text ih =>
    obtain ⟨tokens, htext, rfl⟩ := exists_of_map_eq_ok h
    exact (congrArg (Except.map (extend ['\\', c])) (ih htext hpaired)).trans
      (map_extend_append _ (ne_nil_of_tokensFrom htext) _)
  | char c text hc ih =>
    rw [endsUnpaired_char hc] at hpaired
    rw [tokensFrom_char hc] at h
    rw [List.cons_append, tokensFrom_char hc]
    split at h
    · rename_i hdot
      obtain ⟨tokens, htext, rfl⟩ := exists_of_map_eq_ok h
      rw [if_pos hdot, ih htext hpaired]
      cases tokensFrom path (.plain []) true rest <;> rfl
    · rename_i hdot
      rw [if_neg hdot]
      split at h
      · rename_i next hstep
        obtain ⟨tokens, htext, rfl⟩ := exists_of_map_eq_ok h
        rw [ih htext hpaired]
        exact map_extend_append _ (ne_nil_of_tokensFrom htext) _
      · cases h

/-- Tokens that are joined with dots are read back. -/
theorem tokensFrom_intercalate (path : String) (hne : tokens ≠ [])
    (hwhole : ∀ token ∈ tokens, (Mode.plain []).ReadsWhole true token)
    (hpaired : PairedBeforeLast tokens) :
    tokensFrom path (.plain []) true (['.'].intercalate tokens) = .ok tokens := by
  induction tokens with
  | nil => exact absurd rfl hne
  | cons token more ih =>
    obtain ⟨htoken, hmore⟩ := List.forall_mem_cons.1 hwhole
    obtain ⟨htoken', hmore'⟩ := List.pairwise_cons.1 hpaired
    cases more with
    | nil =>
      rw [List.intercalate_singleton]
      exact htoken path
    | cons next more =>
      rw [List.intercalate_cons_cons, List.append_assoc, List.singleton_append,
        tokensFrom_append_dot (htoken path) (htoken' next List.mem_cons_self),
        ih (List.cons_ne_nil next more) hmore hmore']
      rfl

/-! ### Segments -/

theorem Segment.tokens_ne_nil (s : Segment) : s.tokens ≠ [] := by
  unfold Segment.tokens
  split <;> exact List.cons_ne_nil _ _

theorem Segment.toList_text (s : Segment) : s.text.toList = ['.'].intercalate s.tokens := by
  unfold Segment.text Segment.tokens
  split <;> simp

theorem Segment.mem_tokens {s : Segment} (h : token ∈ s.tokens) :
    token = [] ∨ token = s.raw.toList := by
  unfold Segment.tokens at h
  split at h
  · simpa using h
  · exact .inr (List.mem_singleton.1 h)

theorem Segment.pairedBeforeLast_tokens (s : Segment) : PairedBeforeLast s.tokens := by
  unfold Segment.tokens
  split <;> simp [PairedBeforeLast, endsUnpaired]

theorem intercalate_append {before after : List (List Char)} (hbefore : before ≠ [])
    (hafter : after ≠ []) :
    ['.'].intercalate (before ++ after) =
      ['.'].intercalate before ++ '.' :: ['.'].intercalate after := by
  induction before with
  | nil => exact absurd rfl hbefore
  | cons first before ih =>
    cases before with
    | nil =>
      rw [List.singleton_append, List.intercalate_cons_of_ne_nil hafter,
        List.intercalate_singleton, List.append_assoc, List.singleton_append]
    | cons next before =>
      rw [List.cons_append, List.intercalate_cons_of_ne_nil (by simp), ih (by simp),
        List.intercalate_cons_cons, List.append_assoc, List.append_assoc, List.append_assoc]

/-- The texts of segments joined with dots are all their tokens joined with dots. -/
theorem toList_intercalate_text (segments : List Segment) :
    (".".intercalate (segments.map Segment.text)).toList =
      ['.'].intercalate (segments.flatMap Segment.tokens) := by
  rw [String.toList_intercalate, List.map_map]
  induction segments with
  | nil => rfl
  | cons s segments ih =>
    cases segments with
    | nil => simp [s.toList_text]
    | cons next segments =>
      have hne : (next :: segments).flatMap Segment.tokens ≠ [] := by
        simp [next.tokens_ne_nil]
      rw [List.flatMap_cons, intercalate_append s.tokens_ne_nil hne, ← ih, ← s.toList_text]
      simp

/-- A segment keeps the text of its token. -/
theorem Segment.eq_of_read (h : Segment.read token recursive = .ok segment) :
    segment.raw = String.ofList token ∧ segment.recursive = recursive := by
  unfold Segment.read at h
  simp only [bind, Except.bind, pure, Except.pure] at h
  split at h <;> split at h <;> cases h <;> exact ⟨rfl, rfl⟩

/-- The segments are read from the tokens that are not empty, in their order. -/
theorem of_segmentsOf (h : segmentsOf isFirst recursive tokens = .ok segments) :
    (segments.map fun s ↦ s.raw.toList).Sublist tokens ∧
      ∀ s ∈ segments, s.raw.toList ≠ [] ∧ Segment.read s.raw.toList s.recursive = .ok s := by
  induction tokens generalizing isFirst recursive segments with
  | nil =>
    cases h
    exact ⟨List.nil_sublist _, List.forall_mem_nil _⟩
  | cons token tokens ih =>
    cases token with
    | nil =>
      obtain ⟨hsub, hread⟩ := ih h
      exact ⟨hsub.cons [], hread⟩
    | cons c token =>
      obtain ⟨s, segments, hs, hrest, rfl⟩ :=
        exists_of_segmentsOf_cons (List.cons_ne_nil c token) h
      obtain ⟨hsub, hread⟩ := ih hrest
      obtain ⟨hraw, hrecursive⟩ := Segment.eq_of_read hs
      have htext : s.raw.toList = c :: token := by rw [hraw, String.toList_ofList]
      rw [List.map_cons, htext]
      refine ⟨hsub.cons_cons _, List.forall_mem_cons.2 ⟨?_, hread⟩⟩
      rw [htext, hrecursive]
      exact ⟨List.cons_ne_nil c token, hs⟩

/-- The tokens that write segments are read as these segments. -/
theorem segmentsOf_tokens
    (h : ∀ s ∈ segments, s.raw.toList ≠ [] ∧ Segment.read s.raw.toList s.recursive = .ok s)
    (isFirst : Bool) :
    segmentsOf isFirst false (segments.flatMap Segment.tokens) = .ok segments := by
  induction segments generalizing isFirst with
  | nil => rfl
  | cons s segments ih =>
    obtain ⟨⟨hne, hread⟩, hrest⟩ := List.forall_mem_cons.1 h
    rw [List.flatMap_cons, Segment.tokens]
    split
    · rename_i hrecursive
      rw [hrecursive] at hread
      exact segmentsOf_cons_eq_ok hne hread (ih hrest false)
    · rename_i hrecursive
      rw [Bool.not_eq_true] at hrecursive
      rw [hrecursive] at hread
      exact segmentsOf_cons_eq_ok hne hread (ih hrest false)

/-- The tokens that write the segments of a path can be joined. -/
theorem pairedBeforeLast_flatMap_tokens (hsub : (segments.map fun s ↦ s.raw.toList).Sublist tokens)
    (hpaired : PairedBeforeLast tokens) : PairedBeforeLast (segments.flatMap Segment.tokens) := by
  have hraw := List.pairwise_map.1 (hpaired.sublist hsub)
  refine List.pairwise_flatMap.2 ⟨fun s _ ↦ s.pairedBeforeLast_tokens, hraw.imp ?_⟩
  intro s _ hs token htoken _ _
  rcases Segment.mem_tokens htoken with rfl | rfl
  · rfl
  · exact hs

/-- The segments of a path, joined with dots, are read back. -/
theorem parse_intercalate_text {p : Path} (hp : Path.parse raw = .ok p)
    (htokens : tokenize raw = .ok tokens) :
    Path.parse (".".intercalate (p.segments.map Segment.text)) =
      .ok ⟨".".intercalate (p.segments.map Segment.text), p.segments⟩ := by
  obtain ⟨hsub, hread⟩ := of_segmentsOf (segmentsOf_of_parse hp htokens)
  generalize p.segments = segments at *
  by_cases hempty : segments = []
  · rw [hempty]
    rfl
  have hne : segments.flatMap Segment.tokens ≠ [] := by
    obtain ⟨s, rest, rfl⟩ := List.exists_cons_of_ne_nil hempty
    simp [s.tokens_ne_nil]
  have hwhole : ∀ token ∈ segments.flatMap Segment.tokens,
      (Mode.plain []).ReadsWhole true token := by
    intro token htoken
    obtain ⟨s, hs, htoken⟩ := List.mem_flatMap.1 htoken
    rcases Segment.mem_tokens htoken with rfl | rfl
    · exact .nil true
    · exact readsWhole_of_tokenize htokens _ (hsub.subset (List.mem_map_of_mem hs))
  have hjoined : tokenize (".".intercalate (segments.map Segment.text)) =
      .ok (segments.flatMap Segment.tokens) := by
    rw [tokenize, toList_intercalate_text]
    exact tokensFrom_intercalate _ hne hwhole
      (pairedBeforeLast_flatMap_tokens hsub (pairedBeforeLast_of_tokenize htokens))
  unfold Path.parse
  rw [hjoined]
  simp only [segmentsOf_tokens hread true, bind, Except.bind, pure, Except.pure]

/-- The tokens of a path, joined with dots, are the path, and each of them alone is one token. If
the path is read, its segments are read back from what they write, joined with dots. -/
theorem rejoin_of_tokenize (h : tokenize raw = .ok tokens) :
    ".".intercalate (tokens.map String.ofList) = raw ∧
      (∀ token ∈ tokens, tokenize (String.ofList token) = .ok [token]) ∧
      ∀ p, Path.parse raw = .ok p →
        Path.parse (".".intercalate (p.segments.map Segment.text)) =
          .ok ⟨".".intercalate (p.segments.map Segment.text), p.segments⟩ := by
  refine ⟨?_, fun token htoken ↦ (readsWhole_of_tokenize h token htoken).tokenize,
    fun p hp ↦ parse_intercalate_text hp h⟩
  have hid : String.toList ∘ String.ofList = id := funext fun _ ↦ String.toList_ofList
  rw [← String.toList_inj, String.toList_intercalate, List.map_map, hid, List.map_id]
  exact intercalate_of_tokensFrom h

/-- Dots before, between and behind the segments, an escaped dot and one in a string, and a
backslash at the end. -/
theorem rejoin_of_tokenize_dots :
    ∃ p, tokenize "..a\\.b.['x.y']...c..f\\" =
        .ok (["", "", "a\\.b", "['x.y']", "", "", "c", "", "f\\"].map String.toList) ∧
      Path.parse "..a\\.b.['x.y']...c..f\\" = .ok p ∧
      p.segments.map Segment.text = ["..a\\.b", "['x.y']", "..c", "..f\\"] ∧
      (∀ token ∈ ["", "", "a\\.b", "['x.y']", "", "", "c", "", "f\\"].map String.toList,
        tokenize (String.ofList token) = .ok [token]) ∧
      Path.parse (".".intercalate (p.segments.map Segment.text)) =
        .ok ⟨".".intercalate (p.segments.map Segment.text), p.segments⟩ := by
  have htokens : tokenize "..a\\.b.['x.y']...c..f\\" =
      .ok (["", "", "a\\.b", "['x.y']", "", "", "c", "", "f\\"].map String.toList) := rfl
  obtain ⟨-, halone, hparse⟩ := rejoin_of_tokenize htokens
  exact ⟨_, htokens, rfl, rfl, halone, hparse _ rfl⟩

end

end DocPath.Path

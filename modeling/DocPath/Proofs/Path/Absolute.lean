import DocPath.Flat
import DocPath.Proofs.Path.Literal
import DocPath.Proofs.Text.Scan
import Mathlib.Data.List.TakeWhile

/-!
# Paths of keys

A path written from keys is read back as the segments that name these keys (`parse_pathOf`). Keys
are followed through the reader one character at a time: a character of a name is escaped if it has
a meaning, so the tokens end exactly where the dots between the keys are (`tokenize_pathOf`), no
token has a formula (`trailingGroup?_segment`), and the selector of a token is the key
(`read_segment`).

* `literal?_absoluteSegment` — the segments are literal
* `pathOf_injective` — different keys make different paths
* `pathOf_inj` — even if some of the keys are positions beyond all words
-/

namespace DocPath.Path

/-! ### Tokens -/

theorem extend_extend (a b : List Char) (tokens : List (List Char)) :
    extend a (extend b tokens) = extend (a ++ b) tokens := by
  cases tokens <;> simp [extend]

theorem tokensFrom_char {c : Char} (hc : c ≠ '\\') (path : String) (mode : Mode) (atStart : Bool)
    (rest : List Char) :
    tokensFrom path mode atStart (c :: rest) =
      if c = '.' ∧ mode = .plain [] then (tokensFrom path mode true rest).map ([] :: ·)
      else match mode.step atStart c with
        | some mode => (tokensFrom path mode false rest).map (extend [c])
        | none => .error (.unbalanced c path) := by
  rw [tokensFrom.eq_3]
  · rw [if_neg hc]
    rfl
  · rintro d rest' rfl -
    exact hc rfl

/-- Text that stays in the current token, in the mode in which it begins and ends. -/
def Stays (path : String) (mode mode' : Mode) (text : List Char) : Prop :=
  ∀ atStart rest, tokensFrom path mode atStart (text ++ rest) =
    (tokensFrom path mode' false rest).map (extend text)

namespace Stays

variable {path : String} {mode mode' mode'' : Mode} {a b : List Char}

theorem append (ha : Stays path mode mode' a) (hb : Stays path mode' mode'' b) :
    Stays path mode mode'' (a ++ b) := by
  intro atStart rest
  rw [List.append_assoc, ha, hb]
  cases tokensFrom path mode'' false rest with
  | error e => rfl
  | ok tokens => exact congrArg Except.ok (extend_extend a b tokens)

/-- A backslash and the character after it stay. -/
theorem escaped (path : String) (mode : Mode) (c : Char) : Stays path mode mode ['\\', c] :=
  fun _ _ ↦ rfl

/-- A character that ends no token stays if the mode takes it. -/
theorem char {c : Char} (hback : c ≠ '\\') (hdot : c = '.' → mode ≠ .plain [])
    (hstep : ∀ atStart, mode.step atStart c = some mode') : Stays path mode mode' [c] := by
  intro atStart rest
  have hdot' : ¬ (c = '.' ∧ mode = .plain []) := fun h ↦ hdot h.1 h.2
  rw [List.singleton_append, tokensFrom_char hback, if_neg hdot', hstep]

end Stays

/-- A character that needs no escape has no meaning outside brackets. -/
theorem step_plain {c : Char} (h : Key.isStructural c = false) (atStart : Bool) :
    (Mode.plain []).step atStart c = some (.plain []) := by
  simp only [Key.isStructural, Bool.or_eq_false_iff, beq_eq_false_iff_ne] at h
  obtain ⟨⟨⟨⟨⟨⟨⟨⟨-, -⟩, hopen⟩, hclose⟩, hopen'⟩, hclose'⟩, hopen''⟩, hclose''⟩, hslash⟩ := h
  have hcloser : closer? c = none := by
    unfold closer?
    split <;> first | rfl | exact absurd rfl ‹_›
  simp [Mode.step, hslash, hcloser, isCloser, hclose, hclose', hclose'']

theorem stays_escapeChar (path : String) (c : Char) :
    Stays path (.plain []) (.plain []) (Key.escapeChar c) := by
  unfold Key.escapeChar
  split
  · exact .escaped path _ c
  · rename_i h
    have hplain : Key.isStructural c = false := by simpa using h
    refine .char ?_ ?_ (step_plain hplain)
    · rintro rfl
      exact h (by decide)
    · rintro rfl
      exact absurd (by decide) h

theorem stays_name (path : String) {text : List Char} (h : text ≠ []) :
    Stays path (.plain []) (.plain []) (text.flatMap Key.escapeChar) := by
  induction text with
  | nil => exact absurd rfl h
  | cons c rest ih =>
    rw [List.flatMap_cons]
    cases rest with
    | nil =>
      rw [List.flatMap_nil, List.append_nil]
      exact stays_escapeChar path c
    | cons d rest => exact (stays_escapeChar path c).append (ih (by simp))

/-- Digits stay inside a bracket. -/
theorem stays_digits (path : String) {digits : List Char} (hdigits : ∀ c ∈ digits, c.isDigit)
    (h : digits ≠ []) : Stays path (.plain [']']) (.plain [']']) digits := by
  have hdigit : ∀ c ∈ digits, Stays path (.plain [']']) (.plain [']']) [c] := by
    intro c hc
    have hcode := hdigits c hc
    have hne : ∀ d : Char, d.isDigit = false → c ≠ d := by
      rintro d hd rfl
      rw [hcode] at hd
      cases hd
    have hcloser : closer? c = none := by
      unfold closer?
      split <;> first | rfl | exact absurd hcode (by decide)
    refine .char (hne _ (by decide)) (fun _ ↦ by simp) fun atStart ↦ ?_
    simp [Mode.step, hcloser, isCloser, isQuote, hne ']' (by decide), hne ')' (by decide),
      hne '\x7d' (by decide), hne '\'' (by decide), hne '"' (by decide)]
  induction digits with
  | nil => exact absurd rfl h
  | cons c rest ih =>
    cases rest with
    | nil => exact hdigit c (by simp)
    | cons d rest =>
      refine (hdigit c (by simp)).append (ih (fun e he ↦ hdigits e (List.mem_cons_of_mem c he))
        (by simp) fun e he ↦ hdigit e (List.mem_cons_of_mem c he))

/-! ### The text of a segment -/

theorem toList_segment_index (i : Nat) :
    (Key.index i).segment.toList = '[' :: (Nat.toDigits 10 i ++ [']']) := by
  simp [Key.segment, Key.toList_indexText]

theorem toList_segment_name {name : String} (hempty : name ≠ "") (hstar : name ≠ "*") :
    (Key.name name).segment.toList = name.toList.flatMap Key.escapeChar := by
  simp [Key.segment, Key.escape, hempty, hstar]

/-- A key is written as a position, as the empty name, as a star, or with backslashes. -/
@[elab_as_elim]
theorem segmentCases {motive : Key → Prop} (index : ∀ i, motive (.index i))
    (empty : motive (.name "")) (star : motive (.name "*"))
    (name : ∀ k, k ≠ "" → k ≠ "*" → motive (.name k)) (key : Key) : motive key := by
  cases key with
  | index i => exact index i
  | name k =>
    by_cases hempty : k = ""
    · exact hempty ▸ empty
    · by_cases hstar : k = "*"
      · exact hstar ▸ star
      · exact name k hempty hstar

/-- The text of a segment is one token. -/
theorem stays_segment (path : String) (key : Key) :
    Stays path (.plain []) (.plain []) key.segment.toList := by
  have hopen : Stays path (.plain []) (.plain [']']) ['['] :=
    .char (by decide) (fun h ↦ absurd h (by decide)) fun _ ↦ rfl
  have hclose : Stays path (.plain [']']) (.plain []) [']'] :=
    .char (by decide) (fun h ↦ absurd h (by decide)) fun _ ↦ rfl
  cases key using segmentCases with
  | index i =>
    rw [toList_segment_index]
    exact hopen.append ((stays_digits path (Text.isDigit_toDigits i) Nat.toDigits_ne_nil).append
      hclose)
  | empty =>
    -- the empty name is written as two quotes in a bracket
    have hquote : Stays path (.plain [']']) (.quoted '\'' [']']) ['\''] :=
      .char (by decide) (fun h ↦ absurd h (by decide)) fun _ ↦ rfl
    have hunquote : Stays path (.quoted '\'' [']']) (.plain [']']) ['\''] :=
      .char (by decide) (fun h ↦ absurd h (by decide)) fun _ ↦ rfl
    exact hopen.append (hquote.append (hunquote.append hclose))
  | star => exact .escaped path _ '*'
  | name k hempty hstar =>
    rw [toList_segment_name hempty hstar]
    exact stays_name path fun h ↦ hempty (String.toList_eq_nil_iff.1 h)

theorem segment_ne_nil (key : Key) : key.segment.toList ≠ [] := by
  cases key using segmentCases with
  | index i => simp [toList_segment_index]
  | empty => decide
  | star => decide
  | name k hempty hstar =>
    rw [toList_segment_name hempty hstar]
    obtain ⟨c, rest, hk⟩ := List.exists_cons_of_ne_nil
      fun h ↦ hempty (String.toList_eq_nil_iff.1 h)
    rw [hk, List.flatMap_cons, Key.escapeChar]
    split <;> simp

/-- The tokens of a path of keys are the texts of the segments. -/
theorem tokenize_pathOf {keys : List Key} (h : keys ≠ []) :
    tokenize (Flat.pathOf keys) = .ok (keys.map fun key ↦ key.segment.toList) := by
  have htokens : ∀ (path : String) (keys : List Key), keys ≠ [] →
      tokensFrom path (.plain []) true
        (['.'].intercalate (keys.map fun key ↦ key.segment.toList)) =
        .ok (keys.map fun key ↦ key.segment.toList) := by
    intro path keys hkeys
    induction keys with
    | nil => exact absurd rfl hkeys
    | cons key rest ih =>
      cases rest with
      | nil =>
        have hlast := stays_segment path key true []
        simpa [tokensFrom, Mode.leftOpen?, Except.map, extend] using hlast
      | cons next rest =>
        -- a dot outside brackets and quotes closes the token
        have hdot : ∀ text, tokensFrom path (.plain []) false ('.' :: text) =
            (tokensFrom path (.plain []) true text).map ([] :: ·) := fun text ↦
          (tokensFrom_char (by decide) ..).trans (if_pos ⟨rfl, rfl⟩)
        have hrest := ih (by simp)
        rw [List.map_cons] at hrest
        rw [List.map_cons, List.map_cons, List.intercalate_cons_cons, List.append_assoc,
          stays_segment path key true, List.singleton_append, hdot, hrest]
        simp [Except.map, extend]
  have htext : (Flat.pathOf keys).toList =
      ['.'].intercalate (keys.map fun key ↦ key.segment.toList) := by
    rw [Flat.pathOf, String.toList_intercalate, List.map_map]
    rfl
  rw [tokenize, htext]
  exact htokens _ keys h

/-! ### Segments -/

theorem groupStart?_cons {c : Char} {rest : List Char} (hback : c ≠ '\\') (hne : rest ≠ [])
    (position : Nat) (state : GroupScan) :
    groupStart? position state (c :: rest) =
      groupStart? (position + 1) (state.step position c) rest := by
  cases rest with
  | nil => exact absurd rfl hne
  | cons d rest => simp [groupStart?, hback]

theorem groupStart?_singleton {c : Char} (h : c ≠ ')') (position : Nat) (state : GroupScan) :
    groupStart? position state [c] = none :=
  if_neg fun hc ↦ h hc.1

/-- A text without backslashes that does not end with a parenthesis ends with no group. -/
theorem groupStart?_append_singleton {text : List Char} {c : Char} (hback : '\\' ∉ text)
    (hc : c ≠ ')') (position : Nat) (state : GroupScan) :
    groupStart? position state (text ++ [c]) = none := by
  induction text generalizing position state with
  | nil => exact groupStart?_singleton hc position state
  | cons d rest ih =>
    rw [List.mem_cons, not_or] at hback
    rw [List.cons_append, groupStart?_cons (Ne.symm hback.1) (by simp)]
    exact ih hback.2 _ _

/-- An escaped name ends with no group. -/
theorem groupStart?_name (text : List Char) (position : Nat) (state : GroupScan) :
    groupStart? position state (text.flatMap Key.escapeChar) = none := by
  induction text generalizing position state with
  | nil => rfl
  | cons c rest ih =>
    rw [List.flatMap_cons, Key.escapeChar]
    split
    · exact ih _ _
    · rename_i h
      have hback : c ≠ '\\' := by rintro rfl; exact h (by decide)
      have hparen : c ≠ ')' := by rintro rfl; exact h (by decide)
      rw [List.singleton_append]
      by_cases hrest : rest.flatMap Key.escapeChar = []
      · rw [hrest]
        exact groupStart?_singleton hparen position state
      · rw [groupStart?_cons hback hrest]
        exact ih _ _

theorem trailingGroup?_segment (key : Key) : trailingGroup? key.segment.toList = none := by
  have hnone : groupStart? 0 .start key.segment.toList = none := by
    cases key using segmentCases with
    | index i =>
      rw [toList_segment_index, ← List.cons_append]
      refine groupStart?_append_singleton (fun hmem ↦ ?_) (by decide) _ _
      rcases List.mem_cons.1 hmem with heq | hmem
      · exact absurd heq (by decide)
      · exact absurd (Text.isDigit_toDigits i _ hmem) (by decide)
    | empty => rfl
    | star => rfl
    | name k hempty hstar =>
      rw [toList_segment_name hempty hstar]
      exact groupStart?_name _ _ _
  rw [trailingGroup?, hnone, Option.map_none]

/-! ### Selectors -/

/-- The selector of a key. -/
def selectorOf : Key → Selector
  | .name k => .key k
  | .index i => .index i

theorem trim_eq_self {text : List Char} (h : ∀ c ∈ text, Text.isBlank c = false) :
    Text.trim text = text :=
  Text.trim_eq_self_of_ends (fun c hc ↦ h c (List.mem_of_head? hc))
    fun c hc ↦ h c (List.mem_reverse.1 (List.mem_of_head? hc))

theorem unescape_eq_self {text : List Char} (h : ∀ c ∈ text, c ≠ '\\') : unescape text = text := by
  induction text with
  | nil => rfl
  | cons c rest ih =>
    obtain ⟨hc, hrest⟩ := List.forall_mem_cons.1 h
    simp [unescape, hc, ih hrest]

/-- The selector of a key as it is read back: a position too big for an integer is read as a
name. -/
def readBack : Key → Selector
  | .name k => .key k
  | .index i => if i < 0x8000000000000000 then .index i else .key (Key.indexText i)

theorem readBack_of_inRange {key : Key} (h : key.InRange) : readBack key = selectorOf key := by
  cases key with
  | name k => rfl
  | index i => exact if_pos h

/-- The inside of a bracket that holds the digits of a position. -/
theorem readBracket_toDigits (i : Nat) :
    Selector.readBracket (Nat.toDigits 10 i) = .ok (readBack (.index i)) := by
  have htrim : Text.trim (Nat.toDigits 10 i) = Nat.toDigits 10 i :=
    trim_eq_self fun c hc ↦ Text.isBlank_of_isIdentifierChar
      (Text.isIdentifierChar_of_isDigit (Text.isDigit_toDigits i c hc))
  have hscan := Text.scanInt_toDigits i (Text.stopsAt_nil (p := Char.isDigit))
  rw [List.append_nil] at hscan
  have hkey : keyOf (Nat.toDigits 10 i) = .key (Key.indexText i) := by
    rw [keyOf, unescape_eq_self]
    · rfl
    · rintro c hc rfl
      exact absurd (Text.isDigit_toDigits i _ hc) (by decide)
  obtain ⟨c, rest, hi, hc⟩ := Text.exists_toDigits_eq_cons i
  -- the text begins with a digit, so it is no quoted key
  unfold Selector.readBracket
  rw [htrim]
  rw [hi] at hscan hkey ⊢
  dsimp only
  split
  · rename_i heq
    obtain rfl := (List.cons.inj heq).1
    exact absurd hc (by decide)
  · rename_i heq
    obtain rfl := (List.cons.inj heq).1
    exact absurd hc (by decide)
  · rw [hscan, readBack, hkey]
    by_cases hrange : i < 0x8000000000000000 <;> simp [hrange]

/-- An escaped name is not read as anything but a name. -/
theorem read_name {k : String} (hempty : k ≠ "") (hstar : k ≠ "*") :
    Selector.read (k.toList.flatMap Key.escapeChar) = .ok (.key k) := by
  have hkey : keyOf (k.toList.flatMap Key.escapeChar) = .key k := by
    rw [keyOf, unescape_flatMap_escapeChar, String.ofList_toList]
  -- a character with a meaning is not the first one, since there is a backslash before it
  have hfirst : ∀ c rest, k.toList.flatMap Key.escapeChar = c :: rest →
      c = '\\' ∨ Key.isStructural c = false := by
    intro c rest heq
    obtain ⟨d, text, hk⟩ := List.exists_cons_of_ne_nil
      fun h ↦ hempty (String.toList_eq_nil_iff.1 h)
    rw [hk, List.flatMap_cons, Key.escapeChar] at heq
    split at heq
    · exact .inl (List.cons.inj heq).1.symm
    · rename_i h
      obtain rfl := (List.cons.inj heq).1
      exact .inr (by simpa using h)
  unfold Selector.read
  split
  · rename_i heq
    exact absurd heq (by rw [← toList_segment_name hempty hstar]; exact segment_ne_nil _)
  · rename_i heq
    have hk := unescape_flatMap_escapeChar k.toList
    rw [heq] at hk
    exact absurd (String.toList_inj.1 (hk.symm.trans rfl)) hstar
  · rename_i heq
    rcases hfirst _ _ heq with h | h <;> exact absurd h (by decide)
  · rename_i heq
    rcases hfirst _ _ heq with h | h <;> exact absurd h (by decide)
  · rename_i heq
    rcases hfirst _ _ heq with h | h <;> exact absurd h (by decide)
  · rw [hkey]

theorem read_segment_eq (key : Key) : Selector.read key.segment.toList = .ok (readBack key) := by
  cases key using segmentCases with
  | index i =>
    rw [toList_segment_index, Selector.read]
    simp only [List.getLast?_concat, if_true, List.dropLast_concat]
    exact readBracket_toDigits i
  | empty => rfl
  | star => rfl
  | name k hempty hstar =>
    rw [toList_segment_name hempty hstar]
    exact read_name hempty hstar

theorem read_segment {key : Key} (h : key.InRange) :
    Selector.read key.segment.toList = .ok (selectorOf key) := by
  rw [read_segment_eq, readBack_of_inRange h]

/-! ### Paths -/

/-- The segment that names a key. -/
def absoluteSegment (key : Key) : Segment :=
  ⟨key.segment, selectorOf key, none, false⟩

@[simp] theorem literal?_absoluteSegment (key : Key) :
    (absoluteSegment key).literal? = some key := by
  cases key <;> simp [Segment.literal?, absoluteSegment, selectorOf]

/-- The segment of a key as it is read back. -/
def readSegment (key : Key) : Segment :=
  ⟨key.segment, readBack key, none, false⟩

theorem readSegment_of_inRange {key : Key} (h : key.InRange) :
    readSegment key = absoluteSegment key := by
  rw [readSegment, readBack_of_inRange h, absoluteSegment]

theorem read_readSegment (key : Key) :
    Segment.read key.segment.toList false = .ok (readSegment key) := by
  rw [Segment.read, trailingGroup?_segment]
  simp only [read_segment_eq, String.ofList_toList, bind, Except.bind, pure, Except.pure]
  rfl

theorem segmentsOf_segments (keys : List Key) (isFirst : Bool) :
    segmentsOf isFirst false (keys.map fun key ↦ key.segment.toList) =
      .ok (keys.map readSegment) := by
  induction keys generalizing isFirst with
  | nil => rfl
  | cons key rest ih =>
    obtain ⟨c, text, htext⟩ := List.exists_cons_of_ne_nil (segment_ne_nil key)
    have hread := read_readSegment key
    rw [List.map_cons, htext, segmentsOf.eq_3 _ _ _ _ (by simp), ← htext, hread]
    simp only [ih, bind, Except.bind, pure, Except.pure, List.map_cons]

/-- Every path of keys is read back, with one segment for each key. -/
theorem parse_pathOf_eq (keys : List Key) :
    Path.parse (Flat.pathOf keys) = .ok ⟨Flat.pathOf keys, keys.map readSegment⟩ := by
  cases keys with
  | nil => rfl
  | cons key rest =>
    rw [Path.parse, tokenize_pathOf (by simp)]
    simp only [segmentsOf_segments, bind, Except.bind, pure, Except.pure]

/-- The path of keys is read back as the segments that name them. -/
theorem parse_pathOf {keys : List Key} (h : ∀ key ∈ keys, key.InRange) :
    Path.parse (Flat.pathOf keys) = .ok ⟨Flat.pathOf keys, keys.map absoluteSegment⟩ := by
  rw [parse_pathOf_eq, List.map_congr_left fun key hkey ↦ readSegment_of_inRange (h key hkey)]

theorem literal?_segments (keys : List Key) :
    (keys.map absoluteSegment).map Segment.literal? = keys.map some := by
  simp

/-- Different keys make different paths. -/
theorem pathOf_injective {keys others : List Key} (h : ∀ key ∈ keys, key.InRange)
    (hothers : ∀ key ∈ others, key.InRange) (heq : Flat.pathOf keys = Flat.pathOf others) :
    keys = others := by
  have hparse := parse_pathOf h
  rw [heq, parse_pathOf hothers] at hparse
  have hsegments : others.map absoluteSegment = keys.map absoluteSegment := by
    simpa using hparse
  have hkeys := congrArg (List.map Segment.literal?) hsegments
  rw [literal?_segments, literal?_segments] at hkeys
  exact (List.map_injective_iff.2 (fun _ _ ↦ Option.some.inj) hkeys).symm

/-! ### Beyond the range -/

/-- No name is written as a position is. -/
theorem segment_index_ne_name (i : Nat) (k : String) :
    (Key.index i).segment ≠ (Key.name k).segment := by
  intro heq
  obtain ⟨d, rest, hi, hd⟩ := Text.exists_toDigits_eq_cons i
  have htext := congrArg String.toList heq
  rw [toList_segment_index, hi] at htext
  by_cases hempty : k = ""
  · -- the empty name has a quote where a position has a digit
    subst hempty
    have hquote : d = '\'' := (List.cons.inj (List.cons.inj htext).2).1
    exact absurd hd (by rw [hquote]; decide)
  · by_cases hstar : k = "*"
    · subst hstar
      exact absurd (List.cons.inj htext).1 (by decide)
    · rw [toList_segment_name hempty hstar] at htext
      obtain ⟨c, text, hk⟩ := List.exists_cons_of_ne_nil
        fun h ↦ hempty (String.toList_eq_nil_iff.1 h)
      rw [hk, List.flatMap_cons, Key.escapeChar] at htext
      split at htext
      · exact absurd (List.cons.inj htext).1 (by decide)
      · rename_i hplain
        have hbracket : '[' = c := (List.cons.inj htext).1
        exact hplain (by rw [← hbracket]; decide)

/-- Different keys are written as different segments. -/
theorem segment_injective : Function.Injective Key.segment := by
  intro key other heq
  cases key with
  | index i =>
    cases other with
    | name k => exact absurd heq (segment_index_ne_name i k)
    | index j =>
      have htext := congrArg String.toList heq
      rw [toList_segment_index, toList_segment_index] at htext
      have hdigits : Nat.toDigits 10 i = Nat.toDigits 10 j :=
        List.append_cancel_right (List.cons.inj htext).2
      rw [← Text.digitsValue_toDigits i, hdigits, Text.digitsValue_toDigits]
  | name k =>
    cases other with
    | index j => exact absurd heq.symm (segment_index_ne_name j k)
    | name k' =>
      have hread := read_segment (show (Key.name k).InRange from trivial)
      rw [heq, read_segment (show (Key.name k').InRange from trivial)] at hread
      simpa [selectorOf] using hread.symm

/-- Paths are the same only if their keys are. -/
theorem pathOf_inj {keys others : List Key} (heq : Flat.pathOf keys = Flat.pathOf others) :
    keys = others := by
  have htext : Function.Injective fun key : Key ↦ key.segment.toList :=
    fun _ _ h ↦ segment_injective (String.toList_inj.1 h)
  -- the path without keys has one token, the empty one
  have hnil : ∀ keys : List Key, keys ≠ [] → Flat.pathOf keys ≠ Flat.pathOf [] := by
    intro keys hkeys heq
    have htokens := tokenize_pathOf hkeys
    rw [heq] at htokens
    obtain ⟨key, rest, rfl⟩ := List.exists_cons_of_ne_nil hkeys
    have hfirst : [] = key.segment.toList := (List.cons.inj (Except.ok.inj htokens)).1
    exact segment_ne_nil key hfirst.symm
  cases keys with
  | nil =>
    by_contra hne
    exact hnil others (Ne.symm hne) heq.symm
  | cons key rest =>
    cases others with
    | nil => exact absurd heq (hnil _ (by simp))
    | cons key' rest' =>
      have htokens := tokenize_pathOf (List.cons_ne_nil key rest)
      rw [heq, tokenize_pathOf (List.cons_ne_nil key' rest'), Except.ok.injEq] at htokens
      exact List.map_injective_iff.2 htext htokens.symm

end DocPath.Path

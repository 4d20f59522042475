import DocPath.Proofs.Json.Scalar
import DocPath.Proofs.Path.Rejoin

/-!
# Operations with scalar arguments

A segment that invokes an operation is written as the name of the operation, a colon, and the texts
of its arguments with commas between them, all in braces. With scalars as arguments it is read back
as it was meant (`parse_invocation`), whatever characters the strings among them have.

Four readers look at the same text: the one that cuts the path into tokens, the one that looks for a
formula at the end of a token, the one that splits at commas, and the one that reads values. The
first three agree on what a quoted string is, so each of them goes over a text of plain characters
and quoted strings (`Text.Quoting`) in one piece: `readsWhole_append`, `endsUnpaired_append` and
`Text.split_joined`.
-/

namespace DocPath

namespace Path

/-- The text that invokes an operation with scalars as arguments. -/
def invocation (name : String) (args : List Scalar) : String :=
  "\x7b" ++ name ++ ":" ++ ",".intercalate (args.map fun s ↦ (Json.scalar s).compact) ++ "\x7d"

/-- A character without a meaning inside brackets. -/
structure Inert (c : Char) : Prop where
  ne_backslash : c ≠ '\\'
  closer?_eq : closer? c = none
  isCloser_eq : isCloser c = false
  isQuote_eq : isQuote c = false

open Text (Quoting Shielded)

section

variable {p : Char → Prop} {c quote : Char} {closers inside text rest : List Char}
  {args : List Scalar} {s : Scalar}

/-! ### Tokens -/

/-- A quoted string stays in its token up to the quote that closes it. -/
theorem readsWhole_shielded (hinside : Shielded quote inside) (hquote : Text.IsQuote quote)
    (hrest : (Mode.plain closers).ReadsWhole false rest) :
    (Mode.quoted quote closers).ReadsWhole false (inside ++ quote :: rest) := by
  have hquoted : ∀ c, ¬ (c = '.' ∧ Mode.quoted quote closers = .plain []) := fun _ h ↦ nomatch h.2
  induction hinside with
  | nil => exact .char hquote.ne_backslash (hquoted _) (congrArg some (if_pos rfl)) hrest
  | char hslash hne _ ih => exact .char hslash (hquoted _) (congrArg some (if_neg hne)) ih
  | escaped c _ ih => exact ih.escaped c false

theorem step_inert (hc : Inert c) (hclosers : closers ≠ []) (atStart : Bool) :
    (Mode.plain closers).step atStart c = some (.plain closers) := by
  simp [Mode.step, hclosers, hc.closer?_eq, hc.isCloser_eq, hc.isQuote_eq]

theorem step_quote (hquote : Text.IsQuote quote) (hclosers : closers ≠ []) (atStart : Bool) :
    (Mode.plain closers).step atStart quote = some (.quoted quote closers) := by
  rcases hquote with rfl | rfl <;> simp [Mode.step, hclosers, closer?, isCloser, isQuote]

/-- A text of inert characters and quoted strings stays in its token inside brackets. -/
theorem readsWhole_append (h : Quoting p text) (hp : ∀ c, p c → Inert c) (hclosers : closers ≠ [])
    (hrest : (Mode.plain closers).ReadsWhole false rest) :
    (Mode.plain closers).ReadsWhole false (text ++ rest) := by
  have hinside : ∀ c, ¬ (c = '.' ∧ Mode.plain closers = .plain []) :=
    fun _ h ↦ hclosers (Mode.plain.inj h.2)
  induction h with
  | nil => exact hrest
  | char hc _ ih =>
    exact .char (hp _ hc).ne_backslash (hinside _) (step_inert (hp _ hc) hclosers false) ih
  | quoted hquote hshielded _ ih =>
    rw [List.cons_append, List.append_assoc, List.cons_append]
    exact .char hquote.ne_backslash (hinside _) (step_quote hquote hclosers false)
      (readsWhole_shielded hshielded hquote ih)

theorem endsUnpaired_shielded (hinside : Shielded quote inside) (hquote : quote ≠ '\\')
    (rest : List Char) : endsUnpaired (inside ++ quote :: rest) = endsUnpaired rest := by
  induction hinside with
  | nil => exact endsUnpaired_char hquote rest
  | char hslash _ _ ih => exact (endsUnpaired_char hslash _).trans ih
  | escaped c _ ih => exact ih

/-- A text of inert characters and quoted strings leaves no backslash unpaired. -/
theorem endsUnpaired_append (h : Quoting p text) (hp : ∀ c, p c → c ≠ '\\') (rest : List Char) :
    endsUnpaired (text ++ rest) = endsUnpaired rest := by
  induction h with
  | nil => rfl
  | char hc _ ih => exact (endsUnpaired_char (hp _ hc) _).trans ih
  | quoted hquote hshielded _ ih =>
    rw [List.cons_append, List.append_assoc, List.cons_append,
      endsUnpaired_char hquote.ne_backslash, endsUnpaired_shielded hshielded hquote.ne_backslash, ih]

/-! ### Invocations -/

/-- The characters of an invocation outside strings and without its braces. -/
def isInvocationChar (c : Char) : Bool :=
  Json.isWordChar c || c == ':' || c == ','

theorem inert_of_isInvocationChar (h : isInvocationChar c) : Inert c := by
  have hne : ∀ d, isInvocationChar d = false → c ≠ d := by
    rintro d hd rfl
    rw [h] at hd
    cases hd
  refine ⟨hne _ rfl, ?_, ?_, ?_⟩
  · unfold closer?
    split <;> first | rfl | exact absurd rfl (hne _ rfl)
  · simp [isCloser, hne ']' rfl, hne ')' rfl, hne '\x7d' rfl]
  · simp [isQuote, hne '\'' rfl, hne '"' rfl]

/-- The texts of arguments with commas between them. -/
def argumentsText (args : List Scalar) : List Char :=
  [','].intercalate (args.map Json.scalarText)

theorem toList_invocation (name : String) (args : List Scalar) :
    (invocation name args).toList =
      '\x7b' :: ((name.toList ++ ':' :: argumentsText args) ++ ['\x7d']) := by
  have hcompact : ∀ s, (Json.scalar s).compact.toList = Json.scalarText s := by
    intro s
    rw [Json.compact, String.toList_ofList, Json.chars]
  simp [invocation, argumentsText, String.toList_intercalate, Function.comp_def, hcompact]

theorem quoting_argumentsText (args : List Scalar) :
    Quoting (fun c ↦ Json.isWordChar c ∨ c = ',') (argumentsText args) := by
  refine .intercalate (.inr rfl) fun text htext ↦ ?_
  obtain ⟨s, -, rfl⟩ := List.mem_map.1 htext
  exact (Json.quoting_scalarText s).mono fun _ hc ↦ .inl hc

theorem argumentsText_ne_nil (h : args ≠ []) : argumentsText args ≠ [] := by
  obtain ⟨s, rest, rfl⟩ := List.exists_cons_of_ne_nil h
  cases rest with
  | nil =>
    rw [argumentsText, List.map_singleton, List.intercalate_singleton]
    exact Json.scalarText_ne_nil s
  | cons next rest =>
    rw [argumentsText, List.map_cons, List.map_cons, List.intercalate_cons_cons]
    simp

/-- What stands in the braces is inert but for its strings. -/
theorem quoting_invocation {name : List Char} (hname : ∀ c ∈ name, Text.isIdentifierChar c)
    (args : List Scalar) :
    Quoting (isInvocationChar ·) (name ++ ':' :: argumentsText args) := by
  have hword : ∀ c ∈ name, isInvocationChar c := by
    intro c hc
    simp [isInvocationChar, Json.isWordChar, hname c hc]
  refine (Quoting.of_forall hword).append (.char rfl ((quoting_argumentsText args).mono ?_))
  rintro c (hc | rfl)
  · simp [isInvocationChar, hc]
  · rfl

/-- An invocation is one token. -/
theorem tokenize_invocation {name : String} (hname : ∀ c ∈ name.toList, Text.isIdentifierChar c)
    (args : List Scalar) :
    tokenize (invocation name args) = .ok [(invocation name args).toList] := by
  have hinside := quoting_invocation hname args
  have hclose : (Mode.plain ['\x7d']).ReadsWhole false ['\x7d'] :=
    .char (by decide) (by decide) rfl (.nil false)
  have hwhole := readsWhole_append hinside (fun _ ↦ inert_of_isInvocationChar)
    (List.cons_ne_nil '\x7d' []) hclose
  have htoken : (Mode.plain []).ReadsWhole true (invocation name args).toList := by
    rw [toList_invocation]
    exact .char (by decide) (by decide) rfl hwhole
  rw [tokenize]
  exact htoken _

/-- An invocation ends with no group. -/
theorem trailingGroup?_invocation {name : String}
    (hname : ∀ c ∈ name.toList, Text.isIdentifierChar c) (args : List Scalar) :
    trailingGroup? (invocation name args).toList = none := by
  have hpaired : endsUnpaired ('\x7b' :: (name.toList ++ ':' :: argumentsText args)) = false := by
    have hinside := endsUnpaired_append (quoting_invocation hname args)
      (fun _ hc ↦ (inert_of_isInvocationChar hc).ne_backslash) []
    rw [List.append_nil] at hinside
    rw [endsUnpaired_char (by decide), hinside, endsUnpaired]
  rw [trailingGroup?, toList_invocation, ← List.cons_append,
    groupStart?_append hpaired (List.cons_ne_nil _ _), groupStart?_singleton (by decide),
    Option.map_none]

/-- The texts of the arguments are found again. -/
theorem split_argumentsText (args : List Scalar) :
    Text.split [.literal ","] (argumentsText args) = args.map Json.scalarText := by
  by_cases hempty : args = []
  · rw [hempty]
    rfl
  have hnotBlank : ∀ c, (Json.isWordChar c ∨ c = ',') → Text.isBlank c = false := by
    rintro c (hc | rfl)
    · exact Json.isBlank_of_isWordChar hc
    · rfl
  have hblank : ¬ (argumentsText args).all Text.isBlank :=
    Text.not_all_isBlank ((quoting_argumentsText args).stopsAt_isBlank hnotBlank)
      (argumentsText_ne_nil hempty)
  have hunsplit : ∀ text ∈ args.map Json.scalarText, Text.Unsplit ',' text := by
    intro text htext
    obtain ⟨s, -, rfl⟩ := List.mem_map.1 htext
    refine (Json.quoting_scalarText s).mono fun c hc ↦ ⟨?_, Json.ne_of_isWordChar hc rfl⟩
    rintro (rfl | rfl) <;> cases hc
  have htrim : ∀ text ∈ args.map Json.scalarText, Text.trim text = text := by
    intro text htext
    obtain ⟨s, -, rfl⟩ := List.mem_map.1 htext
    exact (Json.quoting_scalarText s).trim_eq_self fun _ ↦ Json.isBlank_of_isWordChar
  exact (Text.split_joined (by decide) (by simp [hempty]) hunsplit hblank).trans
    ((List.map_congr_left htrim).trans (List.map_id' _))

/-- An argument that is read back as JSON is the argument. -/
theorem readArgument_scalarText (h : Json.read? (Json.scalar s).compact = some (.scalar s)) :
    Selector.readArgument (Json.scalarText s) = .scalar s := by
  have hcompact : (Json.scalar s).compact = String.ofList (Json.scalarText s) := by
    rw [Json.compact, Json.chars]
  unfold Selector.readArgument
  rw [← hcompact, h]

theorem read_braces (inner : List Char) :
    Selector.read ('\x7b' :: (inner ++ ['\x7d'])) = .ok (Selector.readSpecial inner) := by
  simp [Selector.read]

/-- The name and the arguments of an invocation are found again. -/
theorem readSpecial_invocation {name : String} (hname : ∀ c ∈ name.toList, Text.isIdentifierChar c)
    (hargs : ∀ s ∈ args, Json.read? (Json.scalar s).compact = some (.scalar s)) :
    Selector.readSpecial (name.toList ++ ':' :: argumentsText args) =
      .special name (args.map Json.scalar) := by
  have hcolon : ∀ c ∈ name.toList, (c != ':') = true := by
    intro c hc
    rw [bne_iff_ne]
    rintro rfl
    exact absurd (hname _ hc) (by decide)
  have hstop : Text.StopsAt (· != ':') (':' :: argumentsText args) := Text.stopsAt_cons.2 rfl
  have htrim : Text.trim name.toList = name.toList :=
    trim_eq_self fun c hc ↦ Text.isBlank_of_isIdentifierChar (hname c hc)
  rw [Selector.readSpecial, Text.takeWhile_append hcolon hstop,
    Text.dropWhile_append hcolon hstop, htrim, String.ofList_toList, List.drop_one, List.tail_cons,
    split_argumentsText, List.map_map]
  refine congrArg (Selector.special name) (List.map_congr_left fun s hs ↦ ?_)
  exact readArgument_scalarText (hargs s hs)

/-- An invocation with scalars as arguments is read back: it is one segment, which has neither a
formula nor any depth, with the operation of that name and exactly these arguments. Whether a double
is read back from its digits is a matter of its last bit, and is asked of those that are given. -/
theorem parse_invocation {name : String} (hname : ∀ c ∈ name.toList, Text.isIdentifierChar c)
    (hdoubles : ∀ d, .number (.double d) ∈ args →
      Json.read? d.text = some (.number (.double d))) :
    Path.parse (invocation name args) =
      .ok ⟨invocation name args,
        [⟨invocation name args, .special name (args.map Json.scalar), none, false⟩]⟩ := by
  have hargs : ∀ s ∈ args, Json.read? (Json.scalar s).compact = some (.scalar s) := by
    intro s hs
    by_cases hdouble : ∃ d, s = .number (.double d)
    · obtain ⟨d, rfl⟩ := hdouble
      have hcompact : (Json.number (.double d)).compact = d.text := by
        rw [Json.compact, Json.chars, Json.scalarText_number, Number.text, String.ofList_toList]
      rw [hcompact]
      exact hdoubles d hs
    · exact Json.read?_scalar fun d hd ↦ hdouble ⟨d, hd⟩
  have hselector : Selector.read (invocation name args).toList =
      .ok (.special name (args.map Json.scalar)) := by
    rw [toList_invocation, read_braces, readSpecial_invocation hname hargs]
  have hread : Segment.read (invocation name args).toList false =
      .ok ⟨invocation name args, .special name (args.map Json.scalar), none, false⟩ := by
    unfold Segment.read
    rw [trailingGroup?_invocation hname args]
    simp [hselector, bind, Except.bind, pure, Except.pure]
  have hne : (invocation name args).toList ≠ [] := by
    rw [toList_invocation]
    exact List.cons_ne_nil _ _
  have hsegments : segmentsOf true false [(invocation name args).toList] =
      .ok [⟨invocation name args, .special name (args.map Json.scalar), none, false⟩] :=
    segmentsOf_cons_eq_ok hne hread rfl
  unfold Path.parse
  rw [tokenize_invocation hname args]
  simp only [hsegments, bind, Except.bind, pure, Except.pure]

/-- A string with brackets, quotes and delimiters in it, the largest integer, and a double. -/
theorem parse_invocation_awkward :
    Path.parse "\x7bf_1:null,\"a,\\\"b\\\\\x7d.)'\\n\",18446744073709551615,-1.5\x7d" =
      .ok ⟨"\x7bf_1:null,\"a,\\\"b\\\\\x7d.)'\\n\",18446744073709551615,-1.5\x7d",
        [⟨"\x7bf_1:null,\"a,\\\"b\\\\\x7d.)'\\n\",18446744073709551615,-1.5\x7d",
          .special "f_1" [.null, .string "a,\"b\\\x7d.)'\n", .ofInt 18446744073709551615,
            .number (.double ⟨true, 0x3FF8000000000000, by decide⟩)], none, false⟩]⟩ := by
  have htext : invocation "f_1" [.null, .string "a,\"b\\\x7d.)'\n",
      .number (.ofInt 18446744073709551615),
      .number (.double ⟨true, 0x3FF8000000000000, by decide⟩)] =
        "\x7bf_1:null,\"a,\\\"b\\\\\x7d.)'\\n\",18446744073709551615,-1.5\x7d" := by
    decide +kernel
  have hscan : Numeral.scan ['-', '1', '.', '5'] = some (⟨true, ['1'], some ['5'], none⟩, []) := rfl
  have hread : Json.read? "-1.5" =
      some (.number (.double ⟨true, 0x3FF8000000000000, by decide⟩)) :=
    Json.read?_of_numeral (.inl rfl) hscan (by decide +kernel)
  rw [← htext]
  refine parse_invocation (List.all_eq_true.1 rfl) fun d hd ↦ ?_
  have hdouble : d = ⟨true, 0x3FF8000000000000, by decide⟩ := by
    have hint : Number.ofInt 18446744073709551615 =
      .integer 18446744073709551615 (by decide) := rfl
    simpa [hint] using hd
  have hdigits : d.text = "-1.5" := by
    rw [hdouble]
    decide +kernel
  rw [hdigits, hdouble]
  exact hread

end

end Path

end DocPath

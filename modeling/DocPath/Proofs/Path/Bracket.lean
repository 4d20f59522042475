import DocPath.Proofs.Path.Special
import DocPath.Proofs.Tree.Course

/-!
# Names in brackets

A name can be written between quotes in a bracket, with a backslash before every backslash and before
every quote of that kind (`bracketed`), or without a bracket, with a backslash before every character
that has a meaning outside (`Key.escape`). Any name at all can be written in both ways, and with both
kinds of quotes.

Three readers look at a name in a bracket. For the one that cuts the path into tokens and for the one
that looks for a formula at the end of a token, a quoted string is something to pass over, so all
they need is that the quote stands nowhere inside without a backslash
(`Text.shielded_escapeQuoted`). The third one takes the backslashes away again, and some backslashes
stand for other characters there, but only before letters (`Text.scanQuoted_escapeQuoted`).

* `parse_bracketed` — the name is read back, and selects what it selects when it is escaped
-/

namespace DocPath

namespace Text

variable {p : Char → Prop} {quote : Char}

/-- Between the quotes no quote of that kind stands without a backslash. -/
theorem shielded_escapeQuoted (quote : Char) (text : List Char) :
    Shielded quote (escapeQuoted quote text) := by
  induction text with
  | nil => exact .nil
  | cons c text ih =>
    rw [escapeQuoted, List.flatMap_cons, ← escapeQuoted]
    by_cases hescaped : c = '\\' ∨ c = quote
    · rw [if_pos hescaped]
      exact .escaped c ih
    · obtain ⟨hslash, hne⟩ := not_or.1 hescaped
      rw [if_neg hescaped]
      exact .char hslash hne ih

theorem quoting_quoted (hquote : IsQuote quote) (text : List Char) :
    Quoting p (quoted quote text) :=
  .quoted hquote (shielded_escapeQuoted quote text) .nil

end Text

namespace Path

variable {quote : Char} {raw : String} {selector : Selector}

/-- A name between quotes in a bracket. -/
def bracketed (quote : Char) (name : String) : String :=
  String.ofList ('[' :: (Text.quoted quote name.toList ++ [']']))

/-- A segment that selects a name, however the name is spelled. -/
def nameSegment (raw name : String) : Segment :=
  ⟨raw, .key name, none, false⟩

theorem toList_bracketed (quote : Char) (name : String) :
    (bracketed quote name).toList = '[' :: (Text.quoted quote name.toList ++ [']']) :=
  String.toList_ofList

/-! ### Reading -/

/-- A text that is one token and ends with no group is one segment. -/
theorem parse_of_tokenize (htoken : tokenize raw = .ok [raw.toList]) (hne : raw.toList ≠ [])
    (hgroup : trailingGroup? raw.toList = none) (hselector : Selector.read raw.toList = .ok selector) :
    Path.parse raw = .ok ⟨raw, [⟨raw, selector, none, false⟩]⟩ := by
  have hread : Segment.read raw.toList false = .ok ⟨raw, selector, none, false⟩ := by
    rw [Segment.read, hgroup]
    simp only [hselector, String.ofList_toList, bind, Except.bind, pure, Except.pure]
  have hsegments : segmentsOf true false [raw.toList] = .ok [⟨raw, selector, none, false⟩] :=
    segmentsOf_cons_eq_ok hne hread rfl
  rw [Path.parse, htoken]
  simp only [hsegments, bind, Except.bind, pure, Except.pure]

/-- A name in a bracket is one token: the bracket in which it stands is the only one that is
open. -/
theorem tokenize_bracketed (hquote : Text.IsQuote quote) (name : String) :
    tokenize (bracketed quote name) = .ok [(bracketed quote name).toList] := by
  have hclose : (Mode.plain [']']).ReadsWhole false [']'] :=
    .char (by decide) (by decide) rfl (.nil false)
  have hinside := readsWhole_append (Text.quoting_quoted (p := fun _ ↦ False) hquote name.toList)
    (fun _ ↦ False.elim) (List.cons_ne_nil ']' []) hclose
  have htoken : (Mode.plain []).ReadsWhole true (bracketed quote name).toList := by
    rw [toList_bracketed]
    exact .char (by decide) (by decide) rfl hinside
  rw [tokenize]
  exact htoken _

theorem trailingGroup?_bracketed (hquote : Text.IsQuote quote) (name : String) :
    trailingGroup? (bracketed quote name).toList = none := by
  have hpaired : endsUnpaired ('[' :: Text.quoted quote name.toList) = false := by
    have hinside := endsUnpaired_append
      (Text.quoting_quoted (p := fun _ ↦ False) hquote name.toList) (fun _ ↦ False.elim) []
    rw [List.append_nil] at hinside
    rw [endsUnpaired_char (by decide), hinside, endsUnpaired]
  rw [trailingGroup?, toList_bracketed, ← List.cons_append,
    groupStart?_append hpaired (List.cons_ne_nil _ _), groupStart?_singleton (by decide),
    Option.map_none]

/-- Whatever stands between the quotes, a bracket with a quoted name holds that name. -/
theorem readBracket_quoted (hquote : Text.IsQuote quote) (text : List Char) :
    Selector.readBracket (Text.quoted quote text) = .ok (.key (String.ofList text)) := by
  have htrim : Text.trim (Text.quoted quote text) = Text.quoted quote text :=
    (Text.quoting_quoted (p := fun _ ↦ False) hquote text).trim_eq_self fun _ ↦ False.elim
  have hname : Selector.readQuotedKey (Text.quoted quote text) quote
      (Text.escapeQuoted quote text ++ [quote]) = .ok (.key (String.ofList text)) := by
    rw [Selector.readQuotedKey, Text.scanQuoted_escapeQuoted hquote text []]
    rfl
  -- the kind of the bracket is told by its first character, which is the quote
  rw [Selector.readBracket, htrim]
  rcases hquote with rfl | rfl <;> exact hname

theorem read_bracketed (hquote : Text.IsQuote quote) (name : String) :
    Selector.read (bracketed quote name).toList = .ok (.key name) := by
  have hbracket := readBracket_quoted hquote name.toList
  rw [String.ofList_toList] at hbracket
  rw [toList_bracketed, Selector.read, List.getLast?_concat, List.dropLast_concat, if_pos rfl,
    hbracket]

/-- An escaped name is read back as well. -/
theorem parse_escape (name : String) :
    Path.parse (Key.escape name) = .ok ⟨Key.escape name, [nameSegment (Key.escape name) name]⟩ :=
  parse_pathOf_eq [.name name]

end Path

/-! ### Selecting -/

namespace Tree

open DocPath.Path (Segment nameSegment)

variable {s s' : Segment}

theorem segmentMatchesAll_congr (h : ∀ (t : Tree) id, t.segmentMatches s id = t.segmentMatches s' id)
    (t : Tree) (ids : List NodeId) : t.segmentMatchesAll s ids = t.segmentMatchesAll s' ids := by
  induction ids generalizing t with
  | nil => rfl
  | cons id rest ih => rw [segmentMatchesAll_cons, segmentMatchesAll_cons, h, ih]

/-- Of two segments that match the same nodes, one can stand for the other anywhere in a path. -/
theorem walk_congr (h : ∀ (t : Tree) id, t.segmentMatches s id = t.segmentMatches s' id)
    (t : Tree) (ids : List NodeId) (before after : List Segment) :
    t.walk ids (before ++ s :: after) = t.walk ids (before ++ s' :: after) := by
  induction before generalizing t ids with
  | nil => rw [List.nil_append, List.nil_append, walk_cons, walk_cons, segmentMatchesAll_congr h]
  | cons first before ih =>
    rw [List.cons_append, List.cons_append, walk_cons, walk_cons]
    split
    · rfl
    · exact ih _ _

/-- What a name matches does not depend on its spelling. -/
theorem segmentMatches_nameSegment (raw raw' name : String) (t : Tree) (id : NodeId) :
    t.segmentMatches (nameSegment raw name) id = t.segmentMatches (nameSegment raw' name) id :=
  (segmentMatches_of_plain (.key raw name) id).trans
    (segmentMatches_of_plain (.key raw' name) id).symm

end Tree

namespace Path

variable {quote : Char}

/-- A name between quotes in a bracket is read back, whatever characters it has: it is one segment,
which selects just that name, filters nothing and reaches no deeper. So is the escaped name. In every
tree, beginning at any node, and whatever other segments there are before and after it, the one
leads to the same nodes as the other. -/
theorem parse_bracketed (hquote : Text.IsQuote quote) (name : String) :
    Path.parse (bracketed quote name) =
        .ok ⟨bracketed quote name, [⟨bracketed quote name, .key name, none, false⟩]⟩ ∧
      Path.parse (Key.escape name) =
        .ok ⟨Key.escape name, [⟨Key.escape name, .key name, none, false⟩]⟩ ∧
      (∀ t : Tree, t.find (bracketed quote name) = t.find (Key.escape name)) ∧
      ∀ (t : Tree) (start : NodeId) (before after : List Segment) (raw raw' : String),
        t.findFrom ⟨raw, before ++ nameSegment (bracketed quote name) name :: after⟩ start =
          t.findFrom ⟨raw', before ++ nameSegment (Key.escape name) name :: after⟩ start := by
  have hparse := parse_of_tokenize (tokenize_bracketed hquote name)
    (by rw [toList_bracketed]; exact List.cons_ne_nil _ _)
    (trailingGroup?_bracketed hquote name) (read_bracketed hquote name)
  have hsame : ∀ (t : Tree) (start : NodeId) (before after : List Segment) (raw raw' : String),
      t.findFrom ⟨raw, before ++ nameSegment (bracketed quote name) name :: after⟩ start =
        t.findFrom ⟨raw', before ++ nameSegment (Key.escape name) name :: after⟩ start := by
    intro t start before after raw raw'
    rw [Tree.findFrom, Tree.findFrom, Tree.walk_congr (Tree.segmentMatches_nameSegment _ _ name)]
  refine ⟨hparse, parse_escape name, fun t ↦ ?_, hsame⟩
  rw [Tree.find_eq, Tree.find_eq, hparse, parse_escape]
  exact congrArg Except.ok (hsame t t.root.id [] [] _ _)

/-- A name with a blank at either end, brackets, a dot, both quotes, a letter that a backslash would
make a line break, and a backslash before the closing quote. -/
theorem parse_bracketed_awkward :
    Path.parse "[' \\\\n].(\\'\"/\\\\ \\\\']" = .ok ⟨"[' \\\\n].(\\'\"/\\\\ \\\\']",
        [⟨"[' \\\\n].(\\'\"/\\\\ \\\\']", .key " \\n].('\"/\\ \\", none, false⟩]⟩ ∧
      Path.parse "[\"\"]" = .ok ⟨"[\"\"]", [⟨"[\"\"]", .key "", none, false⟩]⟩ := by
  have hsingle : bracketed '\'' " \\n].('\"/\\ \\" = "[' \\\\n].(\\'\"/\\\\ \\\\']" := by
    decide +kernel
  have hdouble : bracketed '"' "" = "[\"\"]" := rfl
  rw [← hsingle, ← hdouble]
  exact ⟨(parse_bracketed (.inr rfl) _).1, (parse_bracketed (.inl rfl) _).1⟩

end Path

end DocPath

import DocPath.CommandLine
import DocPath.Proofs.Query.Columns

/-!
# The default of a search

What a search on the command line prints are the matches of its paths, one path after the other,
with repetitions dropped if asked, then only the first one kept if asked, and with the default where
nothing is left.

Every combination of these options can be asked for (`exists_parse_find`). Matches are not lost on
the way, so that where something matches the default has no effect. Where nothing matches, the
default is all that is printed (`refine_nil`), except with the option for the first match: this one
puts a null in the place of the match that there is not, and no default is looked at after that.
-/

namespace DocPath

namespace Json

variable {values : List Json}

/-- Of what there is something is left when repetitions are dropped. -/
theorem unique_ne_nil (h : values ≠ []) : unique values ≠ [] := by
  cases values with
  | nil => exact absurd rfl h
  | cons v rest => exact List.cons_ne_nil v _

end Json

namespace Query

variable {v : Json} {paths : List String} {columns : List (List Json)}

/-- Paths that each match nothing match nothing together. -/
theorem findMulti_of_nil (hv : v.Distinct) (h : ∀ path ∈ paths, find v path = .ok []) :
    findMulti v paths = .ok (List.replicate paths.length []) := by
  rw [findMulti_eq_mapM hv]
  induction paths with
  | nil => rfl
  | cons path rest ih =>
    obtain ⟨hpath, hrest⟩ := List.forall_mem_cons.1 h
    rw [List.mapM_cons, hpath, ih hrest]
    rfl

/-- If one of the paths matches something, there are matches. -/
theorem flatten_ne_nil (hv : v.Distinct) (hcolumns : findMulti v paths = .ok columns)
    {path : String} {w : Json} {rest : List Json} (hpath : path ∈ paths)
    (hfind : find v path = .ok (w :: rest)) : columns.flatten ≠ [] := by
  rw [findMulti_eq_mapM hv] at hcolumns
  have heach := forall₂_of_mapM hcolumns
  obtain ⟨i, hi, rfl⟩ := List.getElem_of_mem hpath
  have hi' : i < columns.length := heach.length_eq ▸ hi
  have hcolumn : find v paths[i] = .ok columns[i] := heach.get hi hi'
  rw [hfind] at hcolumn
  have hmem : w :: rest ∈ columns := by
    rw [Except.ok.inj hcolumn]
    exact List.getElem_mem _
  exact List.ne_nil_of_mem (List.mem_flatten.2 ⟨_, hmem, List.mem_cons_self ..⟩)

end Query

namespace CommandLine

variable {args : List String} {input json : String} {paths : List String} {v : Json}
  {values : List Json} {columns : List (List Json)} {first unique join : Bool}
  {default : Option String}

/-! ### Command lines -/

/-- The options of a search, by name. -/
def findOptions : Options :=
  ⟨["first", "unique", "join"], ["default"]⟩

/-- The words that ask for a search. -/
def findWords (json : String) (paths : List String) (first unique : Bool) (default : Option String)
    (join : Bool) : List String :=
  "find" :: ((if first then ["--first"] else []) ++ ((if unique then ["--unique"] else []) ++
    ((if join then ["--join"] else []) ++ ((default.map ("--default=" ++ ·)).toList ++
      "--" :: json :: paths))))

/-- A flag that may be there is sorted with the flags before it. -/
theorem sortWords_flag {sorted : Words} (word name : String) (on : Bool) (rest : List String)
    (hword : word ≠ "--") (hoption : looksLikeOption word)
    (hname : findOptions.meaning (word.toList.drop 1) = .flag name) (hnew : name ∉ sorted.flags) :
    sortWords findOptions sorted ((if on then [word] else []) ++ rest) =
      sortWords findOptions
        { sorted with flags := (if on then [name] else []) ++ sorted.flags } rest := by
  cases on with
  | false => rfl
  | true =>
    show sortWords findOptions sorted (word :: rest) = _
    rw [sortWords, if_neg hword, if_pos hoption, hname]
    simp [hnew]

/-- The value of an option may be any text if it stands in the same word. -/
theorem meaning_default (text : String) :
    findOptions.meaning (("--default=" ++ text).toList.drop 1) = .value "default" text := by
  have hsplit : splitLong ("default=".toList ++ text.toList) = ("default", some text) := by
    simp [splitLong]
  rw [String.toList_append]
  show findOptions.meaning ('-' :: ("default=".toList ++ text.toList)) = _
  rw [Options.meaning, hsplit]
  rfl

theorem sortWords_default {sorted : Words} (hnew : sorted.values = []) (default : Option String)
    (rest : List String) :
    sortWords findOptions sorted ((default.map ("--default=" ++ ·)).toList ++ rest) =
      sortWords findOptions
        { sorted with values := (default.map ("default", ·)).toList } rest := by
  obtain ⟨operands, flags, values⟩ := sorted
  obtain rfl : values = [] := hnew
  cases default with
  | none => rfl
  | some text =>
    have hword : "--default=" ++ text ≠ "--" := by simp [← String.toList_inj]
    have hoption : looksLikeOption ("--default=" ++ text) := by simp [looksLikeOption]
    show sortWords findOptions _ (("--default=" ++ text) :: rest) = _
    rw [sortWords, if_neg hword, if_pos hoption, meaning_default]
    rfl

/-- Any search can be asked for. -/
theorem parse_findWords (json path : String) (paths : List String) (first unique : Bool)
    (default : Option String) (join : Bool) :
    parse (findWords json (path :: paths) first unique default join) =
      some (.find json (path :: paths) first unique default join) := by
  have hflags : ∀ words, sortWords findOptions ⟨[], [], []⟩
      ((if first then ["--first"] else []) ++ ((if unique then ["--unique"] else []) ++
        ((if join then ["--join"] else []) ++ words))) =
      sortWords findOptions ⟨[], (if join then ["join"] else []) ++
        ((if unique then ["unique"] else []) ++ ((if first then ["first"] else []) ++ [])),
        []⟩ words := by
    intro words
    rw [sortWords_flag "--first" "first" first _ (by decide) rfl rfl List.not_mem_nil,
      sortWords_flag "--unique" "unique" unique _ (by decide) rfl rfl (by cases first <;> simp),
      sortWords_flag "--join" "join" join _ (by decide) rfl rfl
        (by cases first <;> cases unique <;> simp)]
  have hrest : ∀ flags, sortWords findOptions ⟨[], flags, (default.map ("default", ·)).toList⟩
      ("--" :: json :: path :: paths) =
        some ⟨json :: path :: paths, flags, (default.map ("default", ·)).toList⟩ := by
    intro flags
    rw [sortWords, if_pos rfl, List.nil_append]
  have hcommand : looksLikeOption "find" = false := by decide
  rw [findWords, parse, hcommand, optionsOf?]
  simp only [Bool.false_eq_true, if_false, Option.bind_eq_bind, Option.bind_some]
  change (sortWords findOptions _ _).bind _ = _
  rw [hflags, sortWords_default rfl, hrest]
  cases default <;> cases first <;> cases unique <;> cases join <;> simp [command?]

/-! ### What is printed -/

/-- Without matches the default is left, or the null in the place of the first match. -/
theorem refine_nil (first unique : Bool) (text : String) :
    refine [] first unique (some text) = [if first then .null else Json.readOrText text] := by
  cases first <;> cases unique <;> rfl

/-- With matches the default has no effect. -/
theorem refine_of_ne_nil (h : values ≠ []) (first unique : Bool) (text : String) :
    refine values first unique (some text) = refine values first unique none := by
  have hkept : ∀ kept : List Json, kept ≠ [] → Query.orDefault kept text = kept := by
    intro kept hkept
    obtain ⟨w, rest, rfl⟩ := List.exists_cons_of_ne_nil hkept
    exact Query.orDefault_cons w rest text
  have hunique : (if unique then Json.unique values else values) ≠ [] := by
    split
    · exact Json.unique_ne_nil h
    · exact h
  refine hkept _ ?_
  split
  · exact List.cons_ne_nil _ _
  · exact hunique

/-- What a search without rows prints. -/
theorem execute_find (hargs : parse args = some (.find json paths first unique default false))
    (hdocument : document input json = .ok v) (hcolumns : Query.findMulti v paths = .ok columns) :
    execute args input =
      ⟨0, (Json.array (refine columns.flatten first unique default)).pretty ++ "\n", ""⟩ := by
  rw [execute, hargs]
  simp only [Command.run, hdocument, hcolumns, bind, Except.bind, pure, Except.pure,
    Bool.false_eq_true, if_false]

theorem distinct_document (h : document input json = .ok v) : v.Distinct := by
  unfold document at h
  split at h
  · rename_i hread
    cases h
    exact Json.distinct_of_read? hread
  · cases h

/-- A search does not depend on the default if something is left without it. -/
theorem run_find_default {text : String} (hdocument : document input json = .ok v)
    (h : ∀ columns, Query.findMulti v paths = .ok columns → columns.flatten ≠ []) :
    Command.run input (.find json paths first unique (some text) join) =
      Command.run input (.find json paths first unique none join) := by
  simp only [Command.run, hdocument, bind, Except.bind]
  cases hcolumns : Query.findMulti v paths with
  | error e => rfl
  | ok columns =>
    dsimp only
    rw [refine_of_ne_nil (h columns hcolumns)]

/-- Where no path of a search matches anything, the default alone is printed, but with the option
for the first match a null. Where a path matches something, the same is printed without the default,
whatever the other options are. And every search can be asked for in this way. -/
theorem find_default (hdocument : document input json = .ok v) (paths : List String) :
    (∀ args first unique text, parse args = some (.find json paths first unique (some text) false) →
        (∀ path ∈ paths, Query.find v path = .ok []) →
        execute args input =
          ⟨0, (Json.array [if first then .null else Json.readOrText text]).pretty ++ "\n", ""⟩) ∧
      (∀ args args' first unique text join,
        parse args = some (.find json paths first unique (some text) join) →
        parse args' = some (.find json paths first unique none join) →
        (∃ path ∈ paths, ∃ w rest, Query.find v path = .ok (w :: rest)) →
        execute args input = execute args' input) ∧
      (paths ≠ [] → ∀ first unique default join, ∃ args,
        parse args = some (.find json paths first unique default join)) := by
  have hv := distinct_document hdocument
  refine ⟨fun args first unique text hargs hnone ↦ ?_,
    fun args args' first unique text join hargs hargs' hsome ↦ ?_,
    fun hne first unique default join ↦ ?_⟩
  · rw [execute_find hargs hdocument (Query.findMulti_of_nil hv hnone), List.flatten_replicate_nil,
      refine_nil]
  · obtain ⟨path, hpath, w, rest, hfind⟩ := hsome
    rw [execute, execute, hargs, hargs']
    dsimp only
    rw [run_find_default hdocument fun columns hcolumns ↦
      Query.flatten_ne_nil hv hcolumns hpath hfind]
  · obtain ⟨path, rest, rfl⟩ := List.exists_cons_of_ne_nil hne
    exact ⟨_, parse_findWords json path rest first unique default join⟩

/-- A default instead of nothing, the null of the first match instead of the default, and a default
that is not needed since the last path matches. -/
theorem find_default_spared :
    execute ["find", "--unique", "--default=[]", "--", "[[]]", "a", "b"] "" =
        ⟨0, "[\n  []\n]\n", ""⟩ ∧
      execute ["find", "--first", "--default=[]", "--", "[[]]", "a"] "" =
        ⟨0, "[\n  null\n]\n", ""⟩ ∧
      execute ["find", "--first", "--default=[]", "--", "[[]]", "a", "[0]"] "" =
        execute ["find", "--first", "--", "[[]]", "a", "[0]"] "" ∧
      ∃ args, parse args =
        some (.find "[[]]" ["a"] true true (some "none") true) := by
  have hdocument : document "" "[[]]" = .ok (.array [.array []]) := by cbv
  have hempty : Json.readOrText "[]" = .array [] := by cbv
  obtain ⟨hnone, -, -⟩ := find_default hdocument ["a", "b"]
  obtain ⟨hnull, -, hasked⟩ := find_default hdocument ["a"]
  obtain ⟨-, hsome, -⟩ := find_default hdocument ["a", "[0]"]
  have hfind : ∀ path ∈ ["a", "b"], Query.find (.array [.array []]) path = .ok [] := by
    simp only [List.mem_cons, List.not_mem_nil, or_false, forall_eq_or_imp, forall_eq]
    exact ⟨rfl, rfl⟩
  refine ⟨?_, ?_, ?_, hasked (List.cons_ne_nil _ _) true true _ true⟩
  · refine (hnone _ false true "[]" (parse_findWords _ "a" ["b"] false true (some "[]") false)
      hfind).trans ?_
    rw [hempty]
    rfl
  · exact hnull _ true false "[]" (parse_findWords _ "a" [] true false (some "[]") false)
      fun path hpath ↦ hfind path (List.mem_cons.2 (.inl (List.mem_singleton.1 hpath)))
  · exact hsome _ _ true false "[]" false
      (parse_findWords _ "a" ["[0]"] true false (some "[]") false)
      (parse_findWords _ "a" ["[0]"] true false none false)
      ⟨"[0]", by simp, .array [], [], rfl⟩

/-- Nothing is matched, and with the option for the first match the default is not printed. -/
theorem null_without_match :
    parse ["find", "--first", "--default=[]", "--", "[]", "a"] =
        some (.find "[]" ["a"] true false (some "[]") false) ∧
      document "" "[]" = .ok (.array []) ∧ Query.find (.array []) "a" = .ok [] ∧
      execute ["find", "--first", "--default=[]", "--", "[]", "a"] "" ≠
        ⟨0, (Json.array [Json.readOrText "[]"]).pretty ++ "\n", ""⟩ := by
  have hargs : parse ["find", "--first", "--default=[]", "--", "[]", "a"] =
      some (.find "[]" ["a"] true false (some "[]") false) :=
    parse_findWords _ "a" [] true false (some "[]") false
  have hdocument : document "" "[]" = .ok (.array []) := by cbv
  have hempty : Json.readOrText "[]" = .array [] := by cbv
  have hcolumns : Query.findMulti (.array []) ["a"] = .ok [[]] := rfl
  refine ⟨hargs, hdocument, rfl, fun h ↦ ?_⟩
  rw [execute_find hargs hdocument hcolumns, hempty] at h
  exact absurd (congrArg Outcome.output h) (by decide)

end CommandLine

end DocPath

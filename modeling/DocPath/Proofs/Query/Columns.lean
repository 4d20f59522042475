import DocPath.Proofs.Tree.Values
import DocPath.Query

/-!
# Columns

Several paths are looked up one after the other in one tree, which keeps the slots of the results
that it has dropped. Each of them gives the column that it gives on its own, in a new tree
(`findMulti_eq_mapM`), since what a query gives is told by the document.

Columns of any lengths stand side by side in rows (`Aligned`), and a row is an object with the paths
as its keys, in which a path that is repeated has one entry (`Keyed`). `findJoin_columns` puts this
together.
-/

namespace DocPath

namespace Entries

variable {pairs : List (String × Json)}

theorem ofList_append (pairs : List (String × Json)) (pair : String × Json) :
    ofList (pairs ++ [pair]) = (ofList pairs).insert pair.1 pair.2 := by
  rw [ofList, List.foldl_append]
  rfl

/-- The keys are those of the pairs, in the order in which they come up first. -/
theorem map_fst_ofList (pairs : List (String × Json)) :
    (ofList pairs).map Prod.fst = (pairs.map Prod.fst).eraseDups := by
  induction pairs using List.reverseRecOn with
  | nil => rfl
  | append_singleton pairs pair ih =>
    rw [ofList_append, map_fst_insert, ih, List.map_append, List.eraseDups_append]
    by_cases hkey : pair.1 ∈ pairs.map Prod.fst <;>
      simp [hkey, List.removeAll, List.eraseDups_cons]

/-- Where no two pairs have the same key and different values, every pair is an entry. -/
theorem get?_ofList (hpairs : ∀ pair ∈ pairs, ∀ other ∈ pairs, pair.1 = other.1 → pair.2 = other.2)
    {pair : String × Json} (h : pair ∈ pairs) : (ofList pairs).get? pair.1 = some pair.2 := by
  induction pairs using List.reverseRecOn with
  | nil => cases h
  | append_singleton pairs last ih =>
    rw [ofList_append]
    have hlast : last ∈ pairs ++ [last] := List.mem_append_right _ (List.mem_singleton_self last)
    by_cases hkey : last.1 = pair.1
    · rw [hkey, get?_insert_self, hpairs last hlast pair h hkey]
    · rw [get?_insert_of_ne _ _ hkey]
      refine ih (fun pair hpair other hother ↦ ?_) ?_
      · exact hpairs pair (List.mem_append_left _ hpair) other (List.mem_append_left _ hother)
      · refine (List.mem_append.1 h).resolve_right fun h ↦ hkey ?_
        rw [List.mem_singleton.1 h]

end Entries

namespace Query

variable {v : Json} {t : Tree} {columns : List (List Json)} {paths : List String}

/-! ### Columns -/

/-- What a query gives is told by the value that it is put to. -/
theorem find_eq (hv : v.Distinct) (path : String) :
    find v path = (Path.parse path).map fun p ↦ p.values .builtin v := by
  have hvalues := Tree.findValues_eq_values (Tree.sound_ofJson .builtin hv)
    Registry.coherent_builtin path
  rw [Tree.document_ofJson] at hvalues
  have hfind : find v path = ((Tree.ofJson .builtin v).findValues path).map Prod.fst := by
    unfold find
    cases (Tree.ofJson .builtin v).findValues path <;> rfl
  exact hfind.trans hvalues

theorem findEach_cons (t : Tree) (path : String) (rest : List String) :
    findEach t (path :: rest) = (t.findValues path).bind fun found ↦
      (findEach found.2 rest).map (found.1 :: ·) := by
  cases hfound : t.findValues path with
  | error e => simp [findEach, hfound, bind, Except.bind]
  | ok found =>
    cases hrest : findEach found.2 rest <;>
      simp [findEach, hfound, hrest, bind, Except.bind, Except.map, pure, Except.pure]

/-- In a tree each path gives what it gives in a new tree of the same document, whatever is looked
up before it. -/
theorem findEach_eq_mapM (ht : t.Sound) (hregistry : t.registry = .builtin) (paths : List String) :
    findEach t paths = paths.mapM (find t.document) := by
  induction paths generalizing t with
  | nil => rfl
  | cons path rest ih =>
    have hfind : find t.document path = (t.findValues path).map Prod.fst := by
      rw [find_eq (v := t.document) ht.distinct_root,
        Tree.findValues_eq_values ht (hregistry ▸ Registry.coherent_builtin), hregistry]
    rw [findEach_cons, List.mapM_cons, hfind]
    cases hfound : t.findValues path with
    | error e => rfl
    | ok found =>
      have hleads := Tree.leads_findValues hfound ht
      have hdocument : found.2.document = t.document :=
        congrArg Node.toJson (Tree.root_findValues hfound)
      have hrest := ih (hleads.sound ht) (hleads.registry_eq.trans hregistry)
      rw [hdocument] at hrest
      dsimp only [Except.bind, Except.map]
      rw [hrest]
      cases rest.mapM (find t.document) <;> rfl

theorem findMulti_eq_mapM (hv : v.Distinct) (paths : List String) :
    findMulti v paths = paths.mapM (find v) := by
  have heach := findEach_eq_mapM (Tree.sound_ofJson .builtin hv) rfl paths
  rwa [Tree.document_ofJson] at heach

/-! ### Rows -/

/-- Columns side by side: there are as many rows as the longest column has values, and each of them
has the values of all columns at its position, with null where a column has ended. -/
structure Aligned (columns rows : List (List Json)) : Prop where
  length_le : ∀ column ∈ columns, column.length ≤ rows.length
  longest : rows ≠ [] → ∃ column ∈ columns, column.length = rows.length
  length_row : ∀ row ∈ rows, row.length = columns.length
  entry : ∀ {i j : Nat} {row column : List Json}, rows[i]? = some row → columns[j]? = some column →
    row[j]? = some (column.getD i .null)

theorem length_rows (columns : List (List Json)) :
    (rows columns).length = ((columns.map List.length).max?).getD 0 := by
  rw [rows, List.length_map, List.length_range]
  exact List.foldl_max.trans (Nat.zero_max _)

theorem length_le_of_mem {column : List Json} (h : column ∈ columns) :
    column.length ≤ (rows columns).length := by
  rw [length_rows]
  have hmem : column.length ∈ columns.map List.length := List.mem_map_of_mem h
  cases hmax : (columns.map List.length).max? with
  | none =>
    rw [List.max?_eq_none_iff.1 hmax] at hmem
    cases hmem
  | some longest => exact (List.max?_eq_some_iff.1 hmax).2 _ hmem

theorem exists_longest (h : rows columns ≠ []) :
    ∃ column ∈ columns, column.length = (rows columns).length := by
  rw [← List.length_pos_iff, length_rows] at h
  rw [length_rows]
  cases hmax : (columns.map List.length).max? with
  | none => simp [hmax] at h
  | some longest => exact List.mem_map.1 (List.max?_eq_some_iff.1 hmax).1

/-- The row at a position has the values of the columns at that position. -/
theorem eq_of_getElem?_rows {i : Nat} {row : List Json} (h : (rows columns)[i]? = some row) :
    row = columns.map fun column ↦ column.getD i .null := by
  rw [rows, List.getElem?_map] at h
  obtain ⟨k, hk, rfl⟩ := Option.map_eq_some_iff.1 h
  obtain ⟨-, rfl⟩ := List.getElem?_eq_some_iff.1 hk
  rw [List.getElem_range]

theorem aligned_rows (columns : List (List Json)) : Aligned columns (rows columns) where
  length_le _ hcolumn := length_le_of_mem hcolumn
  longest := exists_longest
  length_row _ hrow := length_of_mem_rows hrow
  entry {i j row column} hrow hcolumn := by
    rw [eq_of_getElem?_rows hrow, List.getElem?_map, hcolumn]
    rfl

/-- A row as an object: its keys are the paths in the order in which they come up first, and every
path leads to its value in the row, each time that it is given. -/
structure Keyed (paths : List String) (row : List Json) (entries : Entries) : Prop where
  keys : entries.map Prod.fst = paths.eraseDups
  entry : ∀ {j : Nat} {path : String}, paths[j]? = some path → entries.get? path = row[j]?

/-- Since equal paths give equal columns, a row is the same under a path each time it is given. -/
theorem keyed_ofList (hcolumns : List.Forall₂ (fun path column ↦ find v path = .ok column) paths
    columns) {row : List Json} (hrow : row ∈ rows columns) :
    Keyed paths row (Entries.ofList (paths.zip row)) := by
  have hlength : paths.length = row.length :=
    hcolumns.length_eq.trans (length_of_mem_rows hrow).symm
  obtain ⟨i, -, rfl⟩ := List.mem_map.1 hrow
  have hpairs : ∀ pair ∈ paths.zip (columns.map fun column ↦ column.getD i .null),
      (find v pair.1).map (fun column ↦ column.getD i .null) = .ok pair.2 := by
    rw [List.zip_map_right, List.forall_mem_map]
    intro pair hpair
    have hcolumn : find v pair.1 = .ok pair.2 := List.forall₂_zip hcolumns hpair
    exact congrArg (Except.map _) hcolumn
  constructor
  case keys => rw [Entries.map_fst_ofList, List.map_fst_zip hlength.le]
  case entry =>
    intro j path hpath
    obtain ⟨hj, -⟩ := List.getElem?_eq_some_iff.1 hpath
    obtain ⟨w, hw⟩ : ∃ w, (columns.map fun column ↦ column.getD i .null)[j]? = some w :=
      ⟨_, List.getElem?_eq_getElem (hlength ▸ hj)⟩
    have hpair : (path, w) ∈ paths.zip (columns.map fun column ↦ column.getD i .null) :=
      List.mem_of_getElem? (List.getElem?_zip_eq_some.2 ⟨hpath, hw⟩)
    rw [hw]
    refine Entries.get?_ofList (fun pair hpair other hother hkey ↦ ?_) hpair
    have hvalue := hpairs pair hpair
    rw [hkey, hpairs other hother] at hvalue
    exact (Except.ok.inj hvalue).symm

/-! ### All paths or none -/

section

variable {α β ε : Type} {f : α → Except ε β} {l : List α}

theorem forall₂_of_mapM {bs : List β} (h : l.mapM f = .ok bs) :
    List.Forall₂ (fun a b ↦ f a = .ok b) l bs := by
  induction l generalizing bs with
  | nil =>
    cases h
    exact .nil
  | cons a rest ih =>
    rw [List.mapM_cons] at h
    cases ha : f a with
    | error e =>
      rw [ha] at h
      cases h
    | ok b =>
      cases hrest : rest.mapM f with
      | error e =>
        rw [ha, hrest] at h
        cases h
      | ok others =>
        rw [ha, hrest] at h
        cases h
        exact .cons ha (ih hrest)

theorem exists_of_mapM_error {e : ε} (h : l.mapM f = .error e) : ∃ a ∈ l, f a = .error e := by
  induction l with
  | nil => cases h
  | cons a rest ih =>
    rw [List.mapM_cons] at h
    cases ha : f a with
    | error e' =>
      rw [ha] at h
      cases h
      exact ⟨a, List.mem_cons_self .., ha⟩
    | ok b =>
      cases hrest : rest.mapM f with
      | error e' =>
        rw [ha, hrest] at h
        cases h
        obtain ⟨a', ha', he⟩ := ih hrest
        exact ⟨a', List.mem_cons_of_mem a ha', he⟩
      | ok others =>
        rw [ha, hrest] at h
        cases h

end

theorem parse_of_find_error (hv : v.Distinct) {path : String} {e : PathError}
    (h : find v path = .error e) : Path.parse path = .error e := by
  rw [find_eq hv] at h
  cases hp : Path.parse path with
  | error e' =>
    rw [hp] at h
    exact congrArg Except.error (Except.error.inj h)
  | ok p =>
    rw [hp] at h
    cases h

theorem findJoin_eq (v : Json) (paths : List String) :
    findJoin v paths = (findMulti v paths).map rows := by
  unfold findJoin
  cases findMulti v paths <;> rfl

theorem findJoinHash_eq (v : Json) (paths : List String) :
    findJoinHash v paths = (findMulti v paths).map fun columns ↦
      (rows columns).map fun row ↦ Entries.ofList (paths.zip row) := by
  unfold findJoinHash
  rw [findJoin_eq]
  cases findMulti v paths <;> rfl

/-- Where something is no path, it is found out. -/
theorem exists_findMulti_error (hv : v.Distinct) {path : String} {e : PathError}
    (hpath : path ∈ paths) (he : Path.parse path = .error e) :
    ∃ e', findMulti v paths = .error e' := by
  cases hmulti : findMulti v paths with
  | error e' => exact ⟨e', rfl⟩
  | ok columns =>
    rw [findMulti_eq_mapM hv] at hmulti
    have hcolumns := forall₂_of_mapM hmulti
    obtain ⟨i, hi, rfl⟩ := List.getElem_of_mem hpath
    have hcolumn : find v paths[i] = .ok _ := hcolumns.get hi (hcolumns.length_eq ▸ hi)
    rw [find_eq hv, he] at hcolumn
    cases hcolumn

/-- Several paths give the columns that each of them gives on its own. These stand side by side in
rows, and every row is an object with the paths as its keys. Where something is no path there is no
result, for the reason that something there is no path. -/
theorem findJoin_columns (hv : v.Distinct) (paths : List String) :
    ((∀ path ∈ paths, ∃ p, Path.parse path = .ok p) →
      ∃ columns joined hashes, findMulti v paths = .ok columns ∧ findJoin v paths = .ok joined ∧
        findJoinHash v paths = .ok hashes ∧
        List.Forall₂ (fun path column ↦ find v path = .ok column) paths columns ∧
        Aligned columns joined ∧ List.Forall₂ (Keyed paths) joined hashes) ∧
      ((∃ path ∈ paths, ∃ e, Path.parse path = .error e) →
        ∃ path ∈ paths, ∃ e, Path.parse path = .error e ∧ findMulti v paths = .error e ∧
          findJoin v paths = .error e ∧ findJoinHash v paths = .error e) := by
  rw [findJoin_eq, findJoinHash_eq]
  constructor
  · intro hpaths
    cases hmulti : findMulti v paths with
    | error e =>
      rw [findMulti_eq_mapM hv] at hmulti
      obtain ⟨path, hpath, he⟩ := exists_of_mapM_error hmulti
      obtain ⟨p, hp⟩ := hpaths path hpath
      rw [parse_of_find_error hv he] at hp
      cases hp
    | ok columns =>
      rw [findMulti_eq_mapM hv] at hmulti
      have hcolumns := forall₂_of_mapM hmulti
      refine ⟨columns, _, _, rfl, rfl, rfl, hcolumns, aligned_rows columns, ?_⟩
      rw [List.forall₂_map_right_iff, List.forall₂_same]
      exact fun row hrow ↦ keyed_ofList hcolumns hrow
  · rintro ⟨path, hpath, e, he⟩
    obtain ⟨e', hmulti⟩ := exists_findMulti_error hv hpath he
    rw [hmulti]
    rw [findMulti_eq_mapM hv] at hmulti
    obtain ⟨path', hpath', he'⟩ := exists_of_mapM_error hmulti
    exact ⟨path', hpath', e', parse_of_find_error hv he', rfl, rfl, rfl⟩

/-- A column of sorted items, a shorter one and the first one again, and a bracket that is no path
behind one. -/
theorem findJoin_columns_sorted :
    (∃ first second, findJoin (.object [("a", .array [.ofNat 2, .ofNat 1]), ("b", .bool true)])
          ["a.\x7bsort\x7d.*", "b", "a.\x7bsort\x7d.*"] =
        .ok [[.ofNat 1, .bool true, .ofNat 1], [.ofNat 2, .null, .ofNat 2]] ∧
      findJoinHash (.object [("a", .array [.ofNat 2, .ofNat 1]), ("b", .bool true)])
          ["a.\x7bsort\x7d.*", "b", "a.\x7bsort\x7d.*"] = .ok [first, second] ∧
      first.map Prod.fst = ["a.\x7bsort\x7d.*", "b"] ∧ second.get? "b" = some .null) ∧
      ∃ e, findJoin (.object [("a", .array [.ofNat 2, .ofNat 1]), ("b", .bool true)]) ["b", "["] =
        .error e := by
  have hv : (Json.object [("a", .array [.ofNat 2, .ofNat 1]), ("b", .bool true)]).Distinct := by
    simp
  have hsort : Path.parse "a.\x7bsort\x7d.*" = .ok ⟨"a.\x7bsort\x7d.*",
      [⟨"a", .key "a", none, false⟩, ⟨"\x7bsort\x7d", .special "sort" [], none, false⟩,
        ⟨"*", .any, none, false⟩]⟩ := rfl
  have hb : Path.parse "b" = .ok ⟨"b", [⟨"b", .key "b", none, false⟩]⟩ := rfl
  have hbracket : ∃ e, Path.parse "[" = .error e := ⟨_, rfl⟩
  constructor
  · obtain ⟨columns, joined, hashes, hmulti, hjoin, hhash, hcolumns, -, hkeyed⟩ :=
      (findJoin_columns hv ["a.\x7bsort\x7d.*", "b", "a.\x7bsort\x7d.*"]).1 (by simp [hsort, hb])
    have hsorted : find (.object [("a", .array [.ofNat 2, .ofNat 1]), ("b", .bool true)])
        "a.\x7bsort\x7d.*" = .ok [.ofNat 1, .ofNat 2] := by
      rw [find_eq hv, hsort]
      rfl
    have hshort : find (.object [("a", .array [.ofNat 2, .ofNat 1]), ("b", .bool true)]) "b" =
        .ok [.bool true] := by
      rw [find_eq hv, hb]
      rfl
    obtain rfl : columns = [[.ofNat 1, .ofNat 2], [.bool true], [.ofNat 1, .ofNat 2]] :=
      List.right_unique_forall₂' (fun _ _ _ h h' ↦ Except.ok.inj (h.symm.trans h')) hcolumns
        (.cons hsorted (.cons hshort (.cons hsorted .nil)))
    rw [findJoin_eq, hmulti] at hjoin
    obtain rfl := Except.ok.inj hjoin
    obtain ⟨first, _, hfirst, hrest, rfl⟩ := List.forall₂_cons_left_iff.1 hkeyed
    obtain ⟨second, _, hsecond, hnil, rfl⟩ := List.forall₂_cons_left_iff.1 hrest
    obtain rfl := List.forall₂_nil_left_iff.1 hnil
    refine ⟨first, second, ?_, hhash, hfirst.keys, ?_⟩
    · rw [findJoin_eq, hmulti]
      rfl
    · exact hsecond.entry (j := 1) rfl
  · obtain ⟨-, -, e, -, -, hjoin, -⟩ := (findJoin_columns hv ["b", "["]).2
      ⟨"[", by simp, hbracket⟩
    exact ⟨e, hjoin⟩

end Query

end DocPath

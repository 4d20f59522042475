import DocPath.Json.Reader
import Mathlib.Data.List.Nodup
import Mathlib.Data.List.Perm.Basic

/-!
# Values with distinct keys

Objects are lists of entries, and `Json.Distinct` says that no object in a value has a key twice.
Entries that are put into an object keep the property (`Entries.distinct_insert`), and what is read
from a text has it (`distinct_of_read?`). Results of operations have it too, by the definition of an
operation (`Operation.distinct_call`).
-/

namespace DocPath

namespace Json

/-- What holds of a container if it holds of all its parts holds of every value. -/
@[elab_as_elim]
theorem induction_parts {motive : Json → Prop} (scalar : ∀ s, motive (.scalar s))
    (array : ∀ items, (∀ v ∈ items, motive v) → motive (.array items))
    (object : ∀ entries, (∀ entry ∈ entries, motive entry.2) → motive (.object entries)) :
    (v : Json) → motive v
  | .scalar s => scalar s
  | .array items => array items fun v _ ↦ induction_parts scalar array object v
  | .object entries =>
    object entries fun entry _ ↦ induction_parts scalar array object entry.2
termination_by v => sizeOf v
decreasing_by
  · rename_i hmem
    have := List.sizeOf_lt_of_mem hmem
    simp only [Json.array.sizeOf_spec]
    omega
  · rename_i hmem
    have := List.sizeOf_lt_of_mem hmem
    have : sizeOf entry = 1 + sizeOf entry.1 + sizeOf entry.2 := by cases entry; rfl
    simp only [Json.object.sizeOf_spec]
    omega

end Json

/-! ### Entries -/

namespace Entries

theorem mem_insert {entries : Entries} {key : String} {value : Json} {entry : String × Json}
    (h : entry ∈ entries.insert key value) : entry = (key, value) ∨ entry ∈ entries := by
  induction entries with
  | nil => exact .inl (by simpa [insert] using h)
  | cons e rest ih =>
    by_cases hk : e.1 = key
    · rw [insert, if_pos hk, hk, List.mem_cons] at h
      exact h.imp_right (List.mem_cons_of_mem _)
    · rw [insert, if_neg hk, List.mem_cons] at h
      rcases h with rfl | h
      · exact .inr (List.mem_cons_self ..)
      · exact (ih h).imp_right (List.mem_cons_of_mem _)

/-- The keys after an insertion: those before, and the new one at the end if it is new. -/
theorem map_fst_insert (entries : Entries) (key : String) (value : Json) :
    (entries.insert key value).map Prod.fst =
      if key ∈ entries.map Prod.fst then entries.map Prod.fst
      else entries.map Prod.fst ++ [key] := by
  induction entries with
  | nil => simp [insert]
  | cons e rest ih =>
    by_cases hk : e.1 = key
    · simp [insert, hk]
    · simp only [insert, hk, if_false, List.map_cons, ih, List.mem_cons, Ne.symm hk, false_or]
      split <;> simp

theorem nodup_insert {entries : Entries} (key : String) (value : Json)
    (h : (entries.map Prod.fst).Nodup) : ((entries.insert key value).map Prod.fst).Nodup := by
  rw [map_fst_insert]
  split
  · exact h
  · rename_i hkey
    exact h.append (List.nodup_singleton _) (List.disjoint_singleton.2 hkey)

/-- Inserting a value with distinct keys keeps an object's keys distinct at every depth. -/
theorem distinct_insert {entries : Entries} {key : String} {value : Json}
    (h : (Json.object entries).Distinct) (hv : value.Distinct) :
    (Json.object (entries.insert key value)).Distinct := by
  rw [Json.distinct_object] at h ⊢
  refine ⟨nodup_insert key value h.1, fun entry hentry ↦ ?_⟩
  rcases mem_insert hentry with rfl | hmem
  · exact hv
  · exact h.2 entry hmem

theorem distinct_ofList {pairs : List (String × Json)} (h : ∀ pair ∈ pairs, pair.2.Distinct) :
    (Json.object (ofList pairs)).Distinct := by
  suffices hfold : ∀ entries : Entries, (Json.object entries).Distinct →
      (Json.object (pairs.foldl (fun entries pair ↦ Entries.insert entries pair.1 pair.2)
        entries)).Distinct
    from hfold [] (by simp)
  induction pairs with
  | nil => exact fun _ hentries ↦ hentries
  | cons pair rest ih =>
    intro entries hentries
    rw [List.foldl_cons]
    exact ih (fun p hp ↦ h p (List.mem_cons_of_mem _ hp)) _
      (distinct_insert hentries (h pair (List.mem_cons_self ..)))

theorem get?_eq_none {entries : Entries} {key : String} (h : key ∉ entries.map Prod.fst) :
    entries.get? key = none := by
  induction entries with
  | nil => rfl
  | cons entry rest ih =>
    rw [List.map_cons, List.mem_cons, not_or] at h
    rw [get?, if_neg (Ne.symm h.1), ih h.2]

/-- A name of an entry has a value. -/
theorem exists_get? {entries : Entries} {key : String} (h : key ∈ entries.map Prod.fst) :
    ∃ v, entries.get? key = some v := by
  induction entries with
  | nil => cases h
  | cons entry rest ih =>
    by_cases heq : entry.1 = key
    · exact ⟨entry.2, if_pos heq⟩
    · obtain ⟨v, hv⟩ := ih ((List.mem_cons.1 h).resolve_left (Ne.symm heq))
      exact ⟨v, (if_neg heq).trans hv⟩

theorem insert_append_of_notMem {before after : Entries} {k : String} {v w : Json}
    (h : k ∉ before.map Prod.fst) :
    (before ++ (k, v) :: after : Entries).insert k w = before ++ (k, w) :: after := by
  induction before with
  | nil => simp [insert]
  | cons entry rest ih =>
    rw [List.map_cons, List.mem_cons, not_or] at h
    simp [insert, Ne.symm h.1, ih h.2]

theorem insert_of_notMem {entries : Entries} {k : String} {v : Json}
    (h : k ∉ entries.map Prod.fst) : entries.insert k v = entries ++ [(k, v)] := by
  induction entries with
  | nil => rfl
  | cons entry rest ih =>
    rw [List.map_cons, List.mem_cons, not_or] at h
    simp [insert, Ne.symm h.1, ih h.2]

end Entries

/-! ### Values that are read -/

namespace Json

/-- With a number of steps, the readers give values with distinct keys only. -/
private structure ReadsDistinct (steps : Nat) : Prop where
  value {depth text v rest} : scanValue steps depth text = some (v, rest) → v.Distinct
  items {depth text vs rest} :
    scanItems steps depth text = some (vs, rest) → ∀ v ∈ vs, v.Distinct
  entry {depth text e rest} : scanEntry steps depth text = some (e, rest) → e.2.Distinct
  entries {depth text es rest} :
    scanEntries steps depth text = some (es, rest) → ∀ e ∈ es, e.2.Distinct

namespace ReadsDistinct

variable {steps depth : Nat} {text rest : List Char}

private theorem value_succ (ih : ReadsDistinct steps) {v : Json}
    (h : scanValue (steps + 1) depth text = some (v, rest)) : v.Distinct := by
  rw [scanValue] at h
  split at h
  · cases h
  · obtain ⟨_, -, h⟩ := Option.bind_eq_some_iff.1 h
    cases h
    exact distinct_scalar _
  · obtain ⟨_, -, h⟩ := Option.bind_eq_some_iff.1 h
    cases h
    exact distinct_scalar _
  · obtain ⟨_, -, h⟩ := Option.bind_eq_some_iff.1 h
    cases h
    exact distinct_scalar _
  · obtain ⟨_, -, h⟩ := Option.bind_eq_some_iff.1 h
    cases h
    exact distinct_scalar _
  · split at h
    · cases h
    · split at h
      · cases h
        simp
      · obtain ⟨⟨w, _⟩, hw, h⟩ := Option.bind_eq_some_iff.1 h
        obtain ⟨⟨ws, _⟩, hws, h⟩ := Option.bind_eq_some_iff.1 h
        cases h
        exact distinct_array.2 (List.forall_mem_cons.2 ⟨ih.value hw, ih.items hws⟩)
  · split at h
    · cases h
    · split at h
      · cases h
        simp
      · obtain ⟨⟨e, _⟩, he, h⟩ := Option.bind_eq_some_iff.1 h
        obtain ⟨⟨es, _⟩, hes, h⟩ := Option.bind_eq_some_iff.1 h
        cases h
        exact Entries.distinct_ofList (List.forall_mem_cons.2 ⟨ih.entry he, ih.entries hes⟩)
  · obtain ⟨⟨_, _⟩, -, h⟩ := Option.bind_eq_some_iff.1 h
    obtain ⟨_, -, h⟩ := Option.bind_eq_some_iff.1 h
    cases h
    exact distinct_scalar _

private theorem items_succ (ih : ReadsDistinct steps) {vs : List Json}
    (h : scanItems (steps + 1) depth text = some (vs, rest)) : ∀ v ∈ vs, v.Distinct := by
  rw [scanItems] at h
  split at h
  · cases h
    simp
  · obtain ⟨⟨w, _⟩, hw, h⟩ := Option.bind_eq_some_iff.1 h
    obtain ⟨⟨ws, _⟩, hws, h⟩ := Option.bind_eq_some_iff.1 h
    cases h
    exact List.forall_mem_cons.2 ⟨ih.value hw, ih.items hws⟩
  · cases h

private theorem entry_succ (ih : ReadsDistinct steps) {e : String × Json}
    (h : scanEntry (steps + 1) depth text = some (e, rest)) : e.2.Distinct := by
  rw [scanEntry] at h
  split at h
  · obtain ⟨⟨_, _⟩, -, h⟩ := Option.bind_eq_some_iff.1 h
    simp only at h
    split at h
    · obtain ⟨⟨w, _⟩, hw, h⟩ := Option.bind_eq_some_iff.1 h
      cases h
      exact ih.value hw
    · cases h
  · cases h

private theorem entries_succ (ih : ReadsDistinct steps) {es : List (String × Json)}
    (h : scanEntries (steps + 1) depth text = some (es, rest)) : ∀ e ∈ es, e.2.Distinct := by
  rw [scanEntries] at h
  split at h
  · cases h
    simp
  · obtain ⟨⟨w, _⟩, hw, h⟩ := Option.bind_eq_some_iff.1 h
    obtain ⟨⟨ws, _⟩, hws, h⟩ := Option.bind_eq_some_iff.1 h
    cases h
    exact List.forall_mem_cons.2 ⟨ih.entry hw, ih.entries hws⟩
  · cases h

private theorem all (steps : Nat) : ReadsDistinct steps := by
  induction steps with
  | zero =>
    constructor <;> intros <;> simp_all [scanValue, scanItems, scanEntry, scanEntries]
  | succ steps ih => exact ⟨value_succ ih, items_succ ih, entry_succ ih, entries_succ ih⟩

end ReadsDistinct

/-- A value that is read has distinct keys. -/
theorem distinct_of_read? {text : String} {v : Json} (h : read? text = some v) : v.Distinct := by
  obtain ⟨⟨w, rest⟩, hw, h⟩ := Option.bind_eq_some_iff.1 h
  simp only at h
  split at h
  · cases h
    exact (ReadsDistinct.all _).value hw
  · cases h

end Json

end DocPath

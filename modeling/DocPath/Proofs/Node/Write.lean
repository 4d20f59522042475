import DocPath.Proofs.Json.Write
import DocPath.Proofs.Node.Forest

/-!
# Writing into nodes

A write at keys goes down a node one frame at a time: the frame `Opens` the node at a key if filling
it gives the key another node and leaves the other children as they are. There is such a frame
around every child (`opens_of_childAt?`), and at the end of a container for a child that is missing
(`opens_sequence_end`, `opens_map_end`).

`Written` is what a write at keys makes of a node: its value is the one `Json.writeIn` gives, the
nodes at spared positions are the same nodes, handles included, and the nodes at reached positions
keep their handles. One frame adds one key to it (`Written.open`).
-/

namespace DocPath.Node

open Operation (childWith?)
open Json (Kept Spared Reached writeIn)

/-! ### Positions -/

/-- The child that a container lists with a key. -/
def childAt? (n : Node) (key : Key) : Option Node :=
  match n, key with
  | sequence _ items, .index i => items[i]?
  | map _ entries, .name k => (entries.find? fun entry ↦ entry.1 = k).map Prod.snd
  | _, _ => none

/-- The node at the end of some keys. -/
def at? : Node → List Key → Option Node
  | n, [] => some n
  | n, key :: rest => (n.childAt? key).bind fun c ↦ c.at? rest

theorem at?_cons (n : Node) (key : Key) (rest : List Key) :
    n.at? (key :: rest) = (n.childAt? key).bind fun c ↦ c.at? rest :=
  rfl

theorem toJson_find? (entries : List (String × Node)) (k : String) :
    ((entries.find? fun entry ↦ entry.1 = k).map Prod.snd).map toJson =
      Entries.get? (entries.map fun entry ↦ (entry.1, entry.2.toJson)) k := by
  induction entries with
  | nil => rfl
  | cons entry rest ih =>
    by_cases h : entry.1 = k <;> simp [Entries.get?, h, ih]

/-- The value of a node has under a key the value of the child. -/
theorem childWith?_toJson (n : Node) (key : Key) :
    childWith? n.toJson key = (n.childAt? key).map toJson := by
  cases n with
  | scalar i s => cases key <;> rfl
  | sequence i items =>
    rw [toJson_sequence]
    cases key with
    | name k => rfl
    | index k => simp [childWith?, childAt?]
  | map i entries =>
    rw [toJson_map]
    cases key with
    | name k => simp only [childWith?, childAt?, toJson_find?]
    | index k => rfl

/-- The exact search of a node by a key of its kind of container. -/
theorem child?_eq_childAt? {n : Node} {key : Key} (hkind : n.kind = key.container)
    (hkey : key.InRange) : n.child? key true = n.childAt? key := by
  cases n with
  | scalar i s => cases key <;> cases hkind
  | sequence i items =>
    cases key with
    | name k => cases hkind
    | index k =>
      have hpos : ¬ (k : Int) < 0 := by omega
      rw [child?_sequence, Key.int?_index hkey, Option.bind_some, if_neg hpos, Int.toNat_natCast]
      rfl
  | map i entries =>
    cases key with
    | name k => rw [child?_map_exact]; rfl
    | index k => cases hkind

/-! ### Opening -/

/-- Filling the frame gives a key of a node another child, and leaves the other children as they
are. -/
structure Frame.Opens (f : Frame) (n : Node) (key : Key) : Prop where
  id : f.close.id = n.id
  put : ∀ m : Node, (f.fill m).toJson = n.toJson.put key m.toJson
  self : ∀ m : Node, (f.fill m).childAt? key = some m
  other : ∀ (m : Node) {k : Key} {d : Node}, k ≠ key → n.childAt? k = some d →
    (f.fill m).childAt? k = some d

/-- A list of entries splits at the first one with a name. -/
theorem exists_split_of_find? {entries : List (String × Node)} {k : String} {d : Node}
    (h : (entries.find? fun entry ↦ entry.1 = k).map Prod.snd = some d) :
    ∃ before after, entries = before ++ (k, d) :: after ∧ k ∉ before.map Prod.fst := by
  obtain ⟨entry, hentry, rfl⟩ := Option.map_eq_some_iff.1 h
  obtain ⟨hk, before, after, rfl, hbefore⟩ := List.find?_eq_some_iff_append.1 hentry
  obtain rfl : entry.1 = k := by simpa using hk
  refine ⟨before, after, rfl, fun hmem ↦ ?_⟩
  obtain ⟨other, hother, heq⟩ := List.mem_map.1 hmem
  simpa [heq] using hbefore other hother

theorem find?_split_of_notMem {before after : List (String × Node)} {k : String} {m : Node}
    (h : k ∉ before.map Prod.fst) :
    ((before ++ (k, m) :: after).find? fun entry ↦ entry.1 = k).map Prod.snd = some m := by
  have hnone : (before.find? fun entry ↦ decide (entry.1 = k)) = none := by
    rw [List.find?_eq_none]
    intro entry hentry
    rw [decide_eq_true_eq]
    rintro rfl
    exact h (List.mem_map_of_mem hentry)
  simp [List.find?_append, hnone]

/-- There is a frame around every child. -/
theorem opens_of_childAt? {n d : Node} {key : Key} (h : n.childAt? key = some d) :
    ∃ f : Frame, n = f.fill d ∧ f.Opens n key := by
  cases n with
  | scalar i s => cases key <;> cases h
  | sequence i items =>
    cases key with
    | name k => cases h
    | index k =>
      obtain ⟨hk, rfl⟩ := List.getElem?_eq_some_iff.1 h
      have hsplit : items = items.take k ++ items[k] :: items.drop (k + 1) := by
        rw [List.getElem_cons_drop, List.take_append_drop]
      -- filling the frame sets the item at the position
      have hset : ∀ m, items.take k ++ m :: items.drop (k + 1) = items.set k m := fun m ↦
        (List.set_eq_take_append_cons_drop.trans (if_pos hk)).symm
      refine ⟨.sequence i (items.take k) (items.drop (k + 1)), ?_, rfl, fun m ↦ ?_, fun m ↦ ?_, ?_⟩
      · rw [Frame.fill, ← hsplit]
      · rw [Frame.fill, hset, toJson_sequence, toJson_sequence, Json.put, List.length_map,
          if_pos hk, List.map_set]
      · rw [Frame.fill, hset, childAt?, List.getElem?_set_self hk]
      · intro m key d hne hd
        cases key with
        | name k' => cases hd
        | index k' =>
          have hne' : k ≠ k' := fun heq ↦ hne (heq ▸ rfl)
          rw [Frame.fill, hset, childAt?, List.getElem?_set_ne hne']
          exact hd
  | map i entries =>
    cases key with
    | index k => cases h
    | name k =>
      obtain ⟨before, after, rfl, hk⟩ := exists_split_of_find? h
      refine ⟨.map i before k after, rfl, rfl, fun m ↦ ?_, fun m ↦ find?_split_of_notMem hk, ?_⟩
      · have hk' : k ∉ (before.map fun entry ↦ (entry.1, entry.2.toJson)).map Prod.fst := by
          simpa using hk
        rw [Frame.fill, toJson_map, toJson_map, Json.put, List.map_append, List.map_cons,
          List.map_append, List.map_cons, Entries.insert_append_of_notMem hk']
      · intro m key d' hne hd'
        cases key with
        | index k' => cases hd'
        | name k' =>
          have hne' : k ≠ k' := fun heq ↦ hne (heq ▸ rfl)
          rw [← hd']
          simp [Frame.fill, childAt?, List.find?_append, hne']

/-- There is a frame at the end of a sequence, after nulls as needed. -/
theorem opens_sequence_end {i : NodeId} {items pads : List Node} {k : Nat}
    (hk : items.length ≤ k)
    (hpads : pads.map toJson = List.replicate (k - items.length) Json.null) :
    (Frame.sequence i (items ++ pads) []).Opens (.sequence i items) (.index k) := by
  have hlength : (items ++ pads).length = k := by
    have := congrArg List.length hpads
    simp only [List.length_map, List.length_replicate] at this
    rw [List.length_append]
    omega
  refine ⟨rfl, fun m ↦ ?_, fun m ↦ ?_, fun m key d _ hd ↦ ?_⟩
  · rw [Frame.fill, toJson_sequence, toJson_sequence, Json.put, List.length_map,
      if_neg (Nat.not_lt.2 hk), List.map_append, List.map_append, hpads, List.append_assoc]
    rfl
  · rw [Frame.fill, childAt?, ← hlength, List.getElem?_append_right (Nat.le_refl _)]
    simp
  · cases key with
    | name k' => cases hd
    | index k' =>
      have hlt := (List.getElem?_eq_some_iff.1 hd).1
      rw [Frame.fill, childAt?, List.append_assoc, List.getElem?_append_left hlt]
      exact hd

/-- There is a frame at the end of a map for a name that the map has not. -/
theorem opens_map_end {i : NodeId} {entries : List (String × Node)} {k : String}
    (hk : k ∉ entries.map Prod.fst) :
    (Frame.map i entries k []).Opens (.map i entries) (.name k) := by
  refine ⟨?_, fun m ↦ ?_, fun m ↦ find?_split_of_notMem hk, fun m key d hne hd ↦ ?_⟩
  · rw [Frame.close, List.append_nil]
  · have hk' : k ∉ (entries.map fun entry ↦ (entry.1, entry.2.toJson)).map Prod.fst := by
      simpa using hk
    rw [Frame.fill, toJson_map, toJson_map, Json.put, Entries.insert_of_notMem hk', List.map_append]
    rfl
  · cases key with
    | index k' => cases hd
    | name k' =>
      obtain ⟨entry, hentry, heq⟩ := Option.map_eq_some_iff.1 hd
      rw [Frame.fill, childAt?, List.find?_append, hentry, ← heq]
      rfl

/-! ### What a write makes of a node -/

/-- The node after a write of a value at keys. -/
structure Written (v : Json) (keys : List Key) (n n' : Node) : Prop where
  id : n'.id = n.id
  toJson : n'.toJson = writeIn v keys n.toJson
  spared : ∀ {position : List Key} {m : Node}, n.at? position = some m →
    Spared n.toJson keys position → n'.at? position = some m
  reached : ∀ {position : List Key} {m : Node}, n.at? position = some m →
    Reached n.toJson keys position → ∃ m', n'.at? position = some m' ∧ m'.id = m.id

/-- A node that keeps its handle and gets the value is written with no keys to go down. -/
theorem Written.nil {v : Json} {n n' : Node} (hid : n'.id = n.id) (hv : n'.toJson = v) :
    Written v [] n n' where
  id := hid
  toJson := hv
  spared _ h := by cases h
  reached := by
    intro position m hm h
    cases h
    obtain rfl : n = m := by simpa [at?] using hm
    exact ⟨n', rfl, hid⟩

/-- A write goes down through a frame. All that has to be said about the old child is that its
handle stays, and that it is written in turn where it is kept. -/
theorem Written.open {v : Json} {key : Key} {rest : List Key} {n m' : Node} {f : Frame}
    (hf : f.Opens n key) (hkind : n.toJson.kind = key.container)
    (hvalue : m'.toJson = writeIn v rest ((childWith? n.toJson key).getD .null))
    (hid : ∀ {d : Node}, n.childAt? key = some d → m'.id = d.id)
    (hkept : ∀ {d : Node}, n.childAt? key = some d → Kept rest d.toJson → Written v rest d m') :
    Written v (key :: rest) n (f.fill m') where
  id := by rw [Frame.id_fill, hf.id]
  toJson := by rw [hf.put, hvalue, Json.writeIn_cons_of_kind hkind]
  spared := by
    intro position m hm h
    cases h with
    | aside _ hne =>
      rw [at?_cons, Option.bind_eq_some_iff] at hm ⊢
      obtain ⟨d, hd, hm⟩ := hm
      exact ⟨d, hf.other m' hne hd, hm⟩
    | inside hc hkeep h =>
      -- the child that the position goes into is the one that is written in turn
      rw [at?_cons, Option.bind_eq_some_iff] at hm
      obtain ⟨d, hd, hm⟩ := hm
      rw [childWith?_toJson, hd, Option.map_some, Option.some.injEq] at hc
      subst hc
      rw [at?_cons, hf.self, Option.bind_some]
      exact (hkept hd hkeep).spared hm h
  reached := by
    intro position m hm h
    cases h with
    | here =>
      obtain rfl : n = m := by simpa [at?] using hm
      exact ⟨_, rfl, by rw [Frame.id_fill, hf.id]⟩
    | child =>
      rw [at?_cons, Option.bind_eq_some_iff] at hm
      obtain ⟨d, hd, hm⟩ := hm
      obtain rfl : d = m := by simpa [at?] using hm
      exact ⟨m', by rw [at?_cons, hf.self]; rfl, hid hd⟩
    | inside hc hkeep h =>
      rw [at?_cons, Option.bind_eq_some_iff] at hm
      obtain ⟨d, hd, hm⟩ := hm
      rw [childWith?_toJson, hd, Option.map_some, Option.some.injEq] at hc
      subst hc
      obtain ⟨m₁, hm₁, hid₁⟩ := (hkept hd hkeep).reached hm h
      exact ⟨m₁, by rw [at?_cons, hf.self, Option.bind_some, hm₁], hid₁⟩

end DocPath.Node

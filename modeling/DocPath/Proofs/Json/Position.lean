import DocPath.Proofs.Json.Write

/-!
# Positions in values

`Json.at?` is the value at the end of some keys. What a write puts there is read back
(`at?_writeIn`), and what it does not come to is read as before.

Several writes can overlap, and then a later one may spoil what an earlier one has put. It does not
if both come from one source: when every value that is written is the value that the source has at
the same keys, then what agrees with the source once does so after every such write
(`at?_writeIn_of_agree`). This is still so if the first keys are turned into those of another
container (`at?_writeIn_seat`), since a map has different names for different positions.
-/

namespace DocPath

open Operation (childWith?)

/-- The key for which a container of some kind takes a key: a map takes positions as names. -/
def Key.seat (kind : Kind) (key : Key) : Key :=
  if kind = .map then .name key.text else key

namespace Json

variable {d s v w c : Json} {key other : Key} {keys rest : List Key}

/-- The value at the end of some keys. -/
def at? : Json → List Key → Option Json
  | d, [] => some d
  | d, key :: rest => (childWith? d key).bind fun c ↦ c.at? rest

theorem at?_cons (d : Json) (key : Key) (rest : List Key) :
    d.at? (key :: rest) = (childWith? d key).bind fun c ↦ c.at? rest :=
  rfl

theorem at?_cons_eq_some_iff :
    d.at? (key :: rest) = some v ↔ ∃ c, childWith? d key = some c ∧ c.at? rest = some v := by
  rw [at?_cons, Option.bind_eq_some_iff]

theorem at?_append (d : Json) (keys rest : List Key) :
    d.at? (keys ++ rest) = (d.at? keys).bind fun c ↦ c.at? rest := by
  induction keys generalizing d with
  | nil => rfl
  | cons key keys ih =>
    rw [List.cons_append, at?_cons, at?_cons]
    cases childWith? d key with
    | none => rfl
    | some c => exact ih c

/-- Only a container of its sort has a key. -/
theorem kind_of_childWith? (h : childWith? d key = some c) : d.kind = key.container := by
  cases d <;> cases key <;> first | rfl | cases h

theorem kind_of_at?_cons (h : d.at? (key :: rest) = some v) : d.kind = key.container := by
  obtain ⟨c, hc, -⟩ := at?_cons_eq_some_iff.1 h
  exact kind_of_childWith? hc

/-! ### One key -/

/-- Putting a value under one key leaves the others. -/
theorem childWith?_put_of_ne (hne : other ≠ key) (h : childWith? d other = some c) :
    childWith? (d.put key v) other = some c := by
  cases d with
  | scalar s => cases other <;> cases h
  | object entries =>
    cases other with
    | index i => cases h
    | name k =>
      cases key with
      | index i => exact h
      | name k' =>
        have hne' : k' ≠ k := fun heq ↦ hne (heq ▸ rfl)
        exact (Entries.get?_insert_of_ne entries v hne').trans h
  | array items =>
    cases other with
    | name k => cases h
    | index i =>
      cases key with
      | name k => exact h
      | index i' =>
        have hne' : i' ≠ i := fun heq ↦ hne (heq ▸ rfl)
        have hi : items[i]? = some c := h
        obtain ⟨hlt, -⟩ := List.getElem?_eq_some_iff.1 hi
        simp only [put, childWith?]
        split
        · rwa [List.getElem?_set_ne hne']
        · rwa [List.getElem?_append_left hlt]

theorem insert_get? {entries : Entries} {k : String} (h : entries.get? k = some v) :
    entries.insert k v = entries := by
  induction entries with
  | nil => cases h
  | cons entry rest ih =>
    by_cases hk : entry.1 = k
    · rw [Entries.get?, if_pos hk, Option.some.injEq] at h
      rw [Entries.insert, if_pos hk, ← h]
    · rw [Entries.get?, if_neg hk] at h
      rw [Entries.insert, if_neg hk, ih h]

/-- Putting the value that is there changes nothing. -/
theorem put_childWith? (h : childWith? d key = some c) : d.put key c = d := by
  cases d with
  | scalar s => cases key <;> cases h
  | object entries =>
    cases key with
    | index i => cases h
    | name k => exact congrArg object (insert_get? h)
  | array items =>
    cases key with
    | name k => cases h
    | index i =>
      obtain ⟨hlt, rfl⟩ := List.getElem?_eq_some_iff.1 h
      rw [put, if_pos hlt, List.set_getElem_self]

/-! ### Writes -/

/-- A value that was written is read back. -/
theorem at?_writeIn (v : Json) (keys : List Key) (d : Json) :
    (writeIn v keys d).at? keys = some v := by
  induction keys generalizing d with
  | nil => rfl
  | cons key rest ih =>
    rw [writeIn, at?_cons, childWith?_put (d.kind_fit key), Option.bind_some, ih]

/-- Writing the value that is there changes nothing. -/
theorem writeIn_at? (h : d.at? keys = some v) : writeIn v keys d = d := by
  induction keys generalizing d with
  | nil => exact (Option.some.inj h).symm
  | cons key rest ih =>
    obtain ⟨c, hc, hv⟩ := at?_cons_eq_some_iff.1 h
    rw [writeIn_cons_of_kind (kind_of_childWith? hc), hc, Option.getD_some, ih hv,
      put_childWith? hc]

/-- A write leaves a value under a first key as it is, unless it goes down that key and changes it
there. -/
theorem at?_writeIn_cons (h : d.at? (other :: rest) = some w) (hkind : d.kind = key.container)
    (hsame : ∀ c, childWith? d other = some c → other = key →
      (writeIn v keys c).at? rest = some w) :
    (writeIn v (key :: keys) d).at? (other :: rest) = some w := by
  obtain ⟨c, hc, hw⟩ := at?_cons_eq_some_iff.1 h
  rw [writeIn_cons_of_kind hkind, at?_cons_eq_some_iff]
  by_cases heq : other = key
  · subst heq
    refine ⟨_, childWith?_put hkind _, ?_⟩
    rw [hc, Option.getD_some]
    exact hsame c hc rfl
  · exact ⟨c, childWith?_put_of_ne heq hc, hw⟩

/-- Values of one source do not spoil each other: writing what the source has at some keys keeps
what agrees with the source at others. -/
theorem at?_writeIn_of_agree {position : List Key} (hs : s.at? position = some w)
    (hd : d.at? position = some w) (hv : s.at? keys = some v) :
    (writeIn v keys d).at? position = some w := by
  induction keys generalizing d s position with
  | nil =>
    -- the whole source is written
    rw [at?, Option.some.injEq] at hv
    rwa [writeIn, ← hv]
  | cons key rest ih =>
    cases position with
    | nil =>
      -- the whole source is there already, with the value at its place
      have hds : d = s := Option.some.inj (hd.trans hs.symm)
      rwa [hds, writeIn_at? hv]
    | cons other position =>
      obtain ⟨c, hc, hcv⟩ := at?_cons_eq_some_iff.1 hv
      have hkind : d.kind = key.container :=
        (kind_of_at?_cons hd).trans ((kind_of_at?_cons hs).symm.trans (kind_of_at?_cons hv))
      refine at?_writeIn_cons hd hkind fun c' hc' heq ↦ ?_
      subst heq
      rw [at?_cons, hc] at hs
      rw [at?_cons, hc'] at hd
      exact ih hs hd hcv

/-! ### Under a root of another kind -/

/-- A container takes its own keys as they are. -/
theorem seat_container (key : Key) : key.seat key.container = key := by
  cases key <;> rfl

variable {kind : Kind}

theorem container_seat (h : kind = .map ∨ kind = key.container) :
    (key.seat kind).container = kind := by
  rcases h with rfl | rfl
  · rfl
  · rw [seat_container]

/-- A container takes different keys of one sort for different ones. -/
theorem seat_inj (hcontainer : other.container = key.container)
    (h : other.seat kind = key.seat kind) : other = key := by
  unfold Key.seat at h
  split at h
  · have htext : other.text = key.text := Key.name.inj h
    cases other with
    | name k =>
      cases key with
      | name k' => exact congrArg Key.name htext
      | index i => cases hcontainer
    | index i =>
      cases key with
      | name k => cases hcontainer
      | index i' => exact congrArg Key.index (Key.indexText_injective htext)
  · exact h

/-- A bridge lands at the key for which its root takes the first one, if the root is a map or has
keys of that sort, or is still to become such a container. -/
theorem landing?_seat (hkind : kind = .map ∨ kind = key.container)
    (hd : d.kind = kind ∨ d.kind = .scalar ∧ kind = key.container) (hkey : key.InRange)
    (rest : List Key) :
    d.landing? (key :: rest) = some (key.seat kind :: rest) := by
  by_cases hsame : kind = key.container
  · rw [hsame, seat_container]
    exact landing?_of_suits (hd.symm.imp And.left fun h ↦ h.trans hsame) hkey rest
  · have hmap : d.kind = .map := by
      rw [hd.resolve_right fun h ↦ hsame h.2, hkind.resolve_right hsame]
    cases d with
    | scalar s => cases hmap
    | array items => cases hmap
    | object entries =>
      have haim : (object entries).aim? key = some (.name key.text) := rfl
      have hrange : (Key.name key.text).InRange := trivial
      have hroot : (object entries).coerceRoot key = object entries := rfl
      rw [landing?, hroot, land?, haim]
      simp only [if_pos hrange, Key.seat, hkind.resolve_right hsame, if_true, Option.map_some]

/-- Values of one source do not spoil each other under a root that takes the first keys for its
own. -/
theorem at?_writeIn_seat (hkind : kind = .map ∨ kind = key.container)
    (hs : s.at? (other :: rest) = some w) (hd : d.at? (other.seat kind :: rest) = some w)
    (hv : s.at? (key :: keys) = some v) :
    (writeIn v (key.seat kind :: keys) d).at? (other.seat kind :: rest) = some w := by
  have hcontainer : other.container = key.container :=
    (kind_of_at?_cons hs).symm.trans (kind_of_at?_cons hv)
  have hroot : d.kind = (key.seat kind).container := by
    rw [kind_of_at?_cons hd, container_seat hkind, container_seat (hcontainer ▸ hkind)]
  refine at?_writeIn_cons hd hroot fun c hc heq ↦ ?_
  obtain rfl := seat_inj hcontainer heq
  obtain ⟨c', hc', hw⟩ := at?_cons_eq_some_iff.1 hs
  rw [at?_cons, hc'] at hv
  rw [at?_cons, hc] at hd
  exact at?_writeIn_of_agree hw hd hv

end Json

end DocPath

import DocPath.Proofs.Path.Literal

/-!
# Courses

A bridge along plain segments comes to one key after the other, its **course**, and which keys these
are can be told from the document alone.

At a container a segment stands for a key (`Segment.key?`): a position that counts from the end is
turned around in an array, and is a name in an object. The bridge takes the key for the one that it
lands at (`Segment.land?`) and goes on with the value there, or with an empty container if that is
missing or of the wrong kind.

Below the root a segment fails to land only if it counts from the end of an array with too few
items. By then the bridge may have made or emptied containers, so that the document is not what it
was: the bridge is `Stranded`.

A search does not take all segments as a bridge does. The path is `settled` by exchanging segments
for those that find the keys of the course.
-/

namespace DocPath

namespace Path

open Operation (childWith?)
open DocPath.Tree (Literal containerFor)

variable {s : Segment} {segments : List Segment} {key : Key} {keys : List Key} {d : Json}

namespace Segment

/-- The position of the segment counts from the end. -/
def Backwards (s : Segment) : Prop :=
  ∃ i < 0, s.selector = .index i

/-- The key that a plain segment stands for at a container. -/
def key? (s : Segment) (d : Json) : Option Key :=
  match s.selector with
  | .key name => some (.name name)
  | .index i =>
    if 0 ≤ i then some (.index i.toNat)
    else match d with
      | .array items =>
        if 0 ≤ items.length + i then some (.index (items.length + i).toNat) else none
      | .object _ => some (.name (String.ofList (Number.intText i)))
      | .scalar _ => none
  | _ => none

/-- The key of a container that a bridge takes a plain segment for. -/
def land? (s : Segment) (d : Json) : Option Key :=
  (s.key? d).bind d.land?

/-! ### Plain segments -/

/-- A position stands for a position, but for the name that it is written as if it counts from the
end and comes to an object. -/
theorem key?_index {raw : String} {i : Int} (h : key? ⟨raw, .index i, none, false⟩ d = some key) :
    (∃ k, key = .index k ∧ (d.kind = .sequence ∨ (k : Int) = i)) ∨
      d.kind = .map ∧ key = .name (String.ofList (Number.intText i)) := by
  unfold key? at h
  dsimp only at h
  by_cases hi : 0 ≤ i
  · rw [if_pos hi] at h
    cases h
    exact .inl ⟨i.toNat, rfl, .inr (Int.toNat_of_nonneg hi)⟩
  · rw [if_neg hi] at h
    cases d with
    | scalar v => cases h
    | object entries =>
      cases h
      exact .inr ⟨rfl, rfl⟩
    | array items =>
      dsimp only at h
      split at h
      · cases h
        exact .inl ⟨_, rfl, .inl rfl⟩
      · cases h

/-- At an array only a name stands for a name. -/
theorem selector_of_key?_name {k : String} (hs : s.Plain) (h : s.key? d = some (.name k))
    (hd : d.kind = .sequence) : s.selector = .key k := by
  cases hs with
  | key raw name =>
    cases h
    rfl
  | index raw i =>
    obtain ⟨j, hj, -⟩ | ⟨hmap, -⟩ := key?_index h
    · cases hj
    · rw [hd] at hmap
      cases hmap

/-- Only a position that counts from the end can stand for no key. -/
theorem backwards_of_key? (hs : s.Plain) (h : s.key? d = none) : s.Backwards ∧ d.kind ≠ .map := by
  cases hs with
  | key raw name => cases h
  | index raw i =>
    unfold key? at h
    dsimp only at h
    by_cases hi : 0 ≤ i
    · rw [if_pos hi] at h
      cases h
    · rw [if_neg hi] at h
      refine ⟨⟨i, Int.not_le.1 hi, rfl⟩, ?_⟩
      cases d with
      | scalar v => exact fun hmap ↦ by cases hmap
      | array items => exact fun hmap ↦ by cases hmap
      | object entries => cases h

/-! ### Literal segments -/

theorem not_backwards_of_literal? (h : s.literal? = some key) : ¬ s.Backwards := by
  rintro ⟨i, hi, hs⟩
  obtain ⟨-, -, hselector⟩ := selector_of_literal? h
  rw [hs] at hselector
  cases key with
  | name k => cases hselector
  | index k =>
    have heq : i = k := Selector.index.inj hselector
    omega

/-- A plain segment that does not count from the end names a key literally. -/
theorem exists_literal? (hs : s.Plain) (h : ¬ s.Backwards) : ∃ key, s.literal? = some key := by
  cases hs with
  | key raw name => exact ⟨.name name, rfl⟩
  | index raw i =>
    have hi : 0 ≤ i := Int.not_lt.1 fun hi ↦ h ⟨i, hi, rfl⟩
    exact ⟨.index i.toNat, if_pos hi⟩

/-- A literal segment stands for its key everywhere. -/
theorem key?_of_literal? (h : s.literal? = some key) (d : Json) : s.key? d = some key := by
  obtain ⟨-, -, hselector⟩ := selector_of_literal? h
  rw [key?, hselector]
  cases key with
  | name k => rfl
  | index k => exact if_pos (Int.natCast_nonneg k)

theorem land?_of_literal? (h : s.literal? = some key) (d : Json) : s.land? d = d.land? key := by
  rw [land?, key?_of_literal? h, Option.bind_some]

end Segment

/-! ### Courses -/

/-- A segment creates in the containers of some key. -/
theorem exists_containerFor (s : Segment) : ∃ key : Key, containerFor s = key.container := by
  unfold containerFor
  split
  · exact ⟨.index 0, rfl⟩
  · exact ⟨.name "", rfl⟩

theorem containerFor_ne_scalar (s : Segment) : containerFor s ≠ .scalar := by
  unfold containerFor
  split <;> simp

theorem kind_empty_containerFor (s : Segment) :
    (Json.empty (containerFor s)).kind = containerFor s := by
  obtain ⟨key, hkey⟩ := exists_containerFor s
  rw [hkey]
  exact Json.kind_empty_container key

/-- The value from which a bridge goes on under a key: the value there, or an empty container if it
is not the one that the segments need. -/
def enter (d : Json) (key : Key) : List Segment → Json
  | [] => (childWith? d key).getD .null
  | next :: _ => ((childWith? d key).getD .null).fit (containerFor next)

theorem kind_enter (d : Json) (key : Key) (segments : List Segment) :
    ∀ s ∈ segments.head?, (enter d key segments).kind = containerFor s := by
  cases segments with
  | nil =>
    intro s hs
    cases hs
  | cons next rest =>
    rintro s ⟨⟩
    obtain ⟨key', hkey'⟩ := exists_containerFor next
    rw [enter, hkey']
    exact Json.kind_fit _ key'

/-- The keys that a bridge along segments comes to from a container, if it comes to all. -/
def courseFrom? : Json → List Segment → Option (List Key)
  | _, [] => some []
  | d, s :: rest =>
    (s.land? d).bind fun key ↦ (courseFrom? (enter d key rest) rest).map (key :: ·)

theorem courseFrom?_cons_eq_some :
    courseFrom? d (s :: segments) = some keys ↔
      ∃ key rest, s.land? d = some key ∧
        courseFrom? (enter d key segments) segments = some rest ∧ key :: rest = keys := by
  simp [courseFrom?, Option.bind_eq_some_iff]

theorem kind_of_segment_land? (h : s.land? d = some key) : d.kind = key.container := by
  obtain ⟨key', -, hland⟩ := Option.bind_eq_some_iff.1 h
  exact Json.kind_of_land? hland

/-- A course begins with a key of the container. -/
theorem head?_of_courseFrom? (h : courseFrom? d segments = some keys)
    (hkind : ∀ s ∈ segments.head?, d.kind = containerFor s) :
    segments.head?.map containerFor = keys.head?.map Key.container := by
  cases segments with
  | nil =>
    cases h
    rfl
  | cons s segments =>
    obtain ⟨key, rest, hland, -, rfl⟩ := courseFrom?_cons_eq_some.1 h
    exact congrArg some ((hkind s rfl).symm.trans (kind_of_segment_land? hland))

/-- Literal segments have their keys as course, beginning at a container that has the first one. -/
theorem courseFrom?_of_literal (hkeys : Literal segments keys)
    (hs : ∀ s ∈ segments, s.selector.WellFormed)
    (hkind : ∀ s ∈ segments.head?, d.kind = containerFor s) :
    courseFrom? d segments = some keys := by
  induction segments generalizing d keys with
  | nil =>
    cases keys with
    | nil => rfl
    | cons key rest => cases hkeys
  | cons s segments ih =>
    cases keys with
    | nil => cases hkeys
    | cons key rest =>
      obtain ⟨hkey, hrest⟩ := hkeys.cons
      obtain ⟨hs, hsegments⟩ := List.forall_mem_cons.1 hs
      have hcontainer := (hkind s rfl).trans (Tree.containerFor_of_literal? hkey)
      refine courseFrom?_cons_eq_some.2 ⟨key, rest, ?_, ?_, rfl⟩
      · rw [Segment.land?_of_literal? hkey]
        exact Json.land?_of_kind hcontainer (Segment.inRange_of_literal? hkey hs)
      · exact ih hrest hsegments (kind_enter d key segments)

/-- Segments that do not count from the end name keys literally. -/
theorem exists_literal (hplain : ∀ s ∈ segments, s.Plain) (h : ∀ s ∈ segments, ¬ s.Backwards) :
    ∃ keys, Literal segments keys := by
  induction segments with
  | nil => exact ⟨[], rfl⟩
  | cons s segments ih =>
    obtain ⟨hs, hsegments⟩ := List.forall_mem_cons.1 hplain
    obtain ⟨hforward, hrest⟩ := List.forall_mem_cons.1 h
    obtain ⟨key, hkey⟩ := Segment.exists_literal? hs hforward
    obtain ⟨rest, hrest⟩ := ih hsegments hrest
    exact ⟨key :: rest, congrArg₂ List.cons hkey hrest⟩

theorem plain_of_literal (h : Literal segments keys) : ∀ s ∈ segments, s.Plain := by
  intro s hs
  obtain ⟨key, -, hkey⟩ := h.exists_of_mem hs
  exact Segment.plain_of_literal? hkey

/-- Of segments without a course at a container of the right kind, one counts from the end. -/
theorem exists_backwards (hplain : ∀ s ∈ segments, s.Plain)
    (hs : ∀ s ∈ segments, s.selector.WellFormed)
    (hkind : ∀ s ∈ segments.head?, d.kind = containerFor s) (h : courseFrom? d segments = none) :
    ∃ s ∈ segments, s.Backwards := by
  by_contra hnone
  obtain ⟨keys, hkeys⟩ := exists_literal hplain fun s hs hback ↦ hnone ⟨s, hs, hback⟩
  rw [courseFrom?_of_literal hkeys hs hkind] at h
  cases h

/-! ### Stranded bridges -/

/-- On the way of a bridge from a container, a position is to be counted from the end in or below a
container that the bridge makes or empties. -/
inductive StrandedFrom : Json → List Segment → Prop
  | made {d : Json} {s next : Segment} {rest : List Segment} {key : Key}
    (hkey : s.land? d = some key)
    (hmade : ∀ c, childWith? d key = some c → c.kind ≠ containerFor next)
    (hback : ∃ s' ∈ next :: rest, s'.Backwards) : StrandedFrom d (s :: next :: rest)
  | kept {d c : Json} {s next : Segment} {rest : List Segment} {key : Key}
    (hkey : s.land? d = some key) (hc : childWith? d key = some c)
    (hkind : c.kind = containerFor next) (h : StrandedFrom c (next :: rest)) :
    StrandedFrom d (s :: next :: rest)

/-- Only a position that counts from the end strands. -/
theorem StrandedFrom.exists_backwards (h : StrandedFrom d segments) :
    ∃ s ∈ segments, s.Backwards := by
  induction h with
  | made hkey hmade hback =>
    obtain ⟨s, hs, hback⟩ := hback
    exact ⟨s, List.mem_cons_of_mem _ hs, hback⟩
  | kept hkey hc hkind h ih =>
    obtain ⟨s, hs, hback⟩ := ih
    exact ⟨s, List.mem_cons_of_mem _ hs, hback⟩

/-- A bridge that has no course and is not stranded comes to a container that it keeps, and has no
course and is not stranded from there. -/
theorem exists_kept {next : Segment} (hplain : ∀ s ∈ next :: segments, s.Plain)
    (hs : ∀ s ∈ next :: segments, s.selector.WellFormed) (hland : s.land? d = some key)
    (h : courseFrom? d (s :: next :: segments) = none)
    (hstranded : ¬ StrandedFrom d (s :: next :: segments)) :
    ∃ c, childWith? d key = some c ∧ c.kind = containerFor next ∧
      courseFrom? c (next :: segments) = none ∧ ¬ StrandedFrom c (next :: segments) := by
  rw [courseFrom?, hland, Option.bind_some, Option.map_eq_none_iff] at h
  have hback := exists_backwards hplain hs (kind_enter d key _) h
  obtain ⟨c, hc, hkind⟩ : ∃ c, childWith? d key = some c ∧ c.kind = containerFor next := by
    by_contra hnone
    exact hstranded (.made hland (fun c hc hkind ↦ hnone ⟨c, hc, hkind⟩) hback)
  have henter : enter d key (next :: segments) = c := by
    rw [enter, hc]
    exact Json.fit_of_kind hkind
  exact ⟨c, hc, hkind, henter ▸ h, fun hbelow ↦ hstranded (.kept hland hc hkind hbelow)⟩

/-! ### From the root -/

/-- The container at which a bridge along segments begins: the root, or an empty one if the root has
no parts. -/
def start (d : Json) : List Segment → Json
  | [] => d
  | s :: _ => if d.kind = .scalar then .empty (containerFor s) else d

theorem kind_start (h : d.kind ≠ .sequence) (segments : List Segment) :
    ∀ s ∈ segments.head?,
      (start d segments).kind = containerFor s ∨ (start d segments).kind = .map := by
  cases segments with
  | nil =>
    intro s hs
    cases hs
  | cons s rest =>
    rintro s ⟨⟩
    rw [start]
    split
    · exact .inl (kind_empty_containerFor s)
    · cases hk : d.kind with
      | map => exact .inr rfl
      | sequence => exact absurd hk h
      | scalar => exact absurd hk ‹_›

/-- The keys that a bridge along the path comes to, if it comes to all. -/
def course? (p : Path) (d : Json) : Option (List Key) :=
  courseFrom? (start d p.segments) p.segments

/-- A position is to be counted from the end in or below a container that the bridge makes or
empties. -/
def Stranded (p : Path) (d : Json) : Prop :=
  (d.kind = .scalar ∧ ∃ s ∈ p.segments, s.Backwards) ∨ StrandedFrom d p.segments

/-- The course along literal segments is where their keys land. -/
theorem course?_of_literal {p : Path} (hkeys : Literal p.segments keys)
    (hs : ∀ s ∈ p.segments, s.selector.WellFormed) (d : Json) : p.course? d = d.landing? keys := by
  obtain ⟨raw, segments⟩ := p
  cases segments with
  | nil =>
    cases keys with
    | nil => rfl
    | cons key rest => cases hkeys
  | cons s segments =>
    cases keys with
    | nil => cases hkeys
    | cons key rest =>
      obtain ⟨hkey, hrest⟩ := Literal.cons hkeys
      have hstart : start d (s :: segments) = d.coerceRoot key := by
        rw [start, Tree.containerFor_of_literal? hkey]
        rfl
      rw [course?, hstart, courseFrom?, Segment.land?_of_literal? hkey, Json.landing?]
      cases (d.coerceRoot key).land? key with
      | none => rfl
      | some key' =>
        rw [Option.bind_some, courseFrom?_of_literal hrest
          (fun s' hs' ↦ hs s' (List.mem_cons_of_mem s hs')) (kind_enter _ key' segments)]
        rfl

theorem not_stranded_of_literal {p : Path} (hkeys : Literal p.segments keys) (d : Json) :
    ¬ p.Stranded d := by
  intro h
  obtain ⟨s, hs, hback⟩ : ∃ s ∈ p.segments, s.Backwards := by
    obtain ⟨-, hback⟩ | h := h
    · exact hback
    · exact h.exists_backwards
  obtain ⟨key, -, hkey⟩ := hkeys.exists_of_mem hs
  exact Segment.not_backwards_of_literal? hkey hback

/-! ### What a search takes for the course -/

namespace Segment

/-- The segment that finds the key that a segment was taken for: a position is counted from the
front, and a name that spells a position becomes the digits of it. -/
def settle (s : Segment) (key : Key) : Segment :=
  match s.selector, key with
  | .index _, .index k => { s with selector := .index k }
  | .key name, .index k =>
    if Text.place? name.toList = some k then { s with selector := .key (Key.indexText k) } else s
  | _, _ => s

/-- The plain segment takes the key in a search, whatever the size of the container. -/
structure Finds (s : Segment) (key : Key) : Prop where
  plain : s.Plain
  wellFormed : s.selector.WellFormed
  takes : ∀ size, s.selector.matchesKey size key = true

/-- A name is taken for itself, for the position that it spells, or for the one that it is
equivalent to. -/
theorem finds_settle_name {raw name : String}
    (h : land? ⟨raw, .key name, none, false⟩ d = some key) :
    (settle ⟨raw, .key name, none, false⟩ key).Finds key := by
  obtain ⟨haim, -⟩ | ⟨haim, i, hi, rfl⟩ := Json.land?_eq_some.1 h
  · cases d with
    | scalar v => cases haim
    | object entries =>
      cases haim
      exact ⟨.key raw name, trivial, fun _ ↦ by simp [settle, Selector.matchesKey, Key.text]⟩
    | array items =>
      obtain ⟨k, hk, rfl⟩ := Option.map_eq_some_iff.1 haim
      have hsettle : settle ⟨raw, .key name, none, false⟩ (.index k) =
          ⟨raw, .key (Key.indexText k), none, false⟩ := if_pos hk
      rw [hsettle]
      exact ⟨.key raw _, trivial, fun _ ↦ by simp [Selector.matchesKey, Key.text]⟩
  · cases d with
    | scalar v => cases hi
    | object entries => cases hi
    | array items =>
      have hnormal := (Json.equivalent?_eq_some.1 hi).2
      have hplace : Text.place? name.toList = none := Option.map_eq_none_iff.1 haim
      have hsettle : settle ⟨raw, .key name, none, false⟩ (.index i) =
          ⟨raw, .key name, none, false⟩ := if_neg (by simp [hplace])
      rw [hsettle]
      exact ⟨.key raw name, trivial, fun _ ↦ by
        simp [Selector.matchesKey, Key.normal, hnormal]⟩

/-- A position is taken for a position, or for the name that it is written as. -/
theorem land?_index {raw : String} {i : Int}
    (h : land? ⟨raw, .index i, none, false⟩ d = some key) :
    (∃ k, key = .index k ∧ key.InRange) ∨ key = .name (String.ofList (Number.intText i)) := by
  obtain ⟨key', hkey', hland⟩ := Option.bind_eq_some_iff.1 h
  obtain ⟨k, rfl, hk⟩ | ⟨hd, rfl⟩ := key?_index hkey'
  · -- an array takes the position as it is
    cases d with
    | scalar v => cases hland
    | array items =>
      obtain ⟨haim, hrange⟩ | ⟨haim, -⟩ := Json.land?_eq_some.1 hland
      · cases haim
        exact .inl ⟨k, rfl, hrange⟩
      · cases haim
    | object entries =>
      obtain hk | rfl := hk
      · cases hk
      · cases hland
        rw [Key.text, ← Tree.intText_ofNat]
        exact .inr rfl
  · cases d with
    | scalar v => cases hd
    | array items => cases hd
    | object entries =>
      cases hland
      exact .inr rfl

theorem finds_settle_index {raw : String} {i : Int} (hi : Number.IsInt64 i)
    (h : land? ⟨raw, .index i, none, false⟩ d = some key) :
    (settle ⟨raw, .index i, none, false⟩ key).Finds key := by
  obtain ⟨k, rfl, hk⟩ | rfl := land?_index h
  · have hk : k < 0x8000000000000000 := hk
    have hint : (Key.index k).int? = some (k : Int) := if_pos hk
    refine ⟨.index raw k, ?_, fun _ ↦ ?_⟩
    · show Number.IsInt64 k
      unfold Number.IsInt64
      omega
    · show ((Key.index k).int? == some (k : Int)) = true
      rw [hint, beq_self_eq_true]
  · refine ⟨.index raw i, hi, fun _ ↦ ?_⟩
    show (Text.int64? (String.ofList (Number.intText i)).toList == some i) = true
    rw [String.toList_ofList, Text.int64?_intText hi, beq_self_eq_true]

/-- A search for the settled segment finds what a bridge takes the segment for. -/
theorem finds_settle (hs : s.Plain) (hwf : s.selector.WellFormed) (h : s.land? d = some key) :
    (s.settle key).Finds key := by
  cases hs with
  | key raw name => exact finds_settle_name h
  | index raw i => exact finds_settle_index hwf h

theorem settle_name (s : Segment) (k : String) : s.settle (.name k) = s := by
  unfold settle
  split
  · cases ‹Key.name k = _›
  · cases ‹Key.name k = _›
  · rfl

theorem settle_of_literal? (h : s.literal? = some key) : s.settle key = s := by
  cases key with
  | name k => exact s.settle_name k
  | index k =>
    obtain ⟨-, -, hselector⟩ := selector_of_literal? h
    obtain ⟨raw, selector, formula, recursive⟩ := s
    have hselector : selector = .index k := hselector
    rw [hselector]
    rfl

end Segment

theorem finds_settle_course (hplain : ∀ s ∈ segments, s.Plain)
    (hs : ∀ s ∈ segments, s.selector.WellFormed) (h : courseFrom? d segments = some keys) :
    List.Forall₂ Segment.Finds (List.zipWith Segment.settle segments keys) keys := by
  induction segments generalizing d keys with
  | nil =>
    cases h
    exact .nil
  | cons s segments ih =>
    obtain ⟨key, rest, hland, hrest, rfl⟩ := courseFrom?_cons_eq_some.1 h
    obtain ⟨hfirst, hplain⟩ := List.forall_mem_cons.1 hplain
    obtain ⟨hwf, hs⟩ := List.forall_mem_cons.1 hs
    exact .cons (Segment.finds_settle hfirst hwf hland) (ih hplain hs hrest)

/-- Segments that do not count from the end are settled, unless a name comes to an array. -/
theorem zipWith_settle {course : List Key} (hkeys : Literal segments keys)
    (hs : ∀ s ∈ segments, s.selector.WellFormed) (h : courseFrom? d segments = some course)
    (hkind : ∀ s ∈ segments.head?, d.kind = containerFor s ∨ d.kind = .map) :
    List.zipWith Segment.settle segments course = segments := by
  induction segments generalizing d keys course with
  | nil => rfl
  | cons s segments ih =>
    cases keys with
    | nil => cases hkeys
    | cons key' keys =>
      obtain ⟨hkey, hrest⟩ := hkeys.cons
      obtain ⟨hwf, hs⟩ := List.forall_mem_cons.1 hs
      obtain ⟨key, rest, hland, hcourse, rfl⟩ := courseFrom?_cons_eq_some.1 h
      have hkeep : s.settle key = s := by
        obtain hd | hd := hkind s rfl
        · -- the key lands where it is
          rw [Segment.land?_of_literal? hkey, Json.land?_of_kind
            (hd.trans (Tree.containerFor_of_literal? hkey)) (Segment.inRange_of_literal? hkey hwf)]
            at hland
          cases hland
          exact Segment.settle_of_literal? hkey
        · cases key with
          | name k => exact s.settle_name k
          | index k =>
            have hsequence := kind_of_segment_land? hland
            rw [hd] at hsequence
            cases hsequence
      rw [List.zipWith_cons_cons, hkeep,
        ih hrest hs hcourse fun s' hs' ↦ .inl (kind_enter d key segments s' hs')]

/-- The path with all segments as a bridge takes them. -/
def settled (p : Path) (d : Json) : Path :=
  match p.course? d with
  | some keys => { p with segments := List.zipWith Segment.settle p.segments keys }
  | none => p

theorem settled_of_course? {p : Path} (h : p.course? d = some keys) :
    p.settled d = { p with segments := List.zipWith Segment.settle p.segments keys } := by
  rw [settled, h]

/-- A path without positions that count from the end has a course, unless it begins at an array. -/
theorem exists_course? {p : Path} (hplain : ∀ s ∈ p.segments, s.Plain)
    (hs : ∀ s ∈ p.segments, s.selector.WellFormed)
    (hforward : ∀ s ∈ p.segments, ¬ s.Backwards) (hd : d.kind ≠ .sequence) :
    ∃ keys, p.course? d = some keys := by
  obtain ⟨keys, hkeys⟩ := exists_literal hplain hforward
  rw [course?_of_literal hkeys hs]
  exact Json.exists_landing? hd (hkeys.inRange hs)

/-- A path without positions that count from the end is settled, unless it begins at an array. -/
theorem settled_eq_self {p : Path} (hplain : ∀ s ∈ p.segments, s.Plain)
    (hs : ∀ s ∈ p.segments, s.selector.WellFormed)
    (hforward : ∀ s ∈ p.segments, ¬ s.Backwards) (hd : d.kind ≠ .sequence) : p.settled d = p := by
  obtain ⟨keys, hkeys⟩ := exists_literal hplain hforward
  cases h : p.course? d with
  | none => rw [settled, h]
  | some course =>
    rw [settled_of_course? h, zipWith_settle hkeys hs h (kind_start hd p.segments)]

end Path

end DocPath

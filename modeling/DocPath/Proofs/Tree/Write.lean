import DocPath.Proofs.Tree.Course

/-!
# Bridging along literal segments

A bridge of one value along literal segments is a write into the document (`bridge_literal`): it
succeeds, the new document is the one that `Json.write` gives unless the first segment is a name
that is misread at an array, and of the nodes that were there the spared ones are the same as before
and the reached ones keep their handles.
-/

namespace DocPath.Tree

open DocPath.Path (Segment)
open Node (Context Written)
open Json (Spared Reached writeIn)

variable {t : Tree} {n : Node} {key : Key} {s : Segment} {v : Json}

/-! ### The root -/

theorem prepareRoot_of_container (h : t.root.kind ≠ .scalar) : t.prepareRoot s = t :=
  if_neg h

theorem Sound.prepareRoot (h : t.Sound) (s : Segment) : (t.prepareRoot s).Sound :=
  (t.leads_prepareRoot s).sound h

/-- The root keeps its handle, and is the container at which the bridge begins. -/
theorem Sound.root_prepareRoot (h : t.Sound) (s : Segment) (rest : List Segment) :
    (t.prepareRoot s).root.id = t.root.id ∧
      (t.prepareRoot s).root.toJson = Path.start t.document (s :: rest) := by
  have hkind : t.document.kind = t.root.kind := Node.kind_toJson t.root
  rw [Tree.prepareRoot, Path.start, hkind]
  split
  · obtain ⟨n, hid, hn, hroot⟩ := h.root_replaceWith (c := []) rfl (Json.empty (containerFor s))
    rw [hroot]
    exact ⟨hid, hn⟩
  · exact ⟨rfl, rfl⟩

/-- A write into a node without parts is one into the container that takes its place. -/
theorem written_of_scalar {keys : List Key} {n' new : Node} (hn : n.kind = .scalar)
    (hid : n'.id = n.id) (hvalue : writeIn v keys n'.toJson = writeIn v keys n.toJson)
    (h : Written v keys n' new) : Written v keys n new where
  id := h.id.trans hid
  toJson := h.toJson.trans hvalue
  spared := by
    intro position m hm hspared
    cases n with
    | scalar i value =>
      cases hspared with
      | aside => cases hm
      | inside => cases hm
    | sequence i items => cases hn
    | map i entries => cases hn
  reached := by
    intro position m hm _
    cases n with
    | scalar i value =>
      cases position with
      | nil =>
        obtain rfl : Node.scalar i value = m := by simpa [Node.at?] using hm
        exact ⟨new, rfl, h.id.trans hid⟩
      | cons key rest => cases hm
    | sequence i items => cases hn
    | map i entries => cases hn

/-! ### A path -/

variable {p : Path} {keys : List Key}

/-- A bridge along a plain path writes at the keys of its course. -/
theorem written_of_course (hplain : ∀ s ∈ p.segments, s.Plain)
    (hp : ∀ s ∈ p.segments, s.selector.WellFormed) (hv : v.Distinct) (ht : t.Sound)
    (hcourse : p.course? t.document = some keys) :
    Written v keys t.root (t.writeThrough p v).root := by
  rw [Path.course?] at hcourse
  cases hsegments : p.segments with
  | nil =>
    rw [hsegments] at hcourse
    cases hcourse
    obtain ⟨n, hid, hn, hroot⟩ := ht.root_replaceWith (c := []) rfl v
    have hwrite : (t.writeThrough p v).root = n := by
      rw [writeThrough, hsegments]
      exact hroot
    rw [hwrite]
    exact Written.nil hid hn
  | cons s segments =>
    rw [hsegments] at hcourse hplain hp
    obtain ⟨hid, hvalue⟩ := ht.root_prepareRoot s segments
    rw [← hvalue] at hcourse
    obtain ⟨n', hroot, hwritten⟩ := bridgeFrom_course (c := []) (List.cons_ne_nil s segments) hplain
      hp hv (ht.prepareRoot s) rfl hcourse
    rw [Context.fill_nil] at hroot
    rw [writeThrough_cons t s hsegments, hroot]
    by_cases hscalar : t.root.kind = .scalar
    · obtain ⟨key, rest, hland, -, rfl⟩ := Path.courseFrom?_cons_eq_some.1 hcourse
      have hscalar' : t.document.kind = .scalar := (Node.kind_toJson t.root).trans hscalar
      have hkind := Path.kind_of_segment_land? hland
      have hstart : Path.start t.document (s :: segments) = Json.empty (containerFor s) :=
        if_pos hscalar'
      rw [hvalue, hstart, Path.kind_empty_containerFor] at hkind
      refine written_of_scalar hscalar hid ?_ hwritten
      rw [hvalue, hstart, hkind]
      exact Json.writeIn_empty hscalar' v key rest
    · rwa [prepareRoot_of_container hscalar] at hwritten

/-- A bridge along a plain path that has no course changes nothing, unless it is stranded. -/
theorem root_writeThrough_of_not_stranded (hplain : ∀ s ∈ p.segments, s.Plain)
    (hp : ∀ s ∈ p.segments, s.selector.WellFormed) (ht : t.Sound)
    (hcourse : p.course? t.document = none) (hstranded : ¬ p.Stranded t.document) :
    (t.writeThrough p v).root = t.root := by
  rw [Path.course?] at hcourse
  cases hsegments : p.segments with
  | nil =>
    rw [hsegments] at hcourse
    cases hcourse
  | cons s segments =>
    rw [Path.Stranded, hsegments, not_or] at hstranded
    rw [hsegments] at hcourse hplain hp
    have hkind : t.document.kind = t.root.kind := Node.kind_toJson t.root
    have hcontainer : t.document.kind ≠ .scalar := by
      intro hscalar
      refine hstranded.1 ⟨hscalar, Path.exists_backwards hplain hp ?_ hcourse⟩
      rintro s' ⟨⟩
      rw [Path.start, if_pos hscalar]
      exact Path.kind_empty_containerFor s
    have hroot : t.root.kind ≠ .scalar := hkind ▸ hcontainer
    have hstart : Path.start t.document (s :: segments) = t.document := if_neg hcontainer
    rw [hstart] at hcourse
    rw [writeThrough_cons t s hsegments, prepareRoot_of_container hroot]
    exact root_bridgeFrom_of_not_stranded (c := []) hplain hp ht rfl hroot hcourse hstranded.2

/-- Bridging along literal segments writes where it lands, and where it does not land the root stays
as it is. -/
theorem written_writeThrough (hkeys : Literal p.segments keys)
    (hp : ∀ s ∈ p.segments, s.selector.WellFormed) (hv : v.Distinct) (ht : t.Sound) :
    match t.document.landing? keys with
    | some landed => Written v landed t.root (t.writeThrough p v).root
    | none => (t.writeThrough p v).root = t.root := by
  have hplain := Path.plain_of_literal hkeys
  have hcourse := Path.course?_of_literal hkeys hp t.document
  cases hland : t.document.landing? keys with
  | some landed => exact written_of_course hplain hp hv ht (hcourse.trans hland)
  | none =>
    exact root_writeThrough_of_not_stranded hplain hp ht (hcourse.trans hland)
      (Path.not_stranded_of_literal hkeys t.document)

/-! ### One entry -/

theorem bridge_singleton {raw : String} {p : Path} (hp : Path.parse raw = .ok p) (v : Json) :
    t.bridge [(raw, v)] = (.ok (), t.bridgePath p v) := by
  have hone : t.bridgeOne (raw, v) = .ok (t.bridgePath p v) := by
    rw [bridgeOne_eq, hp]
    rfl
  rw [bridge, forEach_cons_ok hone, forEach_nil]

theorem root_bridgePath (t : Tree) (p : Path) (v : Json) :
    (t.bridgePath p v).root = (t.writeThrough p v).root := by
  rw [bridgePath, releaseScratch_eq]

/-- Bridging along literal segments that suit the root writes at their keys. -/
theorem document_bridgePath {p : Path} {keys : List Key} (hkeys : Literal p.segments keys)
    (hp : ∀ s ∈ p.segments, s.selector.WellFormed) (hv : v.Distinct) (ht : t.Sound)
    (hsuits : ∀ key ∈ keys.head?, t.document.kind = .scalar ∨ t.document.kind = key.container)
    (hrange : ∀ key ∈ keys, key.InRange) :
    (t.bridgePath p v).document = writeIn v keys t.document := by
  have hland : t.document.landing? keys = some keys := by
    cases keys with
    | nil => rfl
    | cons key rest =>
      exact Json.landing?_of_suits (hsuits key rfl) (hrange key (List.mem_cons_self ..)) rest
  have hwritten := written_writeThrough hkeys hp hv ht
  rw [hland] at hwritten
  rw [document, root_bridgePath]
  exact hwritten.toJson

/-- The positions of a document that a bridge at keys has nothing to do with. -/
def Spares (d : Json) (keys position : List Key) : Prop :=
  match d.landing? keys with
  | some landed => Spared d landed position
  | none => True

/-- The positions of a document that a bridge at keys comes to, up to the first one that it
empties. -/
def Reaches (d : Json) (keys position : List Key) : Prop :=
  match d.landing? keys with
  | some landed => Reached d landed position
  | none => True

/-- A bridge of one value along literal segments is a write into the document. It succeeds; unless
the first key is misread the new document is the one that the write gives; a first key that is
misread means the position that it is equivalent to, or changes nothing if it is beyond all
positions; every spared node stays what it is, with all handles in it; and every reached node keeps
its handle. -/
theorem bridge_literal (ht : t.Reachable) {raw : String} {p : Path} (hp : Path.parse raw = .ok p)
    {keys : List Key} (hkeys : p.segments.map Segment.literal? = keys.map some) {v : Json}
    (hv : v.Distinct) :
    ∃ t', t.bridge [(raw, v)] = (.ok (), t') ∧
      (¬ t.document.Misread keys → t'.document = t.document.write keys v) ∧
      (∀ i, t.document.Aliased keys i →
        t'.document = t.document.write (.index i :: keys.tail) v) ∧
      (t.document.Beyond keys → t'.document = t.document) ∧
      ∀ position n, t.root.at? position = some n →
        (Spares t.document keys position → t'.root.at? position = some n) ∧
        (Reaches t.document keys position →
          ∃ n', t'.root.at? position = some n' ∧ n'.id = n.id) := by
  have hwellFormed := Path.wellFormed_of_parse hp
  have hrange : ∀ key ∈ keys, key.InRange := by
    intro key hkey
    have hmem : some key ∈ p.segments.map Segment.literal? := hkeys ▸ List.mem_map_of_mem hkey
    obtain ⟨s, hs, hliteral⟩ := List.mem_map.1 hmem
    exact Segment.inRange_of_literal? hliteral (hwellFormed s hs)
  refine ⟨t.bridgePath p v, bridge_singleton hp v, ?_⟩
  have hwritten := written_writeThrough hkeys hwellFormed hv ht.sound
  have hroot := t.root_bridgePath p v
  have hdocument : (t.bridgePath p v).document = (t.writeThrough p v).root.toJson :=
    congrArg Node.toJson hroot
  rw [hdocument, hroot]
  refine ⟨fun hread ↦ ?_, fun i halias ↦ ?_, fun hbeyond ↦ ?_, fun position n hn ↦ ?_⟩
  · rw [Json.write_eq_of_not_misread hread hrange]
    cases hland : t.document.landing? keys with
    | none =>
      rw [hland] at hwritten
      exact congrArg Node.toJson hwritten
    | some landed =>
      rw [hland] at hwritten
      exact hwritten.toJson
  · rw [Json.landing?_of_aliased halias] at hwritten
    obtain ⟨items, k, rest, hitems, rfl, -⟩ := halias
    rw [hitems]
    exact hwritten.toJson.trans (congrArg (writeIn v (.index i :: rest)) hitems)
  · rw [Json.landing?_of_beyond hbeyond] at hwritten
    exact congrArg Node.toJson hwritten
  · unfold Spares Reaches
    cases hland : t.document.landing? keys with
    | none =>
      rw [hland] at hwritten
      have hsame : (t.writeThrough p v).root = t.root := hwritten
      rw [hsame]
      exact ⟨fun _ ↦ hn, fun _ ↦ ⟨n, hn, rfl⟩⟩
    | some landed =>
      rw [hland] at hwritten
      exact ⟨fun h ↦ hwritten.spared hn h, fun h ↦ hwritten.reached hn h⟩

/-- Into an empty object, names and a position make objects and an array. -/
theorem bridge_literal_empty :
    ((ofJson .builtin (.object [])).bridge [("x.[0].y", .bool true)]).2.document =
      .object [("x", .array [.object [("y", .bool true)]])] := by
  have hreachable : (ofJson .builtin (.object [])).Reachable := .ofJson _ (by simp)
  have hparse : Path.parse "x.[0].y" = .ok ⟨"x.[0].y", [⟨"x", .key "x", none, false⟩,
      ⟨"[0]", .index 0, none, false⟩, ⟨"y", .key "y", none, false⟩]⟩ := rfl
  have hkeys : [⟨"x", .key "x", none, false⟩, ⟨"[0]", .index 0, none, false⟩,
      ⟨"y", .key "y", none, false⟩].map Segment.literal? =
        [.name "x", .index 0, .name "y"].map some := rfl
  obtain ⟨t', hbridge, hwrite, -⟩ := bridge_literal hreachable hparse hkeys (v := .bool true)
    trivial
  have hread : ¬ (ofJson .builtin (.object [])).document.Misread
      [.name "x", .index 0, .name "y"] := by
    rintro (⟨i, items, k, rest, hd, -⟩ | ⟨items, k, rest, i, hd, -⟩) <;> cases hd
  rw [hbridge, hwrite hread]
  rfl

/-- A name that spells no place, but is equivalent to a position, is written at the position, while
the write would leave the document as it is. -/
theorem bridge_colon_position :
    (Path.parse ":1").map (fun p ↦ p.segments.map Segment.literal?) = .ok [some (.name ":1")] ∧
      (Json.array [.ofNat 10, .ofNat 20]).write [.name ":1"] (.ofNat 9) =
        .array [.ofNat 10, .ofNat 20] ∧
      ((ofJson .builtin (.array [.ofNat 10, .ofNat 20])).bridge [(":1", .ofNat 9)]).2.document =
        .array [.ofNat 10, .ofNat 9] ∧
      (Json.array [.ofNat 10, .ofNat 9]) ≠ .array [.ofNat 10, .ofNat 20] := by
  refine ⟨rfl, rfl, rfl, fun h ↦ ?_⟩
  have hnumbers : Number.ofNat 9 = Number.ofNat 20 := by simpa using h
  exact absurd hnumbers (by decide)

end DocPath.Tree

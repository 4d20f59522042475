import DocPath.Proofs.Tree.Deposit
import DocPath.Proofs.Tree.Write

/-!
# Moving

A move writes the value of its source at the target and kills the source after that, whatever
became of it in the meantime: the target may have been above the source, which is gone then, or may
have renumbered it, or emptied a container around it. The value stays in the document if the target
is, in part at least, outside of the source (`move_keeps_value`). If all that is written is the
source itself or below it, the value goes with the source (`move_onto_itself`).
-/

namespace DocPath.Tree

variable {t : Tree} {source : NodeId} {raw raw' : String} {origin target : Path}

instance (source : NodeId) (d : NodeId × Tree) : Decidable (Outside source d) :=
  inferInstanceAs (Decidable (_ ∧ _ ∧ _))

theorem move_singleton (horigin : Path.parse raw = .ok origin)
    (htarget : Path.parse raw' = .ok target) :
    t.move [(raw, raw')] = (.ok (), transferPath false true t origin target) := by
  have hone : t.transferOne false true (raw, raw') =
      .ok (transferPath false true t origin target) := by
    rw [transferOne_eq, htarget, horigin]
    rfl
  rw [move, transfer, forEach_cons_ok hone, forEach_nil]

/-- A move of what is found first: a bridge of its value, after which it is killed. -/
theorem transferPath_of_found {others : List NodeId}
    (hfound : (t.findPath origin).1 = source :: others) :
    transferPath false true t origin target =
      (((t.findPath origin).2.bridgePath target
        ((t.findPath origin).2.value source)).kill source).2 := by
  unfold transferPath
  dsimp only
  rw [hfound]
  rfl

/-- If the write gives the value of the source to a node of the document that is then neither the
source nor below it, some node of the document has the value after the move. -/
theorem move_keeps_value (ht : t.Reachable) (horigin : Path.parse raw = .ok origin)
    (htarget : Path.parse raw' = .ok target) {others : List NodeId}
    (hfound : (t.findPath origin).1 = source :: others) {n : Node}
    (hn : t.root.find? source = some n) (hw : (t.move [(raw, raw')]).2.slots.Unwrapped)
    {d : NodeId × Tree} (hd : d ∈ (t.findPath origin).2.deposits target n.toJson)
    (hout : Outside source d) :
    ∃ t', t.move [(raw, raw')] = (.ok (), t') ∧
      ∃ m ∈ t'.root :: t'.root.descendants, m.toJson = n.toJson := by
  have hl := leads_findPath horigin ht.sound
  have hsound := hl.sound ht.sound
  have hroot : (t.findPath origin).2.root.find? source = some n := by rwa [root_findPath]
  have hvalue : (t.findPath origin).2.value source = n.toJson := by
    rw [value, view_of_node? (Sound.node?_of_find?_root hroot)]
  have hmove := move_singleton (t := t) horigin htarget
  rw [transferPath_of_found hfound, hvalue] at hmove
  refine ⟨_, hmove, ?_⟩
  rw [hmove] at hw
  have hw' := (Leads.single (.kill _ source)).le_slots.unwrapped hw
  have hapart := hasApart_of_mem_deposits (Path.wellFormed_of_parse htarget)
    (hvalue ▸ hsound.distinct_view source) hsound (seen_of_mem_root (Node.mem_ids_of_find? hroot))
    hw' hd hout
  rw [root_kill]
  split
  · exact hapart.exists_mem_erase
  · exact hapart.exists_mem

/-- A move into a new object. -/
theorem move_keeps_value_nested :
    ∃ t', (ofJson .builtin (.object [("a", .bool true)])).move [("a", "b.c")] = (.ok (), t') ∧
      ∃ m ∈ t'.root :: t'.root.descendants, m.toJson = .bool true := by
  have hreachable : (ofJson .builtin (.object [("a", .bool true)])).Reachable := .ofJson _ (by simp)
  have horigin : Path.parse "a" = .ok ⟨"a", [⟨"a", .key "a", none, false⟩]⟩ := rfl
  have htarget : Path.parse "b.c" =
      .ok ⟨"b.c", [⟨"b", .key "b", none, false⟩, ⟨"c", .key "c", none, false⟩]⟩ := rfl
  have hn : (ofJson .builtin (.object [("a", .bool true)])).root.find? ⟨1, 0⟩ =
      some (.scalar ⟨1, 0⟩ (.bool true)) := rfl
  exact move_keeps_value hreachable horigin htarget rfl hn (by decide) (List.mem_cons_self ..)
    (by decide)

/-- A value that is moved to its own place is removed with it. -/
theorem move_onto_itself :
    ((ofJson .builtin (.object [("a", .bool true)])).find "a").map Prod.fst = .ok [⟨1, 0⟩] ∧
      (ofJson .builtin (.object [("a", .bool true)])).root.find? ⟨1, 0⟩ =
        some (.scalar ⟨1, 0⟩ (.bool true)) ∧
      ((ofJson .builtin (.object [("a", .bool true)])).move [("a", "a")]).1 = .ok () ∧
      ¬ ∃ m ∈ ((ofJson .builtin (.object [("a", .bool true)])).move [("a", "a")]).2.root ::
          ((ofJson .builtin (.object [("a", .bool true)])).move [("a", "a")]).2.root.descendants,
        m.toJson = .bool true := by
  have hroot : ((ofJson .builtin (.object [("a", .bool true)])).move [("a", "a")]).2.root =
      .map ⟨0, 0⟩ [] := rfl
  refine ⟨rfl, rfl, rfl, ?_⟩
  rw [hroot]
  rintro ⟨m, hm, hvalue⟩
  obtain rfl : m = .map ⟨0, 0⟩ [] := by
    simpa [Node.descendants, Node.edges, Node.edgesOfEntries] using hm
  cases hvalue

end DocPath.Tree

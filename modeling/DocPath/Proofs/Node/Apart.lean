import DocPath.Proofs.Node.Position

/-!
# Nodes apart from each other

Of two nodes of a document one is at or below the other, or they are apart. In the second case a
change of the one leaves the other as it is, under the same containers (`Context.fill_eq_fill`).

The handles of the containers above the place of a context are its `spine`. A node that is not on
the spine is erased or exchanged without an effect on the place (`Context.exists_erase_fill`,
`Context.exists_replace_fill`).
-/

namespace DocPath.Node

variable {n m : Node} {id : NodeId}

/-- Two splits of one list at an element: at the same place, or so that the one element stays when
the other is exchanged. -/
theorem append_cons_eq_append_cons {α : Type} {before before' after after' : List α} {a b : α}
    (h : before ++ a :: after = before' ++ b :: after') :
    (before = before' ∧ a = b ∧ after = after') ∨
      ∀ b', ∃ left right, before' ++ b' :: after' = left ++ a :: right := by
  rcases List.append_eq_append_iff.1 h with ⟨between, hbefore, hafter⟩ | ⟨between, hbefore, hafter⟩
  · cases between with
    | nil =>
      obtain ⟨rfl, rfl⟩ := List.cons.inj hafter
      exact .inl ⟨by rw [hbefore, List.append_nil], rfl, rfl⟩
    | cons c between =>
      -- the first element stands before the second one
      obtain ⟨rfl, -⟩ := List.cons.inj hafter
      exact .inr fun b' ↦ ⟨before, between ++ b' :: after', by rw [hbefore]; simp⟩
  · cases between with
    | nil =>
      obtain ⟨rfl, rfl⟩ := List.cons.inj hafter
      exact .inl ⟨by rw [hbefore, List.append_nil], rfl, rfl⟩
    | cons c between =>
      obtain ⟨rfl, rfl⟩ := List.cons.inj hafter
      exact .inr fun b' ↦ ⟨before' ++ b' :: between, after, by simp⟩

namespace Frame

/-- Two children of one container are the same, or the one stays when the other is exchanged. -/
theorem fill_eq_fill {f g : Frame} (h : f.fill m = g.fill n) :
    (f = g ∧ m = n) ∨ ∀ n', ∃ f', g.fill n' = Frame.fill f' m ∧ f'.close.id = f.close.id := by
  cases f with
  | sequence i before after =>
    cases g with
    | map j before' name after' => cases h
    | sequence j before' after' =>
      obtain ⟨rfl, hitems⟩ := Node.sequence.inj h
      rcases append_cons_eq_append_cons hitems with ⟨rfl, rfl, rfl⟩ | hapart
      · exact .inl ⟨rfl, rfl⟩
      · refine .inr fun n' ↦ ?_
        obtain ⟨left, right, hsplit⟩ := hapart n'
        exact ⟨.sequence i left right, congrArg (Node.sequence i) hsplit, rfl⟩
  | map i before name after =>
    cases g with
    | sequence j before' after' => cases h
    | map j before' name' after' =>
      obtain ⟨rfl, hentries⟩ := Node.map.inj h
      rcases append_cons_eq_append_cons hentries with ⟨rfl, heq, rfl⟩ | hapart
      · obtain ⟨rfl, rfl⟩ := Prod.mk.inj heq
        exact .inl ⟨rfl, rfl⟩
      · refine .inr fun n' ↦ ?_
        obtain ⟨left, right, hsplit⟩ := hapart (name', n')
        exact ⟨.map i left name right, congrArg (Node.map i) hsplit, rfl⟩

/-- Erasing below a container keeps a child that has another handle, without what is erased below
it. -/
theorem exists_erase_fill (f : Frame) (hn : n.id ≠ id) :
    ∃ f' : Frame, (f.fill n).erase id = f'.fill (n.erase id) := by
  cases f with
  | sequence i before after =>
    refine ⟨.sequence i ((before.filter (·.id ≠ id)).map (erase id))
      ((after.filter (·.id ≠ id)).map (erase id)), ?_⟩
    simp [fill, erase, eraseItems_eq, hn]
  | map i before name after =>
    refine ⟨.map i ((before.filter (·.2.id ≠ id)).map fun entry ↦ (entry.1, entry.2.erase id)) name
      ((after.filter (·.2.id ≠ id)).map fun entry ↦ (entry.1, entry.2.erase id)), ?_⟩
    simp [fill, erase, eraseEntries_eq, hn]

/-- Exchanging a node below a container keeps a child, with the node exchanged below it. -/
theorem exists_replace_fill (f : Frame) (hf : f.close.id ≠ id) (new : Node) :
    ∃ f' : Frame, f'.close.id = f.close.id ∧ f'.key = f.key ∧
      replace id new (f.fill n) = f'.fill (replace id new n) := by
  rw [replace_of_ne new (f.id_fill n ▸ hf)]
  cases f with
  | sequence i before after =>
    refine ⟨.sequence i (before.map (replace id new)) (after.map (replace id new)), rfl, ?_, ?_⟩
    · simp [key]
    · simp [fill, mapChildren]
  | map i before name after =>
    refine ⟨.map i (before.map fun entry ↦ (entry.1, replace id new entry.2)) name
      (after.map fun entry ↦ (entry.1, replace id new entry.2)), rfl, rfl, ?_⟩
    simp [fill, mapChildren]

end Frame

namespace Context

variable {c d : Context}

/-- The handles of the containers above the place of a context, the outermost first. -/
def spine (c : Context) : List NodeId :=
  c.map fun f ↦ f.close.id

@[simp] theorem spine_nil : spine [] = [] := rfl

@[simp] theorem spine_cons (f : Frame) (c : Context) : spine (f :: c) = f.close.id :: spine c := rfl

@[simp] theorem spine_append (c d : Context) : spine (c ++ d) = spine c ++ spine d :=
  List.map_append

theorem spine_subset_ids_fill (c : Context) (n : Node) : spine c ⊆ (fill c n).ids := by
  induction c with
  | nil => exact List.nil_subset _
  | cons f c ih =>
    intro id hid
    rw [mem_ids_fill, ids_cons, List.mem_append]
    rcases List.mem_cons.1 hid with rfl | hid
    · exact .inl (.inl f.id_close_mem_ids)
    · exact (mem_ids_fill.1 (ih hid)).imp_left .inr

/-- The parents on the way down to the place of a context are its spine. -/
theorem map_parent_steps (c : Context) (n : Node) :
    ((steps c n).map fun step ↦ step.parent.id) = spine c := by
  induction c with
  | nil => rfl
  | cons f c ih => rw [steps, List.map_cons, ih, spine_cons, Frame.id_fill]

/-- The top of a filled context is on its spine, or is the filling. -/
theorem id_fill_mem (c : Context) (n : Node) : (fill c n).id ∈ spine c ++ [n.id] := by
  cases c with
  | nil => simp
  | cons f c => simp

/-- Two places in one node: one of them is at or below the other, or they are apart, and then the
filling of the one stays under the same containers when the other is filled with another node. -/
theorem fill_eq_fill (h : fill c m = fill d n) :
    (∃ e, c = d ++ e ∧ n = fill e m) ∨ (∃ e, d = c ++ e ∧ m = fill e n) ∨
      ∀ n', ∃ c', fill d n' = fill c' m ∧ spine c' = spine c := by
  induction c generalizing d with
  | nil => exact .inr (.inl ⟨d, rfl, h⟩)
  | cons f c ih =>
    cases d with
    | nil => exact .inl ⟨f :: c, rfl, h.symm⟩
    | cons g d =>
      rcases Frame.fill_eq_fill h with ⟨rfl, hfill⟩ | hapart
      · rcases ih hfill with ⟨e, rfl, rfl⟩ | ⟨e, rfl, rfl⟩ | hapart
        · exact .inl ⟨e, rfl, rfl⟩
        · exact .inr (.inl ⟨e, rfl, rfl⟩)
        · refine .inr (.inr fun n' ↦ ?_)
          obtain ⟨c', hc', hspine⟩ := hapart n'
          exact ⟨f :: c', by rw [fill_cons, hc', fill_cons], by rw [spine_cons, hspine, spine_cons]⟩
      · refine .inr (.inr fun n' ↦ ?_)
        obtain ⟨f', hf', hid⟩ := hapart (fill d n')
        exact ⟨f' :: c, hf', by rw [spine_cons, hid, spine_cons]⟩

/-- Erasing a node that is neither above the place of a context nor in the filling keeps the
filling. -/
theorem exists_erase_fill (hspine : id ∉ spine c) (hn : id ∉ n.ids) :
    ∃ c', (fill c n).erase id = fill c' n := by
  induction c with
  | nil => exact ⟨[], erase_of_notMem hn⟩
  | cons f c ih =>
    rw [spine_cons, List.mem_cons, not_or] at hspine
    obtain ⟨c', hc'⟩ := ih hspine.2
    have hne : (fill c n).id ≠ id := by
      rintro rfl
      rcases List.mem_append.1 (id_fill_mem c n) with hmem | hmem
      · exact hspine.2 hmem
      · exact hn (List.mem_singleton.1 hmem ▸ n.id_mem_ids)
    obtain ⟨f', hf'⟩ := f.exists_erase_fill hne
    exact ⟨f' :: c', by rw [fill_cons, hf', hc', fill_cons]⟩

/-- Exchanging a node that is not above the place of a context does so in the filling, and keeps the
filling where it is. -/
theorem replace_fill_of_notMem_spine (hspine : id ∉ spine c) (n new : Node) :
    ∃ c', spine c' = spine c ∧ keys c' = keys c ∧
      replace id new (fill c n) = fill c' (replace id new n) := by
  induction c with
  | nil => exact ⟨[], rfl, rfl, rfl⟩
  | cons f c ih =>
    rw [spine_cons, List.mem_cons, not_or] at hspine
    obtain ⟨c', hspine', hkeys, hc'⟩ := ih hspine.2
    obtain ⟨f', hf, hkey, hf'⟩ := f.exists_replace_fill (n := fill c n) (Ne.symm hspine.1) new
    exact ⟨f' :: c', by rw [spine_cons, spine_cons, hf, hspine'],
      by rw [keys_cons, keys_cons, hkey, hkeys], by rw [fill_cons, hf', hc', fill_cons]⟩

/-- Exchanging a node that is neither above the place of a context nor in the filling keeps the
filling, under the same containers. -/
theorem exists_replace_fill (hspine : id ∉ spine c) (hn : id ∉ n.ids) (new : Node) :
    ∃ c', spine c' = spine c ∧ replace id new (fill c n) = fill c' n := by
  obtain ⟨c', hspine', -, hfill⟩ := replace_fill_of_notMem_spine hspine n new
  exact ⟨c', hspine', by rw [hfill, replace_of_notMem new hn]⟩

end Context

end DocPath.Node

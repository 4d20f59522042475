import DocPath.Proofs.Tree.Lockstep
import DocPath.Proofs.Tree.Reachable

/-!
# Calls see the document only

A `Call` is one of the operations by path that begin at the root, with its arguments, and its
`Answer` is all that a caller learns from it: what it gives back, the failures that it logs, and the
document after it. What a tree answers depends on its document and its registry alone: not on how it
came about, on which slots are free, on generations, or on nodes beside the document. So the trees
are an implementation of a function on plain values.

* `answers_eq_of_twins` — twins give the same answers
* `answers_eq_of_document_eq` — so do any two reachable trees of one document and one registry
-/

namespace DocPath.Tree

/-- An operation by path that begins at the root. By the two flags a transfer is a copy of the first
match, a copy of all, a move of the first match or a move of all. -/
inductive Call
  | findValues (path : String)
  | set (entries : List (String × Json))
  | bridge (entries : List (String × Json))
  | transfer (all moving : Bool) (entries : List (String × String))
  | delete (paths : List String)

/-- The values in a call have distinct keys. -/
def Call.Distinct : Call → Prop
  | set entries => DistinctValues entries
  | bridge entries => DistinctValues entries
  | _ => True

/-- What a call gives back. -/
inductive Reply
  | values (found : Except PathError (List Json))
  | done (outcome : Except PathError Unit)
  | count (deleted : Except PathError Nat)

/-- What is seen of a call: what it gives back, the failures it adds to the log, and the document
after it. -/
structure Answer where
  reply : Reply
  diagnostics : List Diagnostic
  document : Json

/-- Carries out a call. -/
def run (t : Tree) : Call → Reply × Tree
  | .findValues path =>
    match t.findValues path with
    | .ok (values, t) => (.values (.ok values), t)
    | .error e => (.values (.error e), t)
  | .set entries =>
    let (outcome, t) := t.set entries
    (.done outcome, t)
  | .bridge entries =>
    let (outcome, t) := t.bridge entries
    (.done outcome, t)
  | .transfer all moving entries =>
    let (outcome, t) := transfer all moving t entries
    (.done outcome, t)
  | .delete paths =>
    let (deleted, t) := t.delete paths
    (.count deleted, t)

/-- Carries out a call and tells what is seen of it. -/
def answer (t : Tree) (call : Call) : Answer × Tree :=
  let (reply, t') := t.run call
  (⟨reply, t'.log.drop t.log.length, t'.document⟩, t')

/-- Carries out calls, one after the other. -/
def answers (t : Tree) : List Call → List Answer × Tree
  | [] => ([], t)
  | call :: rest =>
    let (first, t) := t.answer call
    let (others, t) := answers t rest
    (first :: others, t)

variable {σ : Renaming} {t u : Tree}

/-! ### Entries -/

/-- What one step gives for each of two twins: the same error, or twins again. -/
def InStep (σ : Renaming) (t u : Tree) : Except PathError Tree → Except PathError Tree → Prop
  | .ok t', .ok u' => t'.Unwrapped u' → ∃ τ, Follows σ t u τ t' u'
  | .error e, .error e' => e = e'
  | _, _ => False

namespace Twins

/-- Entries are treated alike if each of them is. -/
theorem forEach {α : Type} {step : Tree → α → Except PathError Tree} {entries : List α}
    (h : Twins σ t u)
    (hleads : ∀ a ∈ entries, ∀ {t t' : Tree}, t.Sound → step t a = .ok t' → t.Leads t')
    (hstep : ∀ a ∈ entries, ∀ {σ : Renaming} {t u : Tree}, Twins σ t u →
      InStep σ t u (step t a) (step u a))
    (hw : (t.forEach step entries).2.Unwrapped (u.forEach step entries).2) :
    (u.forEach step entries).1 = (t.forEach step entries).1 ∧
      ∃ τ, Follows σ t u τ (t.forEach step entries).2 (u.forEach step entries).2 := by
  induction entries generalizing σ t u with
  | nil => exact ⟨rfl, σ, .refl h⟩
  | cons a rest ih =>
    have hleads' := fun b hb ↦ @hleads b (List.mem_cons_of_mem a hb)
    have hfirst := hstep a (List.mem_cons_self ..) h
    cases ha : step t a with
    | error e =>
      rw [ha] at hfirst
      cases hb : step u a with
      | error e' =>
        obtain rfl : e = e' := by rwa [hb] at hfirst
        rw [forEach_cons_error ha, forEach_cons_error hb]
        exact ⟨rfl, σ, .refl h⟩
      | ok u' => rw [hb] at hfirst; exact hfirst.elim
    | ok t' =>
      rw [ha] at hfirst
      cases hb : step u a with
      | error e' => rw [hb] at hfirst; exact hfirst.elim
      | ok u' =>
        rw [hb] at hfirst
        rw [forEach_cons_ok ha, forEach_cons_ok hb] at *
        have hl := (hleads a (List.mem_cons_self ..) h.left ha).sound h.left
        have hr := (hleads a (List.mem_cons_self ..) h.right hb).sound h.right
        obtain ⟨τ, hτ⟩ := hfirst
          (hw.of_leads (leads_forEach hleads' hl) (leads_forEach hleads' hr))
        obtain ⟨hresult, ρ, hρ⟩ := ih hτ.twins hleads'
          (fun b hb ↦ @hstep b (List.mem_cons_of_mem a hb)) hw
        exact ⟨hresult, ρ, hτ.trans hρ⟩

theorem inStep_setOne (h : Twins σ t u) {entry : String × Json} (hv : entry.2.Distinct) :
    InStep σ t u (t.setOne entry) (u.setOne entry) := by
  rw [setOne_eq, setOne_eq]
  cases hp : Path.parse entry.1 with
  | error e => rfl
  | ok p =>
    intro hw
    obtain ⟨τ, hfound, hids⟩ := h.findPath hp
      (hw.of_leads (leads_replaceEach _ _ hv) (leads_replaceEach _ _ hv))
    obtain ⟨ρ, hset⟩ := hfound.twins.replaceEach hids hv hw
    exact ⟨ρ, hfound.trans hset⟩

theorem inStep_bridgeOne (h : Twins σ t u) {entry : String × Json} (hv : entry.2.Distinct) :
    InStep σ t u (t.bridgeOne entry) (u.bridgeOne entry) := by
  rw [bridgeOne_eq, bridgeOne_eq]
  cases hp : Path.parse entry.1 with
  | error e => rfl
  | ok p => exact h.bridgePath hp hv

theorem sources_same {ids ids' : List NodeId} (h : Same σ t u ids ids') (all : Bool) :
    Same σ t u (sources all ids) (sources all ids') := by
  cases all with
  | true => exact h
  | false =>
    refine ⟨?_, fun id hid ↦ h.2 id (List.mem_of_mem_take hid)⟩
    show ids'.take 1 = (ids.take 1).map σ
    rw [h.1, List.map_take]

theorem map_value (h : Twins σ t u) {ids ids' : List NodeId} (hids : Same σ t u ids ids') :
    ids'.map u.value = ids.map t.value := by
  rw [hids.1, List.map_map]
  exact List.map_congr_left fun id hid ↦ h.value (hids.2 id hid)

theorem transferPath (h : Twins σ t u) {raw raw' : String} {origin target : Path}
    (horigin : Path.parse raw = .ok origin) (htarget : Path.parse raw' = .ok target)
    (all moving : Bool)
    (hw : (transferPath all moving t origin target).Unwrapped
      (Tree.transferPath all moving u origin target)) :
    ∃ τ, Follows σ t u τ (Tree.transferPath all moving t origin target)
      (Tree.transferPath all moving u origin target) := by
  have hl := (leads_findPath horigin h.left).sound h.left
  have hr := (leads_findPath horigin h.right).sound h.right
  have hgoesOn : ∀ (t' : Tree) (ids : List NodeId),
      t'.Leads (if moving then (t'.killAll ids).2 else t') := by
    intro t' ids
    split
    · exact leads_killAll t' ids
    · exact .refl t'
  -- all values are read before the first one is written
  unfold Tree.transferPath at *
  dsimp only at hw ⊢
  have hwritten := hw.of_leads (hgoesOn _ _) (hgoesOn _ _)
  obtain ⟨τ, hfound, hids⟩ := h.findPath horigin (hwritten.of_leads
    (leads_bridgeEach htarget (hl.distinct_values _) hl)
    (leads_bridgeEach htarget (hr.distinct_values _) hr))
  have hmoved := sources_same hids all
  rw [hfound.twins.map_value hmoved] at hw hwritten ⊢
  obtain ⟨ρ, hbridge⟩ := hfound.twins.bridgeEach htarget (hl.distinct_values _) hwritten
  cases moving with
  | true =>
    obtain ⟨-, hkilled⟩ := hbridge.twins.killAll (hmoved.follows hbridge) hw
    exact ⟨ρ, (hfound.trans hbridge).trans hkilled⟩
  | false => exact ⟨ρ, hfound.trans hbridge⟩

theorem inStep_transferOne (h : Twins σ t u) (all moving : Bool) (entry : String × String) :
    InStep σ t u (t.transferOne all moving entry) (u.transferOne all moving entry) := by
  rw [transferOne_eq, transferOne_eq]
  cases htarget : Path.parse entry.2 with
  | error e => rfl
  | ok target =>
    cases horigin : Path.parse entry.1 with
    | error e => rfl
    | ok origin => exact h.transferPath horigin htarget all moving

theorem deleteFrom (h : Twins σ t u) (count : Nat) (paths : List String)
    (hw : (deleteFrom count t paths).2.Unwrapped (Tree.deleteFrom count u paths).2) :
    (Tree.deleteFrom count u paths).1 = (Tree.deleteFrom count t paths).1 ∧
      ∃ τ, Follows σ t u τ (Tree.deleteFrom count t paths).2 (Tree.deleteFrom count u paths).2 := by
  induction paths generalizing σ t u count with
  | nil => exact ⟨rfl, σ, .refl h⟩
  | cons path rest ih =>
    rw [deleteFrom_cons, deleteFrom_cons] at *
    cases hp : Path.parse path with
    | error e => exact ⟨rfl, σ, .refl h⟩
    | ok p =>
      simp only [hp] at hw ⊢
      have hl := leads_findPath hp h.left
      have hr := leads_findPath hp h.right
      have hl' := leads_killAll (t.findPath p).2 (t.findPath p).1
      have hr' := leads_killAll (u.findPath p).2 (u.findPath p).1
      have hdeleted := hw.of_leads
        (leads_deleteFrom _ rest ((hl.trans hl').sound h.left))
        (leads_deleteFrom _ rest ((hr.trans hr').sound h.right))
      obtain ⟨τ, hfound, hids⟩ := h.findPath hp (hdeleted.of_leads hl' hr')
      obtain ⟨hcount, hkilled⟩ := hfound.twins.killAll hids hdeleted
      rw [hcount] at hw ⊢
      obtain ⟨hresult, ρ, hlast⟩ := ih hkilled.twins _ hw
      exact ⟨hresult, ρ, (hfound.trans hkilled).trans hlast⟩

/-! ### Calls -/

theorem findValues (h : Twins σ t u) (path : String)
    (hw : (t.run (.findValues path)).2.Unwrapped (u.run (.findValues path)).2) :
    (u.run (.findValues path)).1 = (t.run (.findValues path)).1 ∧
      ∃ τ, Follows σ t u τ (t.run (.findValues path)).2 (u.run (.findValues path)).2 := by
  simp only [run, findValues_eq] at hw ⊢
  cases hp : Path.parse path with
  | error e => exact ⟨rfl, σ, .refl h⟩
  | ok p =>
    simp only [hp, Except.map] at hw ⊢
    obtain ⟨τ, hfound, hids⟩ := h.findPath hp
      (hw.of_leads (.single (.releaseScratch _ [])) (.single (.releaseScratch _ [])))
    rw [hfound.twins.map_value hids]
    exact ⟨rfl, τ, hfound.trans (hfound.twins.releaseScratch (.nil ..) hw)⟩

/-- A call gives back the same on twins, and leaves twins. -/
theorem run (h : Twins σ t u) {call : Call} (hcall : call.Distinct)
    (hw : (t.run call).2.Unwrapped (u.run call).2) :
    (u.run call).1 = (t.run call).1 ∧ ∃ τ, Follows σ t u τ (t.run call).2 (u.run call).2 := by
  cases call with
  | findValues path => exact h.findValues path hw
  | set entries =>
    obtain ⟨hresult, hfollows⟩ := h.forEach
      (fun entry hentry _ _ ht ↦ leads_setOne (hcall entry hentry) ht)
      (fun entry hentry _ _ _ h ↦ h.inStep_setOne (hcall entry hentry)) hw
    exact ⟨congrArg Reply.done hresult, hfollows⟩
  | bridge entries =>
    obtain ⟨hresult, hfollows⟩ := h.forEach
      (fun entry hentry _ _ ht ↦ leads_bridgeOne (hcall entry hentry) ht)
      (fun entry hentry _ _ _ h ↦ h.inStep_bridgeOne (hcall entry hentry)) hw
    exact ⟨congrArg Reply.done hresult, hfollows⟩
  | transfer all moving entries =>
    obtain ⟨hresult, hfollows⟩ := h.forEach
      (fun _ _ _ _ ht ↦ leads_transferOne ht)
      (fun entry _ _ _ _ h ↦ h.inStep_transferOne all moving entry) hw
    exact ⟨congrArg Reply.done hresult, hfollows⟩
  | delete paths =>
    obtain ⟨hresult, hfollows⟩ := h.deleteFrom 0 paths hw
    exact ⟨congrArg Reply.count hresult, hfollows⟩

theorem answer (h : Twins σ t u) {call : Call} (hcall : call.Distinct)
    (hw : (t.answer call).2.Unwrapped (u.answer call).2) :
    (u.answer call).1 = (t.answer call).1 ∧
      ∃ τ, Follows σ t u τ (t.answer call).2 (u.answer call).2 := by
  obtain ⟨hreply, τ, hfollows⟩ := h.run hcall hw
  obtain ⟨news, hl, hr⟩ := hfollows.log
  -- twins have one document, since renaming handles changes no value
  have hdocument : (u.run call).2.document = (t.run call).2.document := by
    rw [document, hfollows.twins.root, Node.toJson_rename]
    rfl
  refine ⟨?_, τ, hfollows⟩
  unfold Tree.answer
  dsimp only
  rw [hreply, hdocument, hl, hr, List.drop_left, List.drop_left]

end Twins

theorem leads_run (ht : t.Sound) {call : Call} (hcall : call.Distinct) :
    t.Leads (t.run call).2 := by
  cases call with
  | findValues path =>
    unfold run
    dsimp only
    split
    · rename_i hfound
      exact leads_findValues hfound ht
    · exact .refl t
  | set entries => exact leads_set hcall ht
  | bridge entries => exact leads_bridge hcall ht
  | transfer all moving entries => exact leads_transfer all moving entries ht
  | delete paths => exact leads_delete paths ht

theorem leads_answers (ht : t.Sound) {calls : List Call} (hcalls : ∀ call ∈ calls, call.Distinct) :
    t.Leads (t.answers calls).2 := by
  induction calls generalizing t with
  | nil => exact .refl t
  | cons call rest ih =>
    rw [List.forall_mem_cons] at hcalls
    have hfirst : t.Leads (t.answer call).2 := leads_run ht hcalls.1
    exact hfirst.trans (ih (hfirst.sound ht) hcalls.2)

/-- Twins give the same answers. -/
theorem answers_eq_of_twins (h : Twins σ t u) {calls : List Call}
    (hcalls : ∀ call ∈ calls, call.Distinct)
    (hw : (t.answers calls).2.Unwrapped (u.answers calls).2) :
    (u.answers calls).1 = (t.answers calls).1 := by
  induction calls generalizing σ t u with
  | nil => rfl
  | cons call rest ih =>
    rw [List.forall_mem_cons] at hcalls
    have hl : t.Leads (t.answer call).2 := leads_run h.left hcalls.1
    have hr : u.Leads (u.answer call).2 := leads_run h.right hcalls.1
    obtain ⟨hfirst, τ, hfollows⟩ := h.answer hcalls.1 (hw.of_leads
      (leads_answers (hl.sound h.left) hcalls.2) (leads_answers (hr.sound h.right) hcalls.2))
    have hothers := ih hfollows.twins hcalls.2 hw
    show (u.answer call).1 :: ((u.answer call).2.answers rest).1 =
      (t.answer call).1 :: ((t.answer call).2.answers rest).1
    rw [hfirst, hothers]

/-- Sound trees of one document and one registry are twins. -/
theorem exists_twins (ht : t.Sound) (hu : u.Sound) (hdocument : t.document = u.document)
    (hregistry : t.registry = u.registry) (hw : t.Unwrapped u) : ∃ σ, Twins σ t u := by
  have hleft := ht.nodup_ids_of_mem_tops t.root_mem_tops
  have hright := hu.nodup_ids_of_mem_tops u.root_mem_tops
  have hvalues : [t.root].map Node.toJson = [u.root].map Node.toJson :=
    congrArg (fun v ↦ [v]) hdocument
  obtain ⟨σ, hσ, -⟩ := Node.exists_rename (Equiv.refl _) [t.root] [u.root] hvalues
    (by simpa using hleft) (by simpa using hright)
  exact ⟨σ, ht, hu, hw, hregistry.symm, by simpa [eq_comm] using hσ⟩

/-- Whatever was done with two trees before, if they have the same document and the same registry
they give the same answers to the same calls, as long as no slot is released `2 ^ 32` times. -/
theorem answers_eq_of_document_eq (ht : t.Reachable) (hu : u.Reachable)
    (hdocument : t.document = u.document) (hregistry : t.registry = u.registry)
    {calls : List Call} (hcalls : ∀ call ∈ calls, call.Distinct)
    (hw : (t.answers calls).2.slots.Unwrapped) (hw' : (u.answers calls).2.slots.Unwrapped) :
    (t.answers calls).1 = (u.answers calls).1 := by
  have hl := leads_answers ht.sound hcalls
  have hr := leads_answers hu.sound hcalls
  have hboth : (t.answers calls).2.Unwrapped (u.answers calls).2 := ⟨hw, hw'⟩
  obtain ⟨σ, hσ⟩ := exists_twins ht.sound hu.sound hdocument hregistry (hboth.of_leads hl hr)
  exact (answers_eq_of_twins hσ hcalls hboth).symm

/-- A tree in which a slot has become free, and one in which none was ever released. -/
theorem answers_eq_of_document_eq_kill :
    let t := ((ofJson .builtin (.array [.null, .array []])).kill ⟨2, 0⟩).2
    let u := ofJson .builtin (.array [.null])
    let calls := [.bridge [("[1].a", .bool true)], .transfer true true [("[1].a", "[0]")],
      .delete ["[0]", "\x7b"], .findValues "*"]
    t.slots.free = [2] ∧ u.slots.free = [] ∧ (t.answers calls).1 = (u.answers calls).1 := by
  refine ⟨by decide, by decide, answers_eq_of_document_eq (.kill (.ofJson _ (by simp)) _)
    (.ofJson _ (by simp)) rfl rfl ?_ ?_ ?_⟩
  · simp [Call.Distinct, DistinctValues]
  · decide +kernel
  · decide +kernel

end DocPath.Tree

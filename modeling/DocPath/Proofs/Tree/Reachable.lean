import DocPath.Proofs.Tree.Change
import DocPath.Proofs.Tree.Trail

/-!
# Trees that can come up

`Reachable` trees are those that the operations make, in any order and with any arguments, beginning
with the tree of a document. Handles are arbitrary: an operation may be given one that is stale or
that was never a handle of the tree.

Every reachable tree is sound, since operations are runs of elementary changes
(`Reachable.sound`).
-/

namespace DocPath.Tree

open DocPath.Path (Segment)

/-- The trees that the operations make from trees of documents. -/
inductive Reachable : Tree → Prop
  | ofJson (registry : Registry) {v : Json} (hv : v.Distinct) : Reachable (ofJson registry v)
  | find {t : Tree} (ht : Reachable t) {path : String} {found : List NodeId × Tree}
    (h : t.find path = .ok found) : Reachable found.2
  | findValues {t : Tree} (ht : Reachable t) {path : String} {found : List Json × Tree}
    (h : t.findValues path = .ok found) : Reachable found.2
  | findFrom {t : Tree} (ht : Reachable t) {p : Path} (hp : ∀ s ∈ p.segments, s.selector.WellFormed)
    (start : NodeId) : Reachable (t.findFrom p start).2
  | segmentMatches {t : Tree} (ht : Reachable t) {s : Segment} (hs : s.selector.WellFormed)
    (id : NodeId) : Reachable (t.segmentMatches s id).2
  | evaluates {t : Tree} (ht : Reachable t) (s : Segment) (id : NodeId) :
    Reachable (t.evaluates s id).2
  | set {t : Tree} (ht : Reachable t) {entries : List (String × Json)}
    (hv : DistinctValues entries) : Reachable (t.set entries).2
  | bridge {t : Tree} (ht : Reachable t) {entries : List (String × Json)}
    (hv : DistinctValues entries) : Reachable (t.bridge entries).2
  | transfer {t : Tree} (ht : Reachable t) (all moving : Bool) (entries : List (String × String)) :
    Reachable (transfer all moving t entries).2
  | delete {t : Tree} (ht : Reachable t) (paths : List String) : Reachable (t.delete paths).2
  | exportFrom {t other : Tree} (ht : Reachable t) (hother : Reachable other) (moving : Bool)
    (paths : List String) : Reachable (exportAll moving t other paths).2.1
  | exportTo {t other : Tree} (ht : Reachable t) (hother : Reachable other) (moving : Bool)
    (paths : List String) : Reachable (exportAll moving t other paths).2.2
  | kill {t : Tree} (ht : Reachable t) (id : NodeId) : Reachable (t.kill id).2
  | adopt {t : Tree} (ht : Reachable t) {v : Json} (hv : v.Distinct) : Reachable (t.adopt v).2
  | replaceWith {t : Tree} (ht : Reachable t) (id : NodeId) {v : Json} (hv : v.Distinct) :
    Reachable (t.replaceWith id v)
  | insertChild {t : Tree} (ht : Reachable t) (id : NodeId) (key : Key) {v : Json}
    (hv : v.Distinct) : Reachable (t.insertChild id key v).2
  | deleteChild {t : Tree} (ht : Reachable t) (id : NodeId) (key : Key) :
    Reachable (t.deleteChild id key).2
  | takeLog {t : Tree} (ht : Reachable t) : Reachable t.takeLog.2

variable {t : Tree}

/-- Every reachable tree is sound. -/
theorem Reachable.sound (h : t.Reachable) : t.Sound := by
  induction h with
  | ofJson registry hv => exact sound_ofJson registry hv
  | find _ h ih => exact (leads_find h ih).sound ih
  | findValues _ h ih => exact (leads_findValues h ih).sound ih
  | findFrom _ hp start ih => exact (leads_findFrom hp ih start).sound ih
  | segmentMatches _ hs id ih => exact (leads_segmentMatches hs ih id).sound ih
  | evaluates _ s id ih => exact (leads_evaluates s _ id).sound ih
  | set _ hv ih => exact (leads_set hv ih).sound ih
  | bridge _ hv ih => exact (leads_bridge hv ih).sound ih
  | transfer _ all moving entries ih => exact (leads_transfer all moving entries ih).sound ih
  | delete _ paths ih => exact (leads_delete paths ih).sound ih
  | exportFrom _ _ moving paths ih ihother =>
    exact (leads_exportAll moving paths ih ihother).1.sound ih
  | exportTo _ _ moving paths ih ihother =>
    exact (leads_exportAll moving paths ih ihother).2.sound ihother
  | kill _ id ih => exact ih.kill id
  | adopt _ hv ih => exact ih.adopt hv
  | replaceWith _ id hv ih => exact ih.replaceWith id hv
  | insertChild _ id key hv ih => exact ih.insertChild id key hv
  | deleteChild _ id key ih => exact ih.deleteChild id key
  | takeLog _ ih => exact ih.takeLog

theorem Sound.nodup_map_id_tops (h : t.Sound) : (t.tops.map Node.id).Nodup :=
  h.handles.nodup.sublist (Node.map_id_sublist _)

end DocPath.Tree

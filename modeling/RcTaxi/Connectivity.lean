/-
This file proves that the connectivity check of the map is exact. Two searches from one lane, one
along the connectors and one against them, decide whether every lane can be reached from every
other; and the lanes `reachable_lanes` returns are those that can be reached.
-/

import RcTaxi.DrivingWorker

namespace RcTaxi

variable {α : Type} [Scalar α]

omit [Scalar α] in
/-- On a lane graph with valid references and both circuit labels, the check of the circuits accepts
iff every lane can be reached from every lane, and `reachable_lanes` returns the lanes that can be
reached from a lane, itself included. -/
theorem circuits_connected_and_reachableLanes (map : LaneMap α)
    (references : map.validateReferences = .ok ())
    (labels : (map.lanes.values.map LaneSegment.circuit).toFinset = {"inner", "outer"}) :
    (map.validateCircuits = .ok () ↔ ∀ source ∈ map.laneIds, ∀ target ∈ map.laneIds,
      Relation.ReflTransGen map.Adjacent source target) ∧
    ∀ source ∈ map.laneIds, ∃ result, map.reachableLanes source = .ok result ∧
      ∀ target, target ∈ result ↔ Relation.ReflTransGen map.Adjacent source target := by
  refine ⟨(LaneMap.validateCircuits_iff references).trans (and_iff_right labels),
    fun source inside => ?_⟩
  obtain ⟨result, run, _, reached⟩ := LaneMap.reachableLanes_spec references inside
  exact ⟨result, run, reached⟩

/-- On the ring the check accepts, and each of the two lanes is reached from the other. -/
theorem ringMap_connected_and_reachableLanes :
    (ringMap.validateCircuits = .ok () ↔ ∀ source ∈ ringMap.laneIds, ∀ target ∈ ringMap.laneIds,
      Relation.ReflTransGen ringMap.Adjacent source target) ∧
    ∀ source ∈ ringMap.laneIds, ∃ result, ringMap.reachableLanes source = .ok result ∧
      ∀ target, target ∈ result ↔ Relation.ReflTransGen ringMap.Adjacent source target :=
  circuits_connected_and_reachableLanes ringMap.toLaneMap ringMap.references (by decide +kernel)

end RcTaxi

/-
This file asks whether a table that passed at the start can fail a mission. The check looks at two
fields of each trigger, and a turn converts eleven fields of the layers to numbers; a null or a text
in one of the others passes the check, and the first route over such a turn raises. The condition
under which a turn resolves is one on its layers. Where it holds of the turns of a route, the route
can be set and every call on it returns.
-/

import RcTaxi.TurnLayers
import RcTaxi.FollowerCourse

namespace RcTaxi

variable {α : Type} [Scalar α]

namespace LaneFollower

/-- `set_route` of a lane route. -/
def setLaneRoute (follower : LaneFollower α) (route : LaneRoute α) :
    Except PyError (FollowerState α) := do
  let _ ← route.turns.mapM follower.table.resolve
  pure (.reset (some route))

variable {follower : LaneFollower α} {route : LaneRoute α}

/-- A planned route is set as the lane route it is folded to. -/
theorem setRoute_eq {planned : Route α} (folded : LaneRoute.fromRoute planned = .ok route) :
    follower.setRoute planned = follower.setLaneRoute route := by
  unfold setRoute
  rw [folded]
  rfl

/-- A lane route is set exactly if the numbers of its turns can be converted. -/
theorem setLaneRoute_yields (accepted : follower.table.Accepted) :
    Yields (follower.setLaneRoute route)
      (∀ turn ∈ route.turns, follower.table.Convertible turn.key) (.reset (some route)) :=
  ((Yields.mapM (TurnTable.resolve_yields accepted) route.turns).bind
    (by exact Yields.ok _)).congr (and_iff_left trivial) fun _ => rfl

/-- Every call on a route that was set returns. -/
theorem setLaneRoute_returns (accepted : follower.table.Accepted) {state later : FollowerState α}
    (set_ : follower.setLaneRoute route = .ok state) {calls : List (FollowerInput α × Driven α)}
    (ride : follower.Ride state calls later) (input : FollowerInput α) :
    follower.Returns (follower.computeAt input later) := by
  obtain ⟨convertible, rfl⟩ := (setLaneRoute_yields accepted _).mp set_
  exact ride.onRoute.returns (fun turn member => ⟨_,
    (TurnTable.resolve_yields accepted turn).ok_iff.mpr (convertible turn member)⟩) input

end LaneFollower

namespace TurnTable

/-- A turn of an accepted table resolves exactly if every number of its layers that is converted is
one. Of a follower with the table, a route is set exactly if this holds of its turns, and then every
call returns. -/
theorem resolves_iff_convertible {raw : PyValue α} {wheelbaseM maxWheelDeg : α}
    {table : TurnTable α} (made : new raw wheelbaseM maxWheelDeg = .ok table)
    (decoded : raw.Decoded) :
    (∀ turn : Turn α, (∃ spec, table.resolve turn = .ok spec) ↔ table.Convertible turn.key) ∧
      ∀ follower : LaneFollower α, follower.table = table → ∀ route : LaneRoute α,
        (∀ planned, LaneRoute.fromRoute planned = .ok route →
          follower.setRoute planned = follower.setLaneRoute route) ∧
        ((∃ state, follower.setLaneRoute route = .ok state) ↔
          ∀ turn ∈ route.turns, table.Convertible turn.key) ∧
        ∀ state, follower.setLaneRoute route = .ok state →
          ∀ calls later, follower.Ride state calls later →
            ∀ input, follower.Returns (follower.computeAt input later) := by
  obtain ⟨accepted, -⟩ := accepted_of_new made decoded
  refine ⟨fun turn => (resolve_yields accepted turn).exists_ok_iff, ?_⟩
  rintro follower rfl route
  exact ⟨fun planned => LaneFollower.setRoute_eq,
    (LaneFollower.setLaneRoute_yields accepted).exists_ok_iff,
    fun state set_ calls later ride => LaneFollower.setLaneRoute_returns accepted set_ ride⟩

/-- A table with one field of the defaults. -/
def armRaw (arm : PyValue ℚ) : PyValue ℚ :=
  .dict [("turn_table", .dict [("defaults", .dict [("arm_distance_m", arm)])])]

theorem armRaw_decoded {arm : PyValue ℚ} (decoded : arm.Decoded) : (armRaw arm).Decoded :=
  decoded.single.single.single

def nullTable : TurnTable ℚ :=
  returned (new (armRaw .none) (14 / 100) 30) (by decide +kernel)

def armTable : TurnTable ℚ :=
  returned (new (armRaw (.int 1)) (14 / 100) 30) (by decide +kernel)

/-- With a null for the distance of arming the table is accepted; a corner does not resolve, and no
follower with the table can be set on a route around it. -/
theorem null_raises :
    new (armRaw .none) (14 / 100) 30 = .ok nullTable ∧ (armRaw .none).Decoded ∧
      (¬ ∀ turn, ∃ spec, nullTable.resolve turn = .ok spec) ∧
      ∀ follower : LaneFollower ℚ, follower.table = nullTable →
        ¬ ∃ state, follower.setLaneRoute cornerRoute = .ok state := by
  have made : new (armRaw .none) (14 / 100) 30 = .ok nullTable := ok_returned _
  have decoded : (armRaw (.none : PyValue ℚ)).Decoded := armRaw_decoded .none
  obtain ⟨accepted, -⟩ := accepted_of_new made decoded
  have raises : ¬ nullTable.Convertible cornerTurn.key := by decide +kernel
  refine ⟨made, decoded, fun every => ?_, ?_⟩
  · exact raises ((resolve_yields accepted cornerTurn).exists_ok_iff.mp (every cornerTurn))
  · rintro follower same ⟨state, set_⟩
    have convertible := ((LaneFollower.setLaneRoute_yields (same ▸ accepted) _).mp set_).1
    rw [same] at convertible
    exact raises (convertible cornerTurn List.mem_cons_self)

/-- With a number it resolves. -/
theorem arm_resolves : ∃ spec, armTable.resolve cornerTurn = .ok spec := by
  have made : new (armRaw (.int 1)) (14 / 100) 30 = .ok armTable := ok_returned _
  exact ((resolves_iff_convertible made (armRaw_decoded (.int 1))).1 cornerTurn).mpr
    (by decide +kernel)

end TurnTable

end RcTaxi

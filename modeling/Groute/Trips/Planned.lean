import Groute.Planner.Buckets
import Groute.Trips.Stops

/-!
# Stops, from the plan to the planner

The planner never empties its buckets and reads nothing but what its listeners deliver, and
it gets a new listener whenever it appears.  Still it shows what its user has confirmed: a
stop that it shows was confirmed, and once a listener has delivered since the planner
appeared, no confirmed stop is missing.
-/

namespace Groute

namespace World

/-- A stop as the planner receives it. -/
def planned (stop : DocId × DetailTourViewController) : RouteName where
  id := stop.1
  name := stop.2.nameLabel
  section_ := stop.2.section_
  point := stop.2.geoPoint
  imageAddress := stop.2.imageAddress

/-- The planner receives all stored stops. -/
theorem filterMap_routeName_stored (stops : List (DocId × DetailTourViewController)) :
    (stored stops).filterMap AddRouteViewController.routeName = stops.map planned := by
  induction stops with
  | nil => rfl
  | cons stop stops ih =>
      have hstop : AddRouteViewController.routeName (stop.1, stop.2.addClick) =
          some (planned stop) := rfl
      rw [stored, List.map_cons, ← stored, List.filterMap_cons_some hstop, ih, List.map_cons]

end World

namespace Session

variable {s : Session} {st : Store} {e : Event} {ok : Bool} {r : Response}
  {stops stops' : List (DocId × DetailTourViewController)}

/-- The planner of a run shows stops that its user has confirmed, and all of them once a
listener has delivered. -/
def Plots (stops : List (DocId × DetailTourViewController)) (s : Session) : Prop :=
  ∃ received, s.addRoute.Holds received ∧
    (∀ route ∈ received, route ∈ stops.map World.planned) ∧
    (s.phase = .on .addRoute true → s.routesCurrent = true →
      ∀ stop ∈ stops, World.planned stop ∈ received)

/-- Nothing that concerns the planner has changed. -/
theorem Plots.same (h : s.Plots stops) {s' : Session}
    (hbucket : ∀ received, s.addRoute.Holds received → s'.addRoute.Holds received)
    (hphase : s'.phase = s.phase) (hcurrent : s'.routesCurrent = s.routesCurrent) :
    s'.Plots stops := by
  obtain ⟨received, hholds, hconfirmed, hall⟩ := h
  refine ⟨received, hbucket received hholds, hconfirmed, ?_⟩
  rw [hphase, hcurrent]
  exact hall

/-- A listener has delivered the stops. -/
theorem Plots.snapshot {order : SetOrder RouteName} {vc : AddRouteViewController}
    (h : s.Plots stops) (hdocs : (st.sub .route s.created).docs = World.stored stops)
    (hvc : s.addRoute.getRouteDataDone order (st.sub .route s.created).docs = some vc) :
    Plots stops { s with addRoute := vc, routesCurrent := true } := by
  obtain ⟨received, hholds, hconfirmed, -⟩ := h
  have hdone := hholds.getRouteDataDone hvc
  rw [hdocs, World.filterMap_routeName_stored] at hdone
  refine ⟨received ++ stops.map World.planned, hdone, fun route hroute => ?_, fun _ _ => ?_⟩
  · rcases List.mem_append.mp hroute with hroute | hroute
    · exact hconfirmed route hroute
    · exact hroute
  · intro stop hstop
    exact List.mem_append_right _ (List.mem_map_of_mem hstop)

end Session

namespace World

variable {w w' w₀ w₁ w₂ w₃ : World} {e : Event} {es fs : List Event} {i : Nat} {s : Session}
  {stops : List (DocId × DetailTourViewController)}

end World

end Groute

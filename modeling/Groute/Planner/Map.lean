import Groute.Planner.Table

/-!
# The map of the planner

`loadMapView` is meant to add a marker to the map.  It creates a new map view for it and
puts that into `mapView`, so the markers of the views before it are lost:
`markers_loadPoints`.  Whatever happens on the planner, the map that it holds has a
single marker.

Two methods load the stops of a trip.  `viewDidAppear` writes the loop out, for the first
three days and for at most two stops on a day.  `updateMapView` loops over the first four
days and passes the latitude twice; the call to it is commented out.
-/

namespace Groute

/-! ## The map -/

/-- A marker. -/
structure MTMapPOIItem where
  itemName : String
  mapPoint : GeoPoint
  tag : Int
deriving DecidableEq

/-- A map view with its markers and its lines.  A new one has none. -/
structure MTMapView where
  poiItems : List MTMapPOIItem := []
  polylines : List (List GeoPoint) := []
deriving DecidableEq

namespace MTMapView

/-- `addPOIItems(_:)`. -/
def addPOIItems (mapView : MTMapView) (poiItems : List MTMapPOIItem) : MTMapView :=
  { mapView with poiItems := mapView.poiItems ++ poiItems }

/-- `addPolyline(_:)`. -/
def addPolyline (mapView : MTMapView) (polyline : List GeoPoint) : MTMapView :=
  { mapView with polylines := mapView.polylines ++ [polyline] }

end MTMapView

/-- `createMarker(point:)`. -/
def createMarker (mapPoint : GeoPoint) : List MTMapPOIItem :=
  [{ itemName := "제주도청", mapPoint, tag := 0 }]

/-- `createPolyline(point:point2:)`. -/
def createPolyline (mapPoint mapPoint2 : GeoPoint) : List GeoPoint := [mapPoint, mapPoint2]

/-- A marker knows its point. -/
theorem createMarker_congr_iff {mapPoint mapPoint' : GeoPoint} :
    (∀ item, item ∈ createMarker mapPoint ↔ item ∈ createMarker mapPoint') ↔
      mapPoint = mapPoint' := by
  constructor
  · intro h
    have hmem := (h _).mp List.mem_cons_self
    exact congrArg MTMapPOIItem.mapPoint (List.mem_singleton.mp hmem)
  · rintro rfl item
    exact Iff.rfl

/-- The planner with the map that it holds. -/
structure PlannerMap where
  planner : PlannerTable
  mapView : Option MTMapView := none

namespace PlannerMap

/-- `loadKakaoMap(point:point2:)`: a new map takes the place of the one before. -/
def loadKakaoMap (s : PlannerMap) : PlannerMap := { s with mapView := some {} }

/-- `loadMapView(latitude:longitude:)`. -/
def loadMapView (s : PlannerMap) (latitude longitude : ℚ) : PlannerMap :=
  let mapPoint : GeoPoint := ⟨latitude, longitude⟩
  let mapPoint2 : GeoPoint := ⟨33.499598, 126.531259⟩
  let s := s.loadKakaoMap
  let s := { s with
    mapView := s.mapView.map fun mapView : MTMapView =>
      mapView.addPOIItems (createMarker mapPoint) }
  { s with
    mapView := s.mapView.map fun mapView : MTMapView =>
      mapView.addPolyline (createPolyline mapPoint mapPoint2) }

/-- What `viewDidAppear` does for a day. -/
def appearDay (s : PlannerMap) : List RouteName → PlannerMap
  | [stop] => s.loadMapView stop.point.latitude stop.point.longitude
  | [stop, stop'] =>
      (s.loadMapView stop.point.latitude stop.point.longitude).loadMapView
        stop'.point.latitude stop'.point.longitude
  | _ => s

/-- The loops of `viewDidAppear`. -/
def viewDidAppear (s : PlannerMap) : PlannerMap :=
  let vc := s.planner.vc
  ((s.appearDay vc.section0).appearDay vc.section1).appearDay vc.section2

/-- What `updateMapView` does for a day. -/
def updateDay (s : PlannerMap) (stops : List RouteName) : PlannerMap :=
  stops.foldl (fun s stop => s.loadMapView stop.point.latitude stop.point.latitude) s

/-- `updateMapView()`. -/
def updateMapView (s : PlannerMap) : PlannerMap :=
  let vc := s.planner.vc
  (((s.updateDay vc.section0).updateDay vc.section1).updateDay vc.section2).updateDay vc.section3

/-- The planner after an event.  Its appearance and a tap on an enabled confirm bar load
the map. -/
def step (s : PlannerMap) (e : PlannerTable.Event) : Option PlannerMap :=
  (s.planner.handle e).map fun (planner, _) =>
    let s' := { s with planner }
    match e with
    | .viewDidAppear => s'.viewDidAppear
    | .dates .calTime =>
        if (s.planner.dates.step .calTime).isSome then
          s'.loadMapView planner.vc.point.latitude planner.vc.point.longitude
        else s'
    | _ => s'

/-- The screen. -/
def system : EventSystem PlannerMap PlannerTable.Event := ⟨step⟩

/-- The markers on the map that is held. -/
def markers (s : PlannerMap) : List MTMapPOIItem := (s.mapView.map MTMapView.poiItems).getD []

/-- The stops of the trip that the planner knows. -/
def stops (s : PlannerMap) : List RouteName :=
  let vc := s.planner.vc
  vc.section0 ++ vc.section1 ++ vc.section2 ++ vc.section3 ++ vc.section4

/-- When the screen appears, the map has a marker for each stop, and the loops would have
given the same markers. -/
structure ShowsStops (s : PlannerMap) : Prop where
  stops : (s.viewDidAppear.markers.map MTMapPOIItem.mapPoint).Perm (s.stops.map RouteName.point)
  loops : ∀ item, item ∈ s.updateMapView.markers ↔ item ∈ s.viewDidAppear.markers

/-- There is no stop and no map, or there is one stop only.  It has to be loaded by
`viewDidAppear` or to be on the map already, and to be out of reach of the loops or on
the diagonal. -/
def Shown (s : PlannerMap) : Prop :=
  let vc := s.planner.vc
  s.stops = [] ∧ s.mapView = none ∨
    ∃ stop, s.stops = [stop] ∧
      (stop ∈ vc.section0 ++ vc.section1 ++ vc.section2 ∨
        s.markers.map MTMapPOIItem.mapPoint = [stop.point]) ∧
      (stop ∈ vc.section4 ∨ stop.point.latitude = stop.point.longitude)

variable {s s' : PlannerMap} {planner : PlannerTable} {es : List PlannerTable.Event}
  {stop : RouteName}

/-! ## The two loops -/

/-- Load points one after the other. -/
def loadPoints (s : PlannerMap) (points : List GeoPoint) : PlannerMap :=
  points.foldl (fun s point => s.loadMapView point.latitude point.longitude) s

theorem loadPoints_append (s : PlannerMap) (points points' : List GeoPoint) :
    s.loadPoints (points ++ points') = (s.loadPoints points).loadPoints points' :=
  List.foldl_append

/-- Only the last point has a marker. -/
theorem markers_loadPoints (s : PlannerMap) (points : List GeoPoint) :
    (s.loadPoints points).markers = points.getLast?.elim s.markers createMarker := by
  rcases List.eq_nil_or_concat' points with rfl | ⟨points, point, rfl⟩
  · rfl
  · rw [loadPoints_append, List.getLast?_concat]
    rfl

/-- The points of a day that `viewDidAppear` loads. -/
def appearing (stops : List RouteName) : List GeoPoint :=
  if stops.length ≤ 2 then stops.map RouteName.point else []

theorem appearDay_eq (s : PlannerMap) (stops : List RouteName) :
    s.appearDay stops = s.loadPoints (appearing stops) := by
  match stops with
  | [] | [_] | [_, _] => rfl
  | _ :: _ :: _ :: rest =>
      rw [appearing, if_neg (by simp)]
      rfl

theorem viewDidAppear_eq (s : PlannerMap) :
    s.viewDidAppear = s.loadPoints (appearing s.planner.vc.section0 ++
      appearing s.planner.vc.section1 ++ appearing s.planner.vc.section2) := by
  simp only [viewDidAppear, appearDay_eq, loadPoints_append]

/-- The point where `updateMapView` puts a stop. -/
def diagonal (stop : RouteName) : GeoPoint := ⟨stop.point.latitude, stop.point.latitude⟩

theorem updateDay_eq (s : PlannerMap) (stops : List RouteName) :
    s.updateDay stops = s.loadPoints (stops.map diagonal) := by
  rw [loadPoints, List.foldl_map]
  rfl

theorem updateMapView_eq (s : PlannerMap) :
    s.updateMapView = s.loadPoints ((s.planner.vc.section0 ++ s.planner.vc.section1 ++
      s.planner.vc.section2 ++ s.planner.vc.section3).map diagonal) := by
  simp only [updateMapView, updateDay_eq, List.map_append, loadPoints_append]

/-- It is the stop's own exactly on the diagonal. -/
theorem diagonal_eq_iff :
    diagonal stop = stop.point ↔ stop.point.latitude = stop.point.longitude := by
  obtain ⟨id, name, section_, ⟨latitude, longitude⟩, imageAddress⟩ := stop
  simp [diagonal]

/-- Up to two stops on the first three days are all loaded. -/
theorem appearing_append {stops stops' stops'' : List RouteName}
    (h : (stops ++ stops' ++ stops'').length ≤ 2) :
    appearing stops ++ appearing stops' ++ appearing stops'' =
      (stops ++ stops' ++ stops'').map RouteName.point := by
  simp only [List.length_append] at h
  simp only [appearing, List.map_append]
  rw [if_pos (by omega), if_pos (by omega), if_pos (by omega)]

/-! ## The map that is held -/

/-- No map, or one with a single marker. -/
def Held (s : PlannerMap) : Prop := s.mapView = none ∨ ∃ point, s.markers = createMarker point

/-- Loading points keeps it. -/
theorem Held.loadPoints (h : s.Held) (points : List GeoPoint) : (s.loadPoints points).Held := by
  rcases List.eq_nil_or_concat' points with rfl | ⟨points, point, rfl⟩
  · exact h
  · refine .inr ⟨point, ?_⟩
    rw [markers_loadPoints, List.getLast?_concat]
    rfl

/-- So it has at most one marker. -/
theorem Held.length_markers_le (h : s.Held) : s.markers.length ≤ 1 := by
  rcases h with h | ⟨point, h⟩
  · simp [markers, h]
  · simp [h, createMarker]

/-- A map that is held has a marker. -/
theorem Held.markers_eq_nil_iff (h : s.Held) : s.markers = [] ↔ s.mapView = none := by
  rcases h with h | ⟨point, h⟩
  · simp [markers, h]
  · constructor
    · intro hnil
      simp [h, createMarker] at hnil
    · intro hnone
      simp [markers, hnone]

/-- An event loads some points. -/
theorem step_eq {e : PlannerTable.Event} (h : s.step e = some s') :
    ∃ planner points, s' = ({ s with planner } : PlannerMap).loadPoints points := by
  obtain ⟨⟨planner, reloads⟩, -, h⟩ := Option.map_eq_some_iff.mp h
  dsimp only at h
  refine ⟨planner, ?_⟩
  split at h
  · exact ⟨_, h.symm.trans (viewDidAppear_eq _)⟩
  · split_ifs at h
    · exact ⟨[planner.vc.point], h.symm⟩
    · exact ⟨[], h.symm⟩
  · exact ⟨[], h.symm⟩

/-- Whatever happens, the map that is held has a single marker. -/
theorem runs_held (h : system.Runs { planner } es s) : s.Held := by
  refine h.invariant (I := Held) ?_ (.inl rfl)
  intro s e s' hs _ hstep
  obtain ⟨planner, points, rfl⟩ := step_eq hstep
  exact Held.loadPoints (s := { s with planner }) hs points

/-! ## Which stops are shown -/

/-- A single stop is on one of the days that `viewDidAppear` loads, or on one of the two
after them. -/
theorem day_of_stops_eq (h : s.stops = [stop]) :
    let vc := s.planner.vc
    vc.section0 ++ vc.section1 ++ vc.section2 = [stop] ∧ vc.section3 = [] ∧ vc.section4 = [] ∨
      vc.section0 ++ vc.section1 ++ vc.section2 = [] ∧ vc.section3 = [stop] ∧ vc.section4 = [] ∨
      vc.section0 ++ vc.section1 ++ vc.section2 = [] ∧ vc.section3 = [] ∧
        vc.section4 = [stop] := by
  intro vc
  rcases List.append_eq_singleton_iff.mp h with ⟨hnil, hlast⟩ | ⟨hday, hlast⟩
  · obtain ⟨hnil, hday⟩ := List.append_eq_nil_iff.mp hnil
    exact .inr (.inr ⟨hnil, hday, hlast⟩)
  · rcases List.append_eq_singleton_iff.mp hday with ⟨hnil, hday⟩ | ⟨hday, hnil⟩
    · exact .inr (.inl ⟨hnil, hday, hlast⟩)
    · exact .inl ⟨hday, hnil, hlast⟩

/-- The markers when the screen appears, with up to two stops on the first three days. -/
theorem markers_viewDidAppear (h : (s.planner.vc.section0 ++ s.planner.vc.section1 ++
    s.planner.vc.section2).length ≤ 2) :
    s.viewDidAppear.markers = ((s.planner.vc.section0 ++ s.planner.vc.section1 ++
      s.planner.vc.section2).map RouteName.point).getLast?.elim s.markers createMarker := by
  rw [viewDidAppear_eq, appearing_append h, markers_loadPoints]

/-- Those that the loops give. -/
theorem markers_updateMapView : s.updateMapView.markers =
    ((s.planner.vc.section0 ++ s.planner.vc.section1 ++ s.planner.vc.section2 ++
      s.planner.vc.section3).map diagonal).getLast?.elim s.markers createMarker := by
  rw [updateMapView_eq, markers_loadPoints]

/-- No stop is shown by no marker. -/
theorem Held.showsStops_iff_of_nil (hs : s.Held) (h : s.stops = []) :
    s.ShowsStops ↔ s.mapView = none := by
  obtain ⟨hdays, -⟩ := List.append_eq_nil_iff.mp h
  obtain ⟨hdays, hday⟩ := List.append_eq_nil_iff.mp hdays
  have happear := markers_viewDidAppear (s := s) (by simp [hdays])
  have hupdate := markers_updateMapView (s := s)
  simp only [hdays, hday, List.append_nil, List.map_nil, List.getLast?_nil, Option.elim_none]
    at happear hupdate
  rw [← hs.markers_eq_nil_iff]
  constructor
  · intro hshows
    have hperm := hshows.stops
    rwa [happear, h, List.map_nil, List.perm_nil, List.map_eq_nil_iff] at hperm
  · intro hnil
    constructor
    · rw [happear, h, hnil]
      exact .nil
    · intro item
      rw [happear, hupdate]

/-- A single stop is shown if it is loaded or shown before, and if the loops put it there
as well or do not reach it. -/
theorem Held.showsStops_iff_of_singleton (hs : s.Held) (h : s.stops = [stop]) :
    s.ShowsStops ↔
      (stop ∈ s.planner.vc.section0 ++ s.planner.vc.section1 ++ s.planner.vc.section2 ∨
        s.markers.map MTMapPOIItem.mapPoint = [stop.point]) ∧
      (stop ∈ s.planner.vc.section4 ∨ stop.point.latitude = stop.point.longitude) := by
  have hstops : s.ShowsStops ↔
      s.viewDidAppear.markers.map MTMapPOIItem.mapPoint = [stop.point] ∧
        ∀ item, item ∈ s.updateMapView.markers ↔ item ∈ s.viewDidAppear.markers := by
    rw [← List.perm_singleton, ← List.map_singleton (f := RouteName.point), ← h]
    constructor
    · intro hshows
      exact ⟨hshows.stops, hshows.loops⟩
    · rintro ⟨hstops, hloops⟩
      exact ⟨hstops, hloops⟩
  have happear := markers_viewDidAppear (s := s)
  have hupdate := markers_updateMapView (s := s)
  rw [hstops]
  rcases day_of_stops_eq h with ⟨hfirst, hday, hlast⟩ | ⟨hfirst, hday, hlast⟩ |
    ⟨hfirst, hday, hlast⟩
  all_goals
    rw [hfirst] at happear hupdate ⊢
    rw [hday] at hupdate
    rw [happear (by simp), hupdate, hlast]
    simp only [List.append_nil, List.nil_append, List.map_cons, List.map_nil,
      List.getLast?_singleton, List.getLast?_nil, Option.elim_some, Option.elim_none]
  · -- on the first three days
    rw [createMarker_congr_iff, diagonal_eq_iff]
    simp [createMarker]
  · -- on the fourth day
    simp only [List.not_mem_nil, false_or]
    refine and_congr_right fun hmarker => ?_
    rcases hs with hnone | ⟨point, hpoint⟩
    · simp [markers, hnone] at hmarker
    · have hpoint' : point = stop.point := by simpa [hpoint, createMarker] using hmarker
      rw [hpoint, createMarker_congr_iff, hpoint', diagonal_eq_iff]
  · -- on the fifth day
    simp

/-- Two stops are not. -/
theorem Held.length_stops_le (hs : s.Held) (h : s.ShowsStops) : s.stops.length ≤ 1 := by
  have happear : s.viewDidAppear.Held := viewDidAppear_eq s ▸ hs.loadPoints _
  calc s.stops.length
      = s.viewDidAppear.markers.length := by simpa using h.stops.length_eq.symm
    _ ≤ 1 := happear.length_markers_le

/-- **The map of the planner.**  At any point of a run that starts without a map, over any
contents of the buckets, the map shows every stop after the next appearance and the loops
agree with it exactly if there is nothing to show and no map, or a single stop that is
loaded or shown before and that the loops do not move. -/
theorem showsStops_iff (h : system.Runs { planner } es s) : s.ShowsStops ↔ s.Shown := by
  have hs := runs_held h
  constructor
  · intro hshows
    match hstops : s.stops, hs.length_stops_le hshows with
    | [], _ => exact .inl ⟨hstops, (hs.showsStops_iff_of_nil hstops).mp hshows⟩
    | [stop], _ => exact .inr ⟨stop, hstops, (hs.showsStops_iff_of_singleton hstops).mp hshows⟩
    | _ :: _ :: _, hle => simp at hle
  · rintro (⟨hstops, hnone⟩ | ⟨stop, hstops, hshown⟩)
    · exact (hs.showsStops_iff_of_nil hstops).mpr hnone
    · exact (hs.showsStops_iff_of_singleton hstops).mpr hshown

/-- A planner whose first day has the given stops. -/
def planned (section0 : List RouteName) : PlannerTable where
  vc := { section0 }
  dates := DatePlanner.loaded {}

/-- A stop on the diagonal. -/
theorem showsStops_diagonal : ∃ s, system.Runs
    { planner := planned [⟨"a", "a", 0, ⟨33, 33⟩, ""⟩] } [.viewDidAppear] s ∧ s.ShowsStops := by
  have hrun : system.Runs { planner := planned [⟨"a", "a", 0, ⟨33, 33⟩, ""⟩] }
      [.viewDidAppear] _ := .single trivial rfl
  refine ⟨_, hrun, (showsStops_iff hrun).mpr (.inr ⟨⟨"a", "a", 0, ⟨33, 33⟩, ""⟩, rfl, ?_, ?_⟩)⟩
  · exact .inl List.mem_cons_self
  · exact .inr rfl

/-- Two stops on the first day. -/
theorem exists_not_showsStops : ∃ s, system.Runs
    { planner := planned [⟨"a", "a", 0, ⟨33, 126⟩, ""⟩, ⟨"b", "b", 0, ⟨34, 127⟩, ""⟩] }
    [.viewDidAppear] s ∧ ¬s.ShowsStops := by
  refine ⟨_, .single trivial rfl, fun hshows => ?_⟩
  have hlength := hshows.stops.length_eq
  revert hlength
  decide

end PlannerMap

end Groute

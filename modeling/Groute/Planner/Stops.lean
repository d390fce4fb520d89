import Mathlib.Data.List.Perm.Subperm
import Groute.Lib.EventSystem
import Groute.Lib.Listeners
import Groute.Planner.Buckets

/-!
# The stops the planner shows

Each appearance of the planner registers one more listener on the `Route`
subcollection of the trip, and every listener is notified of every change.
Stops are added and removed on the detail screen, by this or another device,
while notifications are on their way.

The buckets keep a stop that has been removed, and there are five of them.  So,
once everything is delivered, a day is shown as it is exactly if it has a bucket
and no stop of it has been lost since the first appearance — or if this makes no
difference to the texts, because what is shown and what should be shown are both
a single blank row.
-/

namespace Groute

namespace AddRouteViewController

/-- The stops of a snapshot. -/
def stops (documents : List (DocId × Document)) : List RouteName := documents.filterMap routeName

/-- Different documents are different stops. -/
theorem nodup_stops (c : Collection DocId Document) : (stops c.docs).Nodup := by
  refine List.Nodup.of_map RouteName.id (Collection.nodup_map_filterMap (fun doc route h => ?_)
    c.nodup)
  obtain ⟨_, -, rfl⟩ := Option.map_eq_some_iff.mp h
  rfl

/-- Whether these stops, some of them repeated, look like a day without stops. -/
def Blank (stops : List RouteName) : Prop :=
  ∀ stop ∈ stops, stop.name = "" ∧ ∀ other ∈ stops, other = stop

variable {shown shown' current : List RouteName}

/-- The look does not depend on order and repetition. -/
theorem blank_congr (h : ∀ stop, stop ∈ shown ↔ stop ∈ shown') : Blank shown ↔ Blank shown' := by
  simp only [Blank, h]

/-- A lone stop without name looks like no stop at all. -/
theorem labels_eq_singleton_iff (h : shown.Nodup) : labels shown = [""] ↔ Blank shown := by
  cases shown with
  | nil => simp [labels, Blank]
  | cons stop shown =>
      cases shown with
      | nil => simp [labels, Blank]
      | cons other shown =>
          obtain ⟨hne, -⟩ := List.nodup_cons.mp h
          refine iff_of_false (by simp [labels]) fun hblank => ?_
          obtain rfl := (hblank stop List.mem_cons_self).2 other (by simp)
          exact hne List.mem_cons_self

/-- If no current stop is missing, the rows are right exactly if no other stop is
shown, or it makes no difference. -/
theorem labels_perm_iff (hshown : shown.Nodup) (hcurrent : current.Nodup)
    (hsub : shown ≠ [] → current ⊆ shown) :
    (labels shown).Perm (labels current) ↔
      (∀ stop, stop ∈ shown ↔ stop ∈ current) ∨ Blank shown ∧ Blank current := by
  rw [← labels_eq_singleton_iff hshown, ← labels_eq_singleton_iff hcurrent]
  constructor
  · intro hperm
    by_cases hs : shown = []
    · subst hs
      exact Or.inr ⟨rfl, List.perm_singleton.mp hperm.symm⟩
    by_cases hc : current = []
    · subst hc
      exact Or.inr ⟨List.perm_singleton.mp hperm, rfl⟩
    · have hlength := hperm.length_eq
      rw [labels, labels, if_neg (by simpa using hs), if_neg (by simpa using hc), List.length_map,
        List.length_map] at hlength
      have hsubperm := List.subperm_of_subset hcurrent (hsub hs)
      exact Or.inl fun stop => (hsubperm.perm_of_length_le hlength.le).mem_iff.symm
  · rintro (hsame | ⟨hs, hc⟩)
    · have hperm := (List.perm_ext_iff_of_nodup hshown hcurrent).mpr hsame
      cases current with
      | nil => rw [hperm.eq_nil]
      | cons stop current =>
          have hne : shown ≠ [] := fun h => by simpa [h] using hperm.length_eq
          rw [labels, labels, if_neg (by simpa using hne), if_neg (by simp)]
          exact hperm.map _
    · rw [hs, hc]

end AddRouteViewController

open AddRouteViewController

/-- The planner and the trip it shows. -/
structure Planner where
  vc : AddRouteViewController := {}
  /-- `days` in the user defaults. -/
  days : Option Int := none
  /-- The subcollection `Route` of the trip. -/
  route : Collection DocId Document := .empty
  listeners : Listeners (List (DocId × Document)) := []
  /-- The stops that have been in the subcollection since the first appearance. -/
  reported : List RouteName := []

namespace Planner

variable {p p' p₀ : Planner} {day : Int}

/-- What can happen. -/
inductive Event where
  /-- The planner appears. -/
  | viewDidAppear
  /-- Listener `k` receives its next snapshot. -/
  | deliver (k : Nat) (order : SetOrder RouteName)
  /-- A stop is added under a fresh identifier. -/
  | addStop (id : DocId) (data : Document)
  /-- A stop is removed. -/
  | removeStop (id : DocId)
  /-- The dates are confirmed. -/
  | calTime (days : Int)

/-- The document is a stop of one of the days. -/
def inDays (days : Option Int) (document : DocId × Document) : Bool :=
  (routeName document).any fun route =>
    decide (0 ≤ route.section_) && decide (route.section_ < numberOfSections days)

/-- The subcollection changes, and the listeners are notified. -/
def changed (p : Planner) (route : Collection DocId Document) : Planner :=
  { p with
    route
    listeners := p.listeners.notify route.docs
    reported := if p.listeners.isEmpty then p.reported else p.reported ++ stops route.docs }

/-- The state after an event. -/
def step (p : Planner) : Event → Option Planner
  | .viewDidAppear => some { p with
      listeners := p.listeners.register p.route.docs
      reported := p.reported ++ stops p.route.docs }
  | .deliver k order => (p.listeners.deliver k).bind fun (snapshot, listeners) =>
      (p.vc.getRouteDataDone order snapshot).map fun vc => { p with vc, listeners }
  | .addStop id data =>
      if (p.route.get id).isNone ∧ inDays p.days (id, data) then
        some (p.changed (p.route.set id data))
      else none
  | .removeStop id =>
      if (p.route.get id).isSome then some (p.changed (p.route.erase id)) else none
  | .calTime days => some { p with days := some days }

/-- The planner. -/
def system : EventSystem Planner Event := ⟨step⟩

/-- The stops of a day. -/
def current (p : Planner) (section_ : Int) : List RouteName :=
  (stops p.route.docs).filter (·.section_ = section_)

/-- The stops that the listeners were told of, if the day has a bucket for them. -/
def told (p : Planner) (section_ : Int) : List RouteName :=
  if HasBucket section_ then p.reported.filter (·.section_ = section_) else []

/-- Every day has a row for each of its stops, or a single blank one. -/
def Shows (p : Planner) : Prop :=
  ∀ s, 0 ≤ s → s < numberOfSections p.days →
    ∃ rows, p.vc.rows s = some rows ∧ rows.Perm (labels (p.current s))

/-- On every day the stops that the listeners were told of are the current ones,
or there is nothing to tell them apart. -/
def NothingLost (p : Planner) : Prop :=
  ∀ s, 0 ≤ s → s < numberOfSections p.days →
    (∀ stop, stop ∈ p.told s ↔ stop ∈ p.current s) ∨ Blank (p.told s) ∧ Blank (p.current s)

/-- The planner has just been opened, on a trip whose stops all have a point. -/
structure Initial (p : Planner) : Prop where
  vc : ∃ (screen : SearchViewController) (city : City), p.vc = screen.prepare city
  listeners : p.listeners = []
  reported : p.reported = []
  decodable : ∀ doc ∈ p.route.docs, (routeName doc).isSome

/-- Whatever was reported has been received or is on its way. -/
structure Inv (p : Planner) : Prop where
  decodable : ∀ doc ∈ p.route.docs, (routeName doc).isSome
  waiting : ∀ snapshot ∈ p.listeners.pending, ∀ doc ∈ snapshot, (routeName doc).isSome
  received : ∃ received, p.vc.Holds received ∧ ∀ stop, stop ∈ p.reported ↔
    stop ∈ received ∨ ∃ snapshot ∈ p.listeners.pending, stop ∈ stops snapshot
  current : p.listeners ≠ [] → stops p.route.docs ⊆ p.reported
  silent : p.listeners = [] → p.reported = []

theorem Initial.inv (h : p.Initial) : p.Inv := by
  obtain ⟨screen, city, hvc⟩ := h.vc
  refine ⟨h.decodable, ?_, ⟨[], hvc ▸ holds_prepare screen city, ?_⟩,
    fun hne => absurd h.listeners hne, fun _ => h.reported⟩
  · rw [h.listeners]
    exact fun _ hmem => absurd hmem List.not_mem_nil
  · rw [h.listeners, h.reported]
    simp

/-- No snapshot that waits makes its listener trap. -/
theorem Inv.isSome_getRouteDataDone {k : Nat} {snapshot : List (DocId × Document)}
    {listeners : Listeners (List (DocId × Document))} (h : p.Inv)
    (hk : p.listeners.deliver k = some (snapshot, listeners)) (order : SetOrder RouteName) :
    (p.vc.getRouteDataDone order snapshot).isSome :=
  (AddRouteViewController.isSome_getRouteDataDone _ _ _).mpr
    (h.waiting snapshot ((Listeners.mem_pending_deliver hk).mpr (.inl rfl)))

/-- A snapshot of the subcollection adds its stops to what was reported. -/
theorem reported_iff {reported received : List RouteName} {pending : List (List (DocId × Document))}
    (h : ∀ stop, stop ∈ reported ↔ stop ∈ received ∨ ∃ snapshot ∈ pending, stop ∈ stops snapshot)
    {pending' : List (List (DocId × Document))} {new : List (DocId × Document)}
    (hnew : ∀ snapshot, snapshot ∈ pending' ↔ snapshot ∈ pending ∨ snapshot = new)
    (stop : RouteName) : stop ∈ reported ++ stops new ↔
      stop ∈ received ∨ ∃ snapshot ∈ pending', stop ∈ stops snapshot := by
  simp only [List.mem_append, h, hnew, or_and_right, exists_or, exists_eq_left, or_assoc]

/-- A change keeps the invariant. -/
theorem Inv.changed {route : Collection DocId Document} (h : p.Inv)
    (hroute : ∀ doc ∈ route.docs, (routeName doc).isSome) : (p.changed route).Inv := by
  obtain ⟨received, hholds, hreported⟩ := h.received
  by_cases hnil : p.listeners = []
  · have hsame : p.changed route = { p with route } := by
      simp [Planner.changed, hnil, Listeners.notify]
    rw [hsame]
    exact { h with decodable := hroute, current := fun hne => absurd hnil hne }
  · have hreported' : (p.changed route).reported = p.reported ++ stops route.docs :=
      if_neg (by simpa using hnil)
    have hpending (snapshot : List (DocId × Document)) :
        snapshot ∈ (p.changed route).listeners.pending ↔
          snapshot ∈ p.listeners.pending ∨ snapshot = route.docs := by
      refine Listeners.mem_pending_notify.trans ?_
      rw [and_iff_right hnil]
    refine ⟨hroute, fun snapshot hmem => ?_, ⟨received, hholds, ?_⟩, fun _ => ?_, fun h => ?_⟩
    · rcases (hpending snapshot).mp hmem with hold | rfl
      · exact h.waiting snapshot hold
      · exact hroute
    · rw [hreported']
      exact reported_iff hreported hpending
    · rw [hreported']
      exact List.subset_append_right _ _
    · exact absurd (List.map_eq_nil_iff.mp h) hnil

/-- Every step keeps the invariant. -/
theorem Inv.step {e : Event} (h : p.Inv) (hstep : p.step e = some p') : p'.Inv := by
  cases e with
  | viewDidAppear =>
      cases hstep
      obtain ⟨received, hholds, hreported⟩ := h.received
      refine ⟨h.decodable, fun snapshot hmem => ?_, ⟨received, hholds, ?_⟩, fun _ => ?_,
        fun h => ?_⟩
      · rcases Listeners.mem_pending_register.mp hmem with hold | rfl
        · exact h.waiting snapshot hold
        · exact h.decodable
      · exact reported_iff hreported fun _ => Listeners.mem_pending_register
      · exact List.subset_append_right _ _
      · exact absurd h (by simp [Listeners.register])
  | deliver k order =>
      obtain ⟨⟨snapshot, listeners⟩, hk, hdone⟩ := Option.bind_eq_some_iff.mp hstep
      obtain ⟨vc, hvc, rfl⟩ := Option.map_eq_some_iff.mp hdone
      obtain ⟨received, hholds, hreported⟩ := h.received
      obtain ⟨hne, hne'⟩ := Listeners.deliver_ne_nil hk
      have hpending := fun other => Listeners.mem_pending_deliver (b := other) hk
      refine ⟨h.decodable, fun other hmem => h.waiting other ((hpending other).mpr (.inr hmem)),
        ⟨received ++ stops snapshot, hholds.getRouteDataDone hvc, fun stop => ?_⟩,
        fun _ => h.current hne, fun hnil => absurd hnil hne'⟩
      rw [hreported]
      simp only [hpending, List.mem_append, or_and_right, exists_or, exists_eq_left, or_assoc]
  | addStop id data =>
      obtain ⟨⟨-, hin⟩, ⟨⟩⟩ := Option.ite_none_right_eq_some.mp hstep
      refine h.changed fun doc hdoc => ?_
      rcases Collection.mem_docs_set hdoc with rfl | hold
      · obtain ⟨route, hroute, -⟩ := (Option.any_eq_true _ _).mp hin
        exact Option.isSome_of_eq_some hroute
      · exact h.decodable doc hold
  | removeStop id =>
      obtain ⟨-, ⟨⟩⟩ := Option.ite_none_right_eq_some.mp hstep
      exact h.changed fun doc hdoc => h.decodable doc (Collection.mem_docs_erase hdoc)
  | calTime days => cases hstep; exact { h with }

/-- Once everything is delivered, a bucket holds what the listeners were told. -/
theorem Inv.mem_bucket_iff (h : p.Inv) (hnil : p.listeners.pending = []) {stop : RouteName} :
    stop ∈ (p.vc.bucket day).2 ↔ stop ∈ p.told day := by
  obtain ⟨received, hholds, hreported⟩ := h.received
  have hsame : stop ∈ p.reported ↔ stop ∈ received := by simp [hreported, hnil]
  rw [hholds.mem, ← hsame, told]
  split_ifs with hday <;> simp [hday]

/-- Once everything is delivered, a day is shown as it is exactly if no stop is
lost, or it makes no difference. -/
theorem Inv.rows_iff (h : p.Inv) (hnil : p.listeners.pending = []) :
    (∃ rows, p.vc.rows day = some rows ∧ rows.Perm (labels (p.current day))) ↔
      (∀ stop, stop ∈ p.told day ↔ stop ∈ p.current day) ∨
        Blank (p.told day) ∧ Blank (p.current day) := by
  obtain ⟨received, hholds, -⟩ := h.received
  have hmem (stop : RouteName) : stop ∈ (p.vc.bucket day).2 ↔ stop ∈ p.told day :=
    h.mem_bucket_iff hnil
  have hsub : (p.vc.bucket day).2 ≠ [] → p.current day ⊆ (p.vc.bucket day).2 := by
    intro hne stop hstop
    obtain ⟨other, hother⟩ := List.exists_mem_of_ne_nil _ hne
    rw [hmem, told] at hother
    rw [hmem, told]
    obtain ⟨hstop, hday⟩ := List.mem_filter.mp hstop
    split_ifs at hother ⊢ with hbucket
    · have hlisteners : p.listeners ≠ [] := fun hl => by
        rw [h.silent hl] at hother
        cases hother
      exact List.mem_filter.mpr ⟨h.current hlisteners hstop, hday⟩
    · cases hother
  have hcurrent : (p.current day).Nodup := (nodup_stops p.route).filter _
  have hperm := labels_perm_iff (hholds.nodup day) hcurrent hsub
  rw [p.vc.rows_eq]
  simp only [Option.some.injEq, exists_eq_left']
  rw [← blank_congr hmem]
  simpa only [hmem] using hperm

/-- **The stops of every day.**  Once everything is delivered, the planner shows
the current stops of every day exactly if none of them is lost. -/
theorem displays_iff {es : List Event} (h₀ : p₀.Initial) (h : system.Runs p₀ es p)
    (hnil : p.listeners.pending = []) : p.Shows ↔ p.NothingLost := by
  have hinv : p.Inv := h.invariant (fun hI _ hstep => Inv.step hI hstep) h₀.inv
  exact forall_congr' fun s => imp_congr_right fun _ => imp_congr_right fun _ => hinv.rows_iff hnil

/-- A planner for a trip of one day. -/
def opened : Planner :=
  { vc := ({} : SearchViewController).prepare ⟨"", "", "", ⟨0, 0⟩⟩, days := some 1 }

theorem initial_opened : opened.Initial :=
  ⟨⟨_, _, rfl⟩, rfl, rfl, fun _ hmem => absurd hmem List.not_mem_nil⟩

/-- A stop is added between two appearances, and everything is delivered. -/
theorem displays_added : ∃ p, system.Runs opened [.viewDidAppear, .addStop "a" (stop 0 "x"),
    .viewDidAppear, .deliver 0 .dedup, .deliver 1 .dedup, .deliver 0 .dedup] p ∧ p.Shows := by
  obtain ⟨p, hrun, hp⟩ := EventSystem.exists_runs_of_exec system opened
    [.viewDidAppear, .addStop "a" (stop 0 "x"), .viewDidAppear, .deliver 0 .dedup,
      .deliver 1 .dedup, .deliver 0 .dedup]
    (fun p => p.listeners.pending.isEmpty && decide (p.days = some 1) &&
      decide ((p.told 0).dedup = p.current 0)) (by decide)
  obtain ⟨hp, hsame⟩ := Bool.and_eq_true_iff.mp hp
  obtain ⟨hnil, hdays⟩ := Bool.and_eq_true_iff.mp hp
  refine ⟨p, hrun, (displays_iff initial_opened hrun (List.isEmpty_iff.mp hnil)).mpr ?_⟩
  intro s hlow hhigh
  rw [of_decide_eq_true hdays] at hhigh
  obtain rfl : s = 0 := Int.le_antisymm (Int.lt_add_one_iff.mp hhigh) hlow
  exact .inl fun stop => by rw [← of_decide_eq_true hsame, List.mem_dedup]

/-- The stop is removed again, and still shown. -/
theorem exists_not_displays : ¬∀ {p₀ p : Planner} {es : List Event}, p₀.Initial →
    system.Runs p₀ es p → p.listeners.pending = [] → p.Shows := by
  intro hall
  obtain ⟨p, hrun, hp⟩ := EventSystem.exists_runs_of_exec system opened
    [.viewDidAppear, .addStop "a" (stop 0 "x"), .removeStop "a", .deliver 0 .dedup,
      .deliver 0 .dedup, .deliver 0 .dedup]
    (fun p => p.listeners.pending.isEmpty && decide (p.days = some 1) &&
      decide (p.vc.rows 0 = some ["x"] ∧ p.current 0 = [])) (by decide)
  obtain ⟨hp, hrows⟩ := Bool.and_eq_true_iff.mp hp
  obtain ⟨hnil, hdays⟩ := Bool.and_eq_true_iff.mp hp
  obtain ⟨hrows, hcurrent⟩ := of_decide_eq_true hrows
  have hhigh : 0 < numberOfSections p.days := by rw [of_decide_eq_true hdays]; decide
  obtain ⟨rows, heq, hperm⟩ := hall initial_opened hrun (List.isEmpty_iff.mp hnil) 0 le_rfl hhigh
  obtain rfl := Option.some.inj (hrows.symm.trans heq)
  rw [hcurrent] at hperm
  exact absurd hperm (by decide)

end Planner

end Groute

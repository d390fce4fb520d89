import Groute.Main.Hot

/-!
# HOT and NEW only reorder

A fetch gives every entry a number of likes, and no segment takes one away.  So the
comparator of HOT, which says `false` where a number is missing and would not be
transitive then, is a strict weak order whenever it is used: the list stays a
permutation of what was fetched, apart from the numbers, and each segment leaves it
sorted.
-/

namespace Groute

namespace ViewController

/-- Times can always be compared. -/
theorem strictWeakOn_newer (content : List Content) : StrictWeakOn newer content :=
  .of_key Content.timestamp fun _ _ _ _ => rfl

end ViewController

namespace MainList

open ViewController

variable {m m' m₀ : MainList} {e : Event} {es : List Event} {fetched : List Content}
  {documents : List (DocId × Document)}

/-- After the fetch the list is not fetched again, and at HOT there are enough
entries. -/
def Later (m : MainList) (e : Event) : Prop :=
  m.Fits e ∧ ∀ documents, e ≠ .fetched documents

/-- The list is a permutation of what was fetched, apart from the numbers of likes, and
every entry has one. -/
structure Reordered (fetched : List Content) (m : MainList) : Prop where
  running : m.trapped = false
  perm : (m.vc.content.map rest).Perm (fetched.map rest)
  isSome : ∀ c ∈ m.vc.content, c.favorite.isSome

/-- HOT compares by a strict weak order and leaves the numbers of likes non-increasing;
NEW leaves the times non-increasing. -/
def Sorts (m : MainList) : Event → MainList → Prop
  | .segmentSelect _ 0, m' =>
      StrictWeakOn hotter (assigned m.vc.favoriteCount m.vc.content) ∧
        m'.vc.content.Pairwise fun a b => likes b ≤ likes a
  | .segmentSelect _ (_ + 1), m' =>
      m'.vc.content.Pairwise fun a b => b.timestamp ≤ a.timestamp
  | .favorites _ _, _ | .fetched _, _ => True

/-- A sorted list is a permutation still. -/
theorem Reordered.sort {content : List Content} (h : (content.map rest).Perm (fetched.map rest))
    (hsome : ∀ c ∈ content, c.favorite.isSome) (hm : m.trapped = false)
    (sorter : Sorter Content) (lt : Content → Content → Bool) :
    Reordered fetched { m with vc := { m.vc with content := sorter.sort lt content } } where
  running := hm
  perm := ((sorter.perm_sort lt content).map rest).trans h
  isSome c hc := hsome c (sorter.mem_sort.mp hc)

/-- What a fetch leaves. -/
theorem reordered_fetched (h : m₀.step (.fetched documents) = some m)
    (hm : m.trapped = false) :
    ∃ fetched, documents.mapM contentOf = some fetched ∧ m.Reordered fetched := by
  obtain ⟨-, h⟩ := Option.ite_none_left_eq_some.mp h
  rw [controller, getContentDone_mapM] at h
  cases hfetched : documents.mapM contentOf with
  | none =>
      rw [hfetched] at h
      cases h
      cases hm
  | some fetched =>
      rw [hfetched] at h
      cases h
      refine ⟨fetched, rfl, hm, .refl _, fun c hc => ?_⟩
      rw [← TableView.filterMap_of_mapM hfetched] at hc
      obtain ⟨document, -, hdocument⟩ := List.mem_filterMap.mp hc
      obtain ⟨timestamp, -, rfl⟩ := Option.map_eq_some_iff.mp hdocument
      rfl

/-- Every later event reorders, and the segments sort. -/
theorem Reordered.step (h : m.Reordered fetched) (hlater : m.Later e)
    (hm : m.step e = some m') : m'.Reordered fetched ∧ m.Sorts e m' := by
  obtain ⟨-, hm⟩ := Option.ite_none_left_eq_some.mp hm
  cases e with
  | favorites i documents =>
      cases hm
      exact ⟨{ h with }, trivial⟩
  | fetched documents => exact absurd rfl (hlater.2 documents)
  | segmentSelect sorter selectedSegmentIndex =>
      cases selectedSegmentIndex with
      | zero =>
          have hle := hlater.1
          have hsome := isSome_assigned hle h.isSome
          rw [controller, segmentSelect_of_le sorter hle] at hm
          cases hm
          refine ⟨{ Reordered.sort ?_ hsome h.running sorter hotter with },
            strictWeakOn_hotter hsome, pairwise_sort_hotter hsome⟩
          rw [map_rest_assigned hle]
          exact h.perm
      | succ n =>
          cases hm
          refine ⟨{ Reordered.sort h.perm h.isSome h.running sorter newer with }, ?_⟩
          refine (sorter.pairwise_sort (strictWeakOn_newer _)).imp fun {a b} hab => ?_
          exact not_lt.mp (of_decide_eq_false hab)

/-- **HOT and NEW only reorder.**  After a fetch and any later deliveries and
selections, with enough entries at each selection of HOT, the list is a permutation of
what was fetched, apart from the numbers of likes, which no entry lacks; and each
selection sorts. -/
theorem steps_reordered (hfetch : m₀.step (.fetched documents) = some m)
    (hrunning : m.trapped = false) (h : system.Steps Later m es m') :
    ∃ fetched, documents.mapM contentOf = some fetched ∧
      (∀ fs u, fs <+: es → system.Runs m fs u → u.Reordered fetched) ∧
      ∀ fs e u u', fs ++ [e] <+: es → system.Runs m fs u → u.step e = some u' →
        u.Sorts e u' := by
  obtain ⟨fetched, hfetched, hstart⟩ := reordered_fetched hfetch hrunning
  refine ⟨fetched, hfetched, fun fs u hfs hu => ?_, fun fs e u u' hfs hu hstep => ?_⟩
  · exact h.forall_prefix (fun hI hlater hstep => (hI.step hlater hstep).1) hstart hfs hu
  · exact h.forall_steps (fun hI hlater hstep => hI.step hlater hstep) hstart hfs hu hstep

instance (m : MainList) (e : Event) : Decidable (m.Later e) :=
  match e with
  | .fetched documents => isFalse fun h => h.2 documents rfl
  | .favorites _ _ => isTrue ⟨trivial, by simp⟩
  | .segmentSelect sorter selectedSegmentIndex =>
      decidable_of_iff (m.Fits (.segmentSelect sorter selectedSegmentIndex))
        ⟨fun h => ⟨h, by simp⟩, fun h => h.1⟩

/-- A like arrives between two selections of HOT, with one of NEW in between. -/
def selected : List Event :=
  [.segmentSelect .insertion 0, .favorites ⟨1, by decide⟩ [like], .segmentSelect .insertion 1,
    .segmentSelect .insertion 0]

theorem selected_reordered : ∃ m m', ({} : MainList).step (.fetched twoTrips) = some m ∧
    system.Steps Later m selected m' ∧
    ∃ fetched, twoTrips.mapM contentOf = some fetched ∧ m'.Reordered fetched := by
  have hfetch : (({} : MainList).step (.fetched twoTrips)).any fun m =>
      !m.trapped && (system.exec Later m selected).isSome := by decide
  obtain ⟨m, hm, htest⟩ := (Option.any_eq_true _ _).mp hfetch
  obtain ⟨hrunning, hexec⟩ := Bool.and_eq_true_iff.mp htest
  obtain ⟨m', hm'⟩ := Option.isSome_iff_exists.mp hexec
  have hsteps := EventSystem.steps_iff_exec.mpr hm'
  obtain ⟨fetched, hfetched, hall, -⟩ := steps_reordered hm (by simpa using hrunning) hsteps
  exact ⟨m, m', hm, hsteps, fetched, hfetched, hall _ m' (List.prefix_refl _) hsteps.runs⟩

end MainList

end Groute

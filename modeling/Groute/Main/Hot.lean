import Groute.Main.Controller

/-!
# Does HOT rank each trip by its own likes?

The segment HOT assigns the numbers of likes by position and in the order in
which the listeners delivered them, and sorts afterwards.  `MainList.Ranked` is
what it should leave: every trip has its own number, the list is sorted by it,
and selecting HOT once more changes nothing but the order of equal entries.
`MainList.Aligned` is what the list and the numbers must be like before, for
the segment to leave just that.
-/

namespace Groute

namespace ViewController

variable {favoriteCount : List Int} {content : List Content} {sorter : Sorter Content}

/-- The number of likes that the comparator of HOT looks at. -/
def likes (c : Content) : Int := c.favorite.getD 0

/-- With a number everywhere, the comparator of HOT compares numbers. -/
theorem strictWeakOn_hotter (h : ∀ c ∈ content, c.favorite.isSome) :
    StrictWeakOn hotter content := by
  refine .of_key likes fun a ha b hb => ?_
  obtain ⟨n, hn⟩ := Option.isSome_iff_exists.mp (h a ha)
  obtain ⟨m, hm⟩ := Option.isSome_iff_exists.mp (h b hb)
  simp [hotter, likes, hn, hm]

/-- HOT sorts by the numbers. -/
theorem pairwise_sort_hotter (h : ∀ c ∈ content, c.favorite.isSome) :
    (sorter.sort hotter content).Pairwise fun a b => likes b ≤ likes a := by
  refine (sorter.pairwise_sort (strictWeakOn_hotter h)).imp_of_mem fun {a b} ha hb hab => ?_
  obtain ⟨n, hn⟩ := Option.isSome_iff_exists.mp (h a (sorter.mem_sort.mp ha))
  obtain ⟨m, hm⟩ := Option.isSome_iff_exists.mp (h b (sorter.mem_sort.mp hb))
  simpa [hotter, likes, hn, hm] using hab

/-- The numbers of a list without gaps. -/
theorem map_favorite_eq (h : ∀ c ∈ content, c.favorite.isSome) :
    content.map Content.favorite = (content.map likes).map some := by
  rw [List.map_map]
  refine List.map_congr_left fun c hc => ?_
  obtain ⟨n, hn⟩ := Option.isSome_iff_exists.mp (h c hc)
  simp [likes, hn]

/-- The loop leaves a number everywhere. -/
theorem isSome_assigned (hle : favoriteCount.length ≤ content.length)
    (h : ∀ c ∈ content, c.favorite.isSome) :
    ∀ c ∈ assigned favoriteCount content, c.favorite.isSome := by
  intro c hc
  have hmem := List.mem_map_of_mem (f := Content.favorite) hc
  rw [map_favorite_assigned hle, List.mem_append, List.mem_map, List.mem_map] at hmem
  rcases hmem with ⟨n, -, hn⟩ | ⟨c', hc', heq⟩
  · rw [← hn]
    rfl
  · rw [← heq]
    exact h c' (List.mem_of_mem_drop hc')

/-- The loop changes nothing exactly if the numbers are already there. -/
theorem assigned_eq_self_iff (hle : favoriteCount.length ≤ content.length) :
    assigned favoriteCount content = content ↔
      content.map Content.favorite =
        favoriteCount.map some ++ (content.drop favoriteCount.length).map Content.favorite := by
  refine ⟨fun h => by rw [← map_favorite_assigned hle, h], fun h => ?_⟩
  induction favoriteCount generalizing content with
  | nil => rfl
  | cons n favoriteCount ih =>
      cases content with
      | nil => rfl
      | cons c content =>
          obtain ⟨hc, hrest⟩ := List.cons.inj h
          rw [assigned, ih (Nat.le_of_succ_le_succ hle) hrest, ← hc]

/-- After HOT, the numbers come first that the listeners delivered, if these are
descending and exceed the others. -/
theorem assigned_sort_eq_self_iff (hle : favoriteCount.length ≤ content.length)
    (h : ∀ c ∈ content, c.favorite.isSome) :
    assigned favoriteCount (sorter.sort hotter (assigned favoriteCount content)) =
        sorter.sort hotter (assigned favoriteCount content) ↔
      favoriteCount.Pairwise (· ≥ ·) ∧
        ∀ n ∈ favoriteCount, ∀ c ∈ content.drop favoriteCount.length, likes c ≤ n := by
  have hsome := isSome_assigned hle h
  have hkeys : (assigned favoriteCount content).map likes =
      favoriteCount ++ (content.drop favoriteCount.length).map likes := by
    have hmap := congrArg (List.map fun favorite => favorite.getD 0) (map_favorite_assigned hle)
    rw [List.map_map, List.map_append, List.map_map, List.map_map] at hmap
    exact hmap.trans (congrArg (· ++ _) (List.map_id' favoriteCount))
  have hlen := length_assigned hle
  have hperm := sorter.perm_sort hotter (assigned favoriteCount content)
  have hsorted : ((sorter.sort hotter (assigned favoriteCount content)).map likes).Pairwise
      (· ≥ ·) := List.pairwise_map.mpr (pairwise_sort_hotter hsome)
  have hfirst := eq_append_drop_iff hsorted (hkeys ▸ hperm.map likes)
  have hsort : ∀ c ∈ sorter.sort hotter (assigned favoriteCount content), c.favorite.isSome :=
    fun c hc => hsome c (sorter.mem_sort.mp hc)
  rw [assigned_eq_self_iff (hle.trans_eq (hperm.length_eq.trans hlen).symm),
    map_favorite_eq hsort, map_favorite_eq fun c hc => hsort c (List.mem_of_mem_drop hc),
    ← List.map_append, List.map_inj_right fun _ _ => Option.some.inj, List.map_drop, hfirst]
  simp only [List.forall_mem_map]

end ViewController

namespace MainList

open ViewController

variable {m m' m₀ : MainList} {e : Event} {es : List Event} {sorter : Sorter Content}

/-- The size of the `Favorite` collection of a trip as delivered last; 0 if none
was delivered. -/
def own (m : MainList) (id : DocId) : Int := ((m.latest id).getD 0 : Nat)

/-- Every trip has its own number of likes, the list is sorted by it, and HOT
would change nothing but the order of equal entries. -/
structure Ranked (m : MainList) : Prop where
  own : ∀ c ∈ m.vc.content, c.favorite = some (m.own c.id)
  sorted : m.vc.content.Pairwise fun a b => m.own b.id ≤ m.own a.id
  again : ∀ sorter vc, m.vc.segmentSelect sorter 0 = some vc →
    vc.content.Perm m.vc.content ∧
      vc.content.map Content.favorite = m.vc.content.map Content.favorite

/-- The delivered numbers are those of the first entries, in descending order;
the other entries have their own numbers already, and no greater ones. -/
structure Aligned (m : MainList) : Prop where
  own : m.vc.favoriteCount.map some ++
      (m.vc.content.drop m.vc.favoriteCount.length).map Content.favorite =
    m.vc.content.map fun c => some (m.own c.id)
  descending : m.vc.favoriteCount.Pairwise (· ≥ ·)
  rest : ∀ n ∈ m.vc.favoriteCount, ∀ c ∈ m.vc.content.drop m.vc.favoriteCount.length,
    likes c ≤ n

/-- At HOT there are enough entries. -/
def Fits (m : MainList) : Event → Prop
  | .segmentSelect _ 0 => m.vc.favoriteCount.length ≤ m.vc.content.length
  | .segmentSelect _ _ | .favorites _ _ | .fetched _ => True

/-- HOT leaves a ranked list. -/
def HotRanks (m : MainList) : Event → Prop
  | .segmentSelect sorter 0 => ∀ m', m.step (.segmentSelect sorter 0) = some m' → m'.Ranked
  | .segmentSelect _ _ | .favorites _ _ | .fetched _ => True

/-- At HOT the list and the numbers are aligned. -/
def HotAligned (m : MainList) : Event → Prop
  | .segmentSelect _ 0 => m.Aligned
  | .segmentSelect _ _ | .favorites _ _ | .fetched _ => True

/-- Every entry has a number, and no identifier is repeated. -/
structure Inv (m : MainList) : Prop where
  isSome : ∀ c ∈ m.vc.content, c.favorite.isSome
  nodup : (m.vc.content.map Content.id).Nodup

/-- The invariant after HOT. -/
theorem Inv.hot (h : m.Inv) (hle : m.vc.favoriteCount.length ≤ m.vc.content.length)
    (sorter : Sorter Content) :
    Inv { m with vc := { m.vc with
      content := sorter.sort hotter (assigned m.vc.favoriteCount m.vc.content) } } where
  isSome c hc := isSome_assigned hle h.isSome c (sorter.mem_sort.mp hc)
  nodup := by
    rw [((sorter.perm_sort _ _).map Content.id).nodup_iff, map_id_assigned hle]
    exact h.nodup

/-- HOT gives every trip its own number exactly if the numbers were aligned. -/
theorem own_iff (hle : m.vc.favoriteCount.length ≤ m.vc.content.length)
    (sorter : Sorter Content) :
    (∀ c ∈ sorter.sort hotter (assigned m.vc.favoriteCount m.vc.content),
        c.favorite = some (m.own c.id)) ↔
      m.vc.favoriteCount.map some ++
          (m.vc.content.drop m.vc.favoriteCount.length).map Content.favorite =
        m.vc.content.map fun c => some (m.own c.id) := by
  have hown := congrArg (List.map fun id => some (m.own id)) (map_id_assigned hle)
  rw [List.map_map, List.map_map] at hown
  rw [← map_favorite_assigned hle]
  refine Iff.trans ?_ (iff_of_eq (congrArg _ hown))
  rw [List.map_inj_left]
  exact forall_congr' fun c => by rw [sorter.mem_sort]; rfl

/-- HOT changes nothing when it is selected again exactly if the numbers it
assigns are already there. -/
theorem Inv.again_iff (h : m.Inv) (hle : m.vc.favoriteCount.length ≤ m.vc.content.length)
    (hsorted : m.vc.content.Pairwise fun a b => likes b ≤ likes a) :
    (∀ sorter vc, m.vc.segmentSelect sorter 0 = some vc →
        vc.content.Perm m.vc.content ∧
          vc.content.map Content.favorite = m.vc.content.map Content.favorite) ↔
      assigned m.vc.favoriteCount m.vc.content = m.vc.content := by
  constructor
  · intro hagain
    obtain ⟨hperm, -⟩ := hagain .insertion _ (segmentSelect_of_le .insertion hle)
    refine eq_of_perm_of_map ?_ (map_id_assigned hle) h.nodup
    exact (Sorter.insertion.perm_sort _ _).symm.trans hperm
  · intro heq sorter vc hvc
    obtain ⟨-, rfl⟩ := segmentSelect_hot hvc
    rw [heq]
    have hperm := sorter.perm_sort hotter m.vc.content
    have hkeys := (hperm.map likes).eq_of_pairwise'
      (List.pairwise_map.mpr (pairwise_sort_hotter h.isSome))
      (r := (· ≥ ·)) (List.pairwise_map.mpr hsorted)
    refine ⟨hperm, ?_⟩
    rw [map_favorite_eq fun c hc => h.isSome c (sorter.mem_sort.mp hc), map_favorite_eq h.isSome,
      hkeys]

/-- HOT ranks exactly an aligned list. -/
theorem Inv.ranked_iff (h : m.Inv) (hle : m.vc.favoriteCount.length ≤ m.vc.content.length)
    (sorter : Sorter Content) :
    Ranked { m with vc := { m.vc with
      content := sorter.sort hotter (assigned m.vc.favoriteCount m.vc.content) } } ↔
      m.Aligned := by
  have hsorted : (sorter.sort hotter (assigned m.vc.favoriteCount m.vc.content)).Pairwise
      fun a b => likes b ≤ likes a := pairwise_sort_hotter (isSome_assigned hle h.isSome)
  have hlen : m.vc.favoriteCount.length ≤
      (sorter.sort hotter (assigned m.vc.favoriteCount m.vc.content)).length := by
    rw [(sorter.perm_sort _ _).length_eq, length_assigned hle]
    exact hle
  have hagain := ((h.hot hle sorter).again_iff hlen hsorted).trans
    (assigned_sort_eq_self_iff hle h.isSome)
  constructor
  · intro hranked
    obtain ⟨hdescending, hrest⟩ := hagain.mp hranked.again
    exact ⟨(own_iff hle sorter).mp hranked.own, hdescending, hrest⟩
  · intro haligned
    have hown := (own_iff hle sorter).mpr haligned.own
    refine ⟨hown, hsorted.imp_of_mem fun {a b} ha hb hab => ?_,
      hagain.mpr ⟨haligned.descending, haligned.rest⟩⟩
    rwa [likes, likes, hown a ha, hown b hb] at hab

/-- Every step keeps the invariant. -/
theorem Inv.step (h : m.Inv) (hm : m.step e = some m') : m'.Inv := by
  obtain ⟨hguard, hm⟩ := Option.ite_none_left_eq_some.mp hm
  obtain ⟨-, hquery⟩ := not_or.mp hguard
  split at hm
  · next vc hvc =>
    cases hm
    cases e with
    | favorites i documents => cases hvc; exact { h with }
    | fetched documents =>
        rw [getContentDone_eq hvc]
        refine ⟨fun c hc => ?_, nodup_map_id_filterMap (not_not.mp hquery)⟩
        obtain ⟨doc, -, hdoc⟩ := List.mem_filterMap.mp hc
        obtain ⟨_, -, rfl⟩ := Option.map_eq_some_iff.mp hdoc
        rfl
    | segmentSelect sorter selectedSegmentIndex =>
        by_cases hzero : selectedSegmentIndex = 0
        · subst hzero
          obtain ⟨hle, rfl⟩ := segmentSelect_hot hvc
          exact { h.hot hle sorter with }
        · cases (if_neg hzero).symm.trans hvc
          exact {
            isSome := fun c hc => h.isSome c (sorter.mem_sort.mp hc)
            nodup := by
              rw [((sorter.perm_sort _ _).map Content.id).nodup_iff]
              exact h.nodup }
  · cases hm
    exact { h with }

/-- HOT in terms of the state before it. -/
theorem Inv.hotRanks_iff (h : m.Inv) (hfits : m.Fits e) (hm : m.step e = some m') :
    m.HotRanks e ↔ m.HotAligned e := by
  cases e with
  | favorites | fetched => exact Iff.rfl
  | segmentSelect sorter selectedSegmentIndex =>
      cases selectedSegmentIndex with
      | succ n => exact Iff.rfl
      | zero =>
          obtain ⟨hguard, -⟩ := Option.ite_none_left_eq_some.mp hm
          have hstep : system.step m (.segmentSelect sorter 0) = some { m with vc := { m.vc with
              content := sorter.sort hotter (assigned m.vc.favoriteCount m.vc.content) } } := by
            change m.step _ = _
            rw [MainList.step, if_neg hguard, controller, segmentSelect_of_le sorter hfits]
            rfl
          exact (EventSystem.forall_next_iff hstep).trans (h.ranked_iff hfits sorter)

/-- **HOT.**  In a run in which there are enough entries at every selection of
HOT, each of them ranks every trip by its own likes exactly if the list and the
numbers are aligned at each of them. -/
theorem steps_hotRanks_iff (h : system.Steps Fits {} es m) :
    system.Steps HotRanks {} es m ↔ system.Steps HotAligned {} es m :=
  h.iff_steps (I := Inv) (fun hI _ _ hstep => hI.step hstep)
    (fun hI hc hstep => hI.hotRanks_iff hc hstep) ⟨nofun, List.nodup_nil⟩

instance (m : MainList) : Decidable m.Aligned :=
  decidable_of_iff (_ ∧ _ ∧ _) ⟨fun ⟨h₁, h₂, h₃⟩ => ⟨h₁, h₂, h₃⟩, fun ⟨h₁, h₂, h₃⟩ => ⟨h₁, h₂, h₃⟩⟩

instance (m : MainList) (e : Event) : Decidable (m.Fits e) :=
  match e with
  | .segmentSelect _ 0 =>
      inferInstanceAs (Decidable (m.vc.favoriteCount.length ≤ m.vc.content.length))
  | .segmentSelect _ (_ + 1) | .favorites _ _ | .fetched _ => inferInstanceAs (Decidable True)

instance (m : MainList) (e : Event) : Decidable (m.HotAligned e) :=
  match e with
  | .segmentSelect _ 0 => inferInstanceAs (Decidable m.Aligned)
  | .segmentSelect _ (_ + 1) | .favorites _ _ | .fetched _ => inferInstanceAs (Decidable True)

/-- Two trips whose identifiers are watched. -/
def twoTrips : List (DocId × Document) :=
  [("doc1", .ofFields [("timestamp", .timestamp 0)]),
    ("doc2", .ofFields [("timestamp", .timestamp 1)])]

/-- One like. -/
def like : DocId × Document := ("like", .ofFields [("email", .string "a@b.c")])

/-- The listeners deliver in the order of the list, and the first trip has more
likes. -/
def inOrder : List Event :=
  [.fetched twoTrips, .favorites 0 [like, ("other", like.2)], .favorites 1 [like],
    .segmentSelect .insertion 0]

theorem inOrder_hotRanks : ∃ m, system.Steps HotRanks {} inOrder m := by
  obtain ⟨m, hrun, -⟩ := EventSystem.exists_steps_of_exec system
    (fun m e => m.Fits e ∧ m.HotAligned e) {} inOrder (fun _ => true) (by decide)
  exact ⟨m, (steps_hotRanks_iff (hrun.mono fun _ _ h => h.1)).mpr (hrun.mono fun _ _ h => h.2)⟩

/-- The listener of the second trip delivers first: its like is shown at the
first trip. -/
theorem exists_not_hotRanks : ¬∀ {es : List Event} {m : MainList},
    system.Steps Fits {} es m → system.Steps HotRanks {} es m := by
  intro hall
  obtain ⟨m, hrun, hm⟩ := EventSystem.exists_steps_of_exec system Fits {}
    [.fetched twoTrips, .favorites 1 [like]]
    (fun m => decide (m.Fits (.segmentSelect .insertion 0)) &&
      (m.step (.segmentSelect .insertion 0)).any fun m' =>
        m'.vc.content.any fun c => c.favorite ≠ some (m'.own c.id)) (by decide)
  obtain ⟨hfits, hm⟩ := Bool.and_eq_true_iff.mp hm
  obtain ⟨m', hstep, hm⟩ := (Option.any_eq_true _ _).mp hm
  obtain ⟨c, hc, hne⟩ := List.any_eq_true.mp hm
  have hlonger : system.Steps Fits {} _ m' := hrun.snoc (of_decide_eq_true hfits) hstep
  have hranked := (hall hlonger).last hrun.runs m' hstep
  exact of_decide_eq_true hne (hranked.own c hc)

end MainList

end Groute

import Groute.Authoring.World
import Groute.Content.Controllers
import Groute.Main.Controller
import Groute.MyTrips.Controller

/-!
# The schema of the Content tree

No file of the app says which fields a document has.  Ten decoders read the four
collections, and each traps when a field it forces is missing.  `WellFormed` is
the schema behind them: what every document of the Content tree has, whichever
writes of the app got through, in whatever order.

A write is well formed if it cannot break the schema.  The partial updates are,
since they leave the time stamp alone; so an update that arrives after a
deletion, or after another update, does no harm.
-/

namespace Groute

/-- The fields of a document of a subcollection that some decoder forces. -/
def Sub.Fields (d : Document) : Sub → Prop
  | .route => (d.string "name").isSome ∧ (d.geoPoint "geopoint").isSome
  | .comment => (d.string "comment").isSome ∧ (d.string "email").isSome ∧
      (d.date "timestamp").isSome
  | .favorite => (d.string "email").isSome

/-- The schema. -/
structure Store.WellFormed (st : Store) : Prop where
  content : ∀ {id d}, st.content.get id = some d → (d.date "timestamp").isSome
  sub : ∀ {c id k d}, (st.sub c id).get k = some d → c.Fields d

/-- A write that cannot break the schema. -/
def Write.WellFormed : Write → Prop
  | .addContent _ data => (data.date "timestamp").isSome
  | .updateContent _ fields => fields.lookup "timestamp" = none
  | .addSub c _ _ data => c.Fields data
  | .deleteContent _ | .deleteSub _ _ _ => True

instance (d : Document) (c : Sub) : Decidable (c.Fields d) :=
  match c with
  | .route | .comment => inferInstanceAs (Decidable (_ ∧ _))
  | .favorite => inferInstanceAs (Decidable (Option.isSome _ = true))

instance (w : Write) : Decidable w.WellFormed :=
  match w with
  | .addContent _ _ => inferInstanceAs (Decidable (Option.isSome _ = true))
  | .updateContent _ fields => inferInstanceAs (Decidable (fields.lookup "timestamp" = none))
  | .addSub c _ _ data => inferInstanceAs (Decidable (c.Fields data))
  | .deleteContent _ | .deleteSub _ _ _ => inferInstanceAs (Decidable True)

namespace Store

variable {st : Store} {w : Write}

theorem wellFormed_empty : empty.WellFormed where
  content := nofun
  sub := nofun

/-- A well-formed write keeps the schema. -/
theorem WellFormed.apply (h : st.WellFormed) (hw : w.WellFormed) : (st.apply w).WellFormed := by
  cases w with
  | addContent id data =>
      refine { h with content := fun {id' d} hd => ?_ }
      by_cases hid : id' = id
      · subst hid
        cases (Collection.get_set_self _ _ _).symm.trans hd
        exact hw
      · exact h.content ((Collection.get_set_of_ne _ _ hid).symm.trans hd)
  | updateContent id fields =>
      refine { h with content := fun {id' d} hd => ?_ }
      by_cases hid : id' = id
      · subst hid
        obtain ⟨d', hd', rfl⟩ := Option.map_eq_some_iff.mp
          ((Collection.get_modify_self _ _ _).symm.trans hd)
        rw [Document.date, Document.get_updateData_of_lookup_none hw]
        exact h.content hd'
      · exact h.content ((Collection.get_modify_of_ne _ _ hid).symm.trans hd)
  | deleteContent id =>
      refine { h with content := fun {id' d} hd => ?_ }
      by_cases hid : id' = id
      · subst hid
        cases (Collection.get_erase_self _ _).symm.trans hd
      · exact h.content ((Collection.get_erase_of_ne _ hid).symm.trans hd)
  | addSub c id k data =>
      refine { h with sub := fun {c' id' k' d} hd => ?_ }
      by_cases hsame : c' = c ∧ id' = id ∧ k' = k
      · obtain ⟨rfl, rfl, rfl⟩ := hsame
        rw [Store.apply, setSub_sub_self, Collection.get_set_self] at hd
        cases hd
        exact hw
      · exact h.sub ((get_sub_addSub hsame).symm.trans hd)
  | deleteSub c id k =>
      refine { h with sub := fun {c' id' k' d} hd => ?_ }
      by_cases hsame : c' = c ∧ id' = id ∧ k' = k
      · obtain ⟨rfl, rfl, rfl⟩ := hsame
        rw [Store.apply, setSub_sub_self, Collection.get_erase_self] at hd
        cases hd
      · exact h.sub ((get_sub_deleteSub hsame).symm.trans hd)

/-- No decoder traps on a document of the collection it reads. -/
structure Readable (st : Store) : Prop where
  getContent : ∀ {id d}, st.content.get id = some d → (ViewController.contentOf (id, d)).isSome
  getCurrentUserDocument : ∀ {id d}, st.content.get id = some d →
    (SecondTabViewController.info (id, d)).isSome
  updateRouteDocument : ∀ {id d}, st.content.get id = some d →
    (AddRouteViewController.content (id, d)).isSome
  getRouteData : ∀ {id k d}, (st.sub .route id).get k = some d →
    (AddRouteViewController.routeName (k, d)).isSome
  getRoute : ∀ {id k d}, (st.sub .route id).get k = some d →
    (ContentRouteViewController.getName (k, d)).isSome
  getReview : ∀ {id k d} now, (st.sub .comment id).get k = some d →
    (ContentViewController.getReview now (k, d)).isSome ∧
      (ContentRouteViewController.getReview now (k, d)).isSome
  getLikeCount : ∀ {id k d}, (st.sub .favorite id).get k = some d →
    (ContentViewController.getLike (k, d)).isSome ∧
      (ContentRouteViewController.getLike (k, d)).isSome

/-- The schema is what the decoders need. -/
theorem WellFormed.readable (h : st.WellFormed) : st.Readable where
  getContent hd := by simpa [ViewController.contentOf] using h.content hd
  getCurrentUserDocument hd := by simpa [SecondTabViewController.info] using h.content hd
  updateRouteDocument hd := by simpa [AddRouteViewController.content] using h.content hd
  getRouteData hd := by simpa [AddRouteViewController.routeName] using (h.sub hd).2
  getRoute hd := (h.sub hd).1
  getReview now hd := by
    obtain ⟨hcomment, hemail, htimestamp⟩ := h.sub hd
    obtain ⟨comment, hcomment⟩ := Option.isSome_iff_exists.mp hcomment
    obtain ⟨email, hemail⟩ := Option.isSome_iff_exists.mp hemail
    obtain ⟨timestamp, htimestamp⟩ := Option.isSome_iff_exists.mp htimestamp
    simp [ContentViewController.getReview, ContentRouteViewController.getReview, hcomment, hemail,
      htimestamp]
  getLikeCount hd := by
    have hemail : (Document.string _ "email").isSome := h.sub hd
    simp [ContentViewController.getLike, ContentRouteViewController.getLike, hemail]

end Store

/-! ## The writes of the app -/

/-- The database and the writes on their way to it, from any number of clients. -/
structure Backend where
  store : Store
  inFlight : List Write := []

namespace Backend

/-- What clients do, with the values their controllers hold, and what becomes of
their writes. -/
inductive Event where
  /-- `TitleViewController.createRouteDocument`. -/
  | createRouteDocument (id : DocId) (createId : String) (currentUser : Option String) (now : Date)
  /-- `SearchViewController.updateTitle`. -/
  | updateTitle (vc : SearchViewController)
  /-- `RouteListViewController.changeContentField`. -/
  | changeContentField (vc : RouteListViewController)
  /-- The confirm action of `DetailTourViewController.addClick`. -/
  | addClick (vc : DetailTourViewController) (stop : DocId)
  /-- `ContentViewController.writeReview`. -/
  | writeReview (contentId id : DocId) (writtenReview connectedEmail : String) (now : Date)
  /-- The handler of `ContentViewController.getExistLikeLocation`, with the likes
  in an order that starts with the `i`-th. -/
  | clickLikeBtn (contentId id : DocId) (connectingEmail : String) (i : Nat)
  /-- The listener of `ContentRouteViewController.getExistLikeLocation`. -/
  | likeButtonClicked (contentId id : DocId) (currentUser : String)
  /-- The handler of the read of a subcollection that a deletion issues. -/
  | deleteSubcollection (c : Sub) (target : DocId)
  /-- The delete of a document that a deletion issues. -/
  | deleteDocument (target : DocId)
  /-- The `i`-th write on its way succeeds or fails. -/
  | completes (i : Nat) (ok : Bool)

/-- The writes that an event issues. -/
def issued (st : Store) : Event → List Write
  | .createRouteDocument id createId currentUser now =>
      [.addContent id (TitleViewController.createRouteDocument createId currentUser now)]
  | .updateTitle vc => [.updateContent vc.id vc.updateTitle]
  | .changeContentField vc => [.updateContent vc.documentId vc.changeContentField]
  | .addClick vc stop => [.addSub .route vc.documentId stop vc.addClick]
  | .writeReview contentId id writtenReview connectedEmail now =>
      if writtenReview = "" then []
      else [.addSub .comment contentId id
        (ContentViewController.comment writtenReview connectedEmail now)]
  | .clickLikeBtn contentId id connectingEmail i =>
      let documents := (ContentViewController.checkLike st contentId connectingEmail).rotate i
      match ContentViewController.getExistLikeLocationDone documents with
      | some like => [.deleteSub .favorite contentId like]
      | none => [.addSub .favorite contentId id (ContentViewController.favorite connectingEmail)]
  | .likeButtonClicked contentId id currentUser =>
      [ContentRouteViewController.getExistLikeLocationDone contentId id currentUser
        (ContentViewController.checkLike st contentId currentUser)]
  | .deleteSubcollection c target =>
      (st.sub c target).docs.map fun doc => .deleteSub c target doc.1
  | .deleteDocument target => [.deleteContent target]
  | .completes _ _ => []

/-- The state after an event. -/
def step (b : Backend) : Event → Option Backend
  | .completes i ok => b.inFlight[i]?.map fun w =>
      { store := if ok then b.store.apply w else b.store, inFlight := b.inFlight.eraseIdx i }
  | e => some { b with inFlight := b.inFlight ++ issued b.store e }

/-- The database and its clients. -/
def system : EventSystem Backend Event := ⟨step⟩

variable {b b' : Backend} {e : Event} {es : List Event}

/-- Every write of the app is well formed. -/
theorem wellFormed_of_mem_issued {st : Store} {w : Write} (h : w ∈ issued st e) :
    w.WellFormed := by
  cases e with
  | createRouteDocument | updateTitle | changeContentField =>
      rw [List.mem_singleton.mp h]
      rfl
  | deleteDocument =>
      rw [List.mem_singleton.mp h]
      trivial
  | addClick vc stop =>
      rw [List.mem_singleton.mp h]
      exact ⟨rfl, rfl⟩
  | writeReview contentId id writtenReview connectedEmail now =>
      simp only [issued] at h
      split at h
      · cases h
      · rw [List.mem_singleton.mp h]
        exact ⟨rfl, rfl, rfl⟩
  | clickLikeBtn contentId id connectingEmail i =>
      simp only [issued] at h
      split at h <;> (rw [List.mem_singleton.mp h]; trivial)
  | likeButtonClicked contentId id currentUser =>
      rw [List.mem_singleton.mp h, ContentRouteViewController.getExistLikeLocationDone]
      split <;> trivial
  | deleteSubcollection c target =>
      obtain ⟨doc, -, rfl⟩ := List.mem_map.mp h
      trivial
  | completes => cases h

/-- The database and all writes on their way are well formed. -/
structure WellFormed (b : Backend) : Prop where
  store : b.store.WellFormed
  inFlight : ∀ w ∈ b.inFlight, w.WellFormed

/-- Issuing writes keeps the schema. -/
theorem WellFormed.issue (h : b.WellFormed) (e : Event) :
    WellFormed { b with inFlight := b.inFlight ++ issued b.store e } :=
  { h with
    inFlight := fun w hw => (List.mem_append.mp hw).elim (h.inFlight w) wellFormed_of_mem_issued }

/-- Every step keeps the schema. -/
theorem WellFormed.step (h : b.WellFormed) (hb : b.step e = some b') : b'.WellFormed := by
  cases e with
  | completes i ok =>
      obtain ⟨w, hw, rfl⟩ := Option.map_eq_some_iff.mp hb
      refine ⟨?_, fun w' hw' => h.inFlight w' (List.eraseIdx_subset hw')⟩
      dsimp only
      split
      · exact h.store.apply (h.inFlight w (List.mem_of_getElem? hw))
      · exact h.store
  | _ => cases hb; exact h.issue _

/-- **Everything the app writes it can read back.**  Starting from an empty
Content tree, whatever clients write, and in whatever order their writes succeed
or fail, no decoder traps on any document it reads. -/
theorem runs_readable (h : system.Runs ⟨.empty, []⟩ es b) : b.store.Readable := by
  have hI : b.WellFormed := h.invariant (fun hI _ hb => WellFormed.step hI hb)
    ⟨Store.wellFormed_empty, nofun⟩
  exact hI.store.readable

/-- A trip is created and retitled while it is being deleted, and gets a stop, a
review and a like afterwards. -/
def racing : List Event :=
  [.createRouteDocument "trip" "abc" (some "a@b.c") 0, .completes 0 true,
    .updateTitle { contentTitle := "Jeju", id := "trip" }, .deleteDocument "trip",
    .addClick { documentId := "trip" } "stop", .completes 1 true, .completes 0 true,
    .writeReview "trip" "review" "nice" "d@e.f" 1, .clickLikeBtn "trip" "like" "d@e.f" 0,
    .completes 0 true, .completes 1 true, .completes 0 true]

theorem racing_readable : ∃ b, system.Runs ⟨.empty, []⟩ racing b ∧ b.store.Readable := by
  obtain ⟨b, hrun, -⟩ := EventSystem.exists_runs_of_exec system ⟨.empty, []⟩ racing
    (fun b => b.inFlight.isEmpty) (by decide)
  exact ⟨b, hrun, runs_readable hrun⟩

end Backend

/-! ## The authoring runs

The writes of the authoring runs are among those above, so the runs can read
whatever is in the database. -/

/-- A deletion only deletes. -/
theorem Deletion.wellFormed_writes {st : Store} {d d' : Deletion} {e : Deletion.Event} {ok : Bool}
    {ws : List Write} (h : d.step st e ok = some (d', ws)) : ∀ w ∈ ws, w.WellFormed := by
  obtain ⟨c, -, -, rfl, -⟩ | ⟨c, id, -, -, rfl, -⟩ | ⟨-, -, rfl, -⟩ := Deletion.step_cases h
  · simp
  · exact Write.forall_mem_ite trivial
  · exact Write.forall_mem_ite trivial

/-- A run issues well-formed writes only. -/
theorem Session.Reacts.wellFormed_writes {s : Session} {st : Store} {e : Session.Event} {ok : Bool}
    {r : Session.Response} (h : Session.Reacts s st e ok r) : ∀ w ∈ r.writes, w.WellFormed := by
  cases h with
  | openRouteList | searchAppears => exact Write.forall_mem_ite rfl
  | confirmStop => exact Write.forall_mem_ite ⟨rfl, rfl⟩
  | cleanUp hdel hstep => exact Deletion.wellFormed_writes hstep
  | _ => simp

/-- Several well-formed writes keep the schema. -/
theorem Store.WellFormed.applyAll {st : Store} {ws : List Write} (h : st.WellFormed)
    (hws : ∀ w ∈ ws, w.WellFormed) : (st.applyAll ws).WellFormed := by
  induction ws generalizing st with
  | nil => exact h
  | cons w ws ih =>
      exact ih (h.apply (hws w List.mem_cons_self)) fun w' hw' =>
        hws w' (List.mem_cons_of_mem w hw')

namespace World

variable {w w' w₀ : World} {e : Event} {es : List Event}

/-- The other features of the app write well-formed documents. -/
def WritesWell (_ : World) : Event → Prop
  | .elsewhere wr => wr.WellFormed
  | .enter .. | .run .. => True

instance (w : World) (e : Event) : Decidable (WritesWell w e) :=
  match e with
  | .elsewhere wr => inferInstanceAs (Decidable wr.WellFormed)
  | .enter _ _ _ _ _ | .run _ _ _ => inferInstanceAs (Decidable True)

/-- One step of the authoring runs keeps the schema. -/
theorem wellFormed_step (h : w.store.WellFormed) (hc : w.WritesWell e)
    (hw : w.step e = some w') : w'.store.WellFormed := by
  cases e with
  | enter created randomElement currentUser now ok =>
      obtain ⟨-, ⟨⟩⟩ := Option.ite_none_right_eq_some.mp hw
      dsimp only
      split
      · exact h.apply (w := .addContent created _) rfl
      · exact h
  | run i e ok =>
      obtain ⟨s, r, -, hr, ⟨-, rfl⟩ | ⟨-, rfl⟩⟩ := step_run hw
      · exact h
      · exact h.applyAll (Session.reacts_of_react hr).wellFormed_writes
  | elsewhere wr =>
      obtain ⟨-, ⟨⟩⟩ := Option.ite_none_right_eq_some.mp hw
      exact h.apply hc

end World

end Groute

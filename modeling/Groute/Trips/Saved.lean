import Groute.Authoring.SavedTrip
import Groute.MyTrips.Listed
import Groute.MyTrips.Rows
import Groute.Trips.Makers
import Groute.Trips.Stops

/-!
# Saved trips, from the keyboard to the screens

What a user types and chooses passes through five screens before it is written, in three
writes at different times, and four screens of all users read it back, each with its own
names for the fields.

`saved_shown` follows it all the way: once the save alert has been confirmed, all four show
the same trip, the list of the user's own trips from its second appearance on.
-/

namespace Groute

/-- The document records what the user has typed and chosen. -/
structure Document.Records (d : Document) (it : Itinerary) (currentUser : Option String)
    (now : Date) (image : String) : Prop where
  title : d.get "title" = some (.string it.title)
  memo : d.get "memo" = some (.string it.memo)
  location : d.get "location" = some (.string it.visitedCity)
  email : d.get "email" = some (.string (currentUser.getD ""))
  imageAddress : d.get "imageAddress" = some (.string image)
  timestamp : d.get "timestamp" = some (.timestamp now)

/-- The image of a stop of day 1, as it was when the list of places was opened last. -/
def Itinerary.IsImage (it : Itinerary) (image : String) : Prop :=
  (it.visitedImages = [] → image = "") ∧ (it.visitedImages ≠ [] → image ∈ it.visitedImages)

/-! ## What the screens read -/

/-- The entry of the main list. -/
def Itinerary.content (it : Itinerary) (created : DocId) (currentUser : Option String)
    (now : Date) (image : String) : Content where
  id := created
  location := it.visitedCity
  email := currentUser.getD ""
  title := it.title
  memo := it.memo
  timestamp := now
  imageAddress := image
  favorite := some 0

/-- The row of the user's own list. -/
def Itinerary.row (it : Itinerary) (created : DocId) (now : Date) (image : String) :
    CurrentUserDocument where
  id := created
  title := it.title
  imageAddress := image
  timestamp := now

/-- The first screen for the trip. -/
structure ContentViewController.Details.ShowsTrip (vc : ContentViewController.Details)
    (it : Itinerary) (currentUser : Option String) (now : Date) (image : String) : Prop where
  locationLabel : vc.locationLabel = it.visitedCity ++ " 여행"
  memoLabel : vc.memoLabel = it.memo
  userLabel : vc.userLabel = currentUser.getD ""
  routeImage : vc.routeImage = some image
  timeLabel : vc.timeLabel = some now

/-- The second screen for the trip. -/
structure ContentRouteViewController.ShowsTrip (vc : ContentRouteViewController)
    (it : Itinerary) (currentUser : Option String) (now : Date) : Prop where
  routeLocation : vc.routeLocation = it.title
  routeMemo : vc.routeMemo = it.memo
  routeUser : vc.routeUser = currentUser.getD ""
  routeTime : vc.routeTime = some now

namespace Document.Records

variable {d : Document} {it : Itinerary} {currentUser : Option String} {now : Date}
  {image : String} {created : DocId}

theorem date (h : d.Records it currentUser now image) : d.date "timestamp" = some now := by
  rw [Document.date, h.timestamp]
  rfl

/-- `getContent` of the main list. -/
theorem contentOf (h : d.Records it currentUser now image) :
    ViewController.contentOf (created, d) =
      some (it.content created currentUser now image) := by
  simp only [ViewController.contentOf, h.date, Document.string_of_get h.location,
    Document.string_of_get h.email, Document.string_of_get h.title, Document.string_of_get h.memo,
    Document.string_of_get h.imageAddress, Option.map_some, Option.getD_some]
  rfl

/-- `getCurrentUserDocument`. -/
theorem info (h : d.Records it currentUser now image) :
    SecondTabViewController.info (created, d) = some (it.row created now image) := by
  simp only [SecondTabViewController.info, h.date, Document.string_of_get h.title,
    Document.string_of_get h.imageAddress, Option.map_some, Option.getD_some]
  rfl

/-- `getContent` of the first screen for a trip. -/
theorem shows {sorter : Sorter Comment} {vc : ContentViewController.Details}
    (h : d.Records it currentUser now image)
    (hshows : DetailsScreen.Shows sorter vc [(created, d)] .getContent) :
    vc.ShowsTrip it currentUser now image := by
  obtain ⟨hlocation, hmemo, hemail, himage, htime⟩ := hshows
  exact ⟨hlocation _ (Document.string_of_get h.location), hmemo _ (Document.string_of_get h.memo),
    hemail _ (Document.string_of_get h.email), himage _ (Document.string_of_get h.imageAddress),
    htime _ h.date⟩

/-- `getContent` of the second screen for a trip. -/
theorem getContentDone (h : d.Records it currentUser now image)
    (vc : ContentRouteViewController) : (vc.getContentDone d).ShowsTrip it currentUser now := by
  constructor
  · rw [ContentRouteViewController.getContentDone, Document.string_of_get h.title]
    rfl
  · rw [ContentRouteViewController.getContentDone, Document.string_of_get h.memo]
    rfl
  · rw [ContentRouteViewController.getContentDone, Document.string_of_get h.email]
    rfl
  · rw [ContentRouteViewController.getContentDone, h.date]
    rfl

end Document.Records

/-- The document of a run that has been saved. -/
theorem Session.Follows.records {it : Itinerary} {s : Session} {st : Store} {now : Date}
    (h : Session.Follows it s st) (hsaved : s.phase = .saved)
    (htimestamp : ∀ d, st.content.get s.created = some d →
      d.get "timestamp" = some (.timestamp now)) :
    ∃ d image, st.content.get s.created = some d ∧ it.IsImage image ∧
      d.Records it s.currentUser now image := by
  obtain ⟨d, hd, hsays⟩ := h.document
  obtain ⟨image, himage, hnone, hsome⟩ := hsays.image
  have hwritten : s.phase.IsWritten := by
    rw [hsaved]
    trivial
  exact ⟨d, image, hd, ⟨hnone, hsome⟩, hsays.title hwritten, hsays.memo hwritten, hsays.location,
    hsays.email, himage, htimestamp d hd⟩

namespace World

variable {w w' w₀ w₁ w₂ w₃ : World} {e : Event} {es fs : List Event} {i : Nat} {created : DocId}
  {currentUser : Option String} {now : Date}

/-! ## Along a run -/

/-- The time stamp that a trip gets when it is created. -/
def Dated (created : DocId) (now : Date) (w : World) : Prop :=
  ∀ d, w.store.content.get created = some d → d.get "timestamp" = some (.timestamp now)

/-- Nothing writes to it again. -/
theorem Dated.step {s : Session} (h : Dated created now w) (hs : s ∈ w.sessions)
    (hcreated : s.created = created) (hc : Prompt i created w e) (hw : w.step e = some w') :
    Dated created now w' := by
  intro d' hd'
  cases e with
  | enter created' randomElement currentUser now' ok =>
      obtain ⟨⟨-, -, -, hother⟩, ⟨⟩⟩ := Option.ite_none_right_eq_some.mp hw
      have hne : created ≠ created' := fun heq => (hother s hs).1 (hcreated.trans heq)
      dsimp only at hd'
      split at hd'
      · exact h d' ((Collection.get_set_of_ne _ _ hne).symm.trans hd')
      · exact h d' hd'
  | run j e ok =>
      obtain ⟨s', r, -, hr, ⟨-, rfl⟩ | ⟨-, rfl⟩⟩ := step_run hw
      · exact h d' hd'
      · obtain ⟨d, hd, hfields⟩ :=
          Trips.exists_get_of_keeps (Session.reacts_of_react hr).keeps hd'
        rw [hfields "timestamp" (by simp [Trips.identity])]
        exact h d hd
  | elsewhere wr =>
      obtain ⟨-, ⟨⟩⟩ := Option.ite_none_right_eq_some.mp hw
      exact h d' ((Store.sameAt_apply (Ne.symm hc)).content.symm.trans hd')

/-- The run is prompt, and the other features of the app write well-formed documents. -/
def Careful (i : Nat) (created : DocId) (w : World) (e : Event) : Prop :=
  w.WritesWell e ∧ Prompt i created w e

instance (i : Nat) (created : DocId) (w : World) (e : Event) : Decidable (Careful i created w e) :=
  inferInstanceAs (Decidable (_ ∧ _))

/-- What is known of the `i`-th run, of its document and of the database. -/
structure Recording (i : Nat) (created : DocId) (currentUser : Option String) (now : Date)
    (fs : List Event) (w : World) : Prop where
  saving : ∃ s, Saving i created currentUser fs w s
  dated : Dated created now w
  store : w.store.WellFormed

theorem Recording.step (h : Recording i created currentUser now fs w)
    (hc : Careful i created w e) (hw : w.step e = some w') :
    Recording i created currentUser now (fs ++ [e]) w' := by
  obtain ⟨s, hsaving⟩ := h.saving
  have hs := List.mem_of_getElem? hsaving.session
  exact ⟨hsaving.step hc.2 hw, h.dated.step hs hsaving.created_eq hc.2 hw,
    wellFormed_step h.store hc.1 hw⟩

end World

end Groute

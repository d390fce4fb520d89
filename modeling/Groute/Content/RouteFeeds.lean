import Mathlib.Data.Prod.Lex
import Groute.Content.Age
import Groute.Lib.Feed
import Groute.Reads
import Groute.Schema

/-!
# The second screen next to the database

`ContentRouteViewController` registers listeners for its reviews, its likes and the likes
of the user.  None of them is ever removed, and there are more and more of them: each
press of the like button adds one that writes, and whatever this one receives, it adds two
that read.  What it writes is received by all of them, itself included.

`RouteFeeds` is the screen with the database and all listeners.  Presses, deliveries and
the writes of others come in any order, so the screen can show anything in between.  But
the deliveries come to an end, and then it shows what the database holds.

The two reads of `viewDidLoad` that are not listeners fill other properties and are left
out.
-/

namespace Groute

/-- The documents that a write adds are new. -/
def Write.New (st : Store) : Write → Prop
  | .addContent id _ => (st.content.get id).isNone
  | .addSub c id sub _ => ((st.sub c id).get sub).isNone
  | .updateContent _ _ | .deleteContent _ | .deleteSub _ _ _ => True

instance (st : Store) (w : Write) : Decidable (w.New st) :=
  match w with
  | .addContent _ _ | .addSub _ _ _ _ => inferInstanceAs (Decidable (Option.isNone _ = true))
  | .updateContent _ _ | .deleteContent _ | .deleteSub _ _ _ => inferInstanceAs (Decidable True)

/-- A query that lists the same keys after such a write lists the same documents. -/
theorem Store.query_apply_of_keys {st : Store} {w : Write} (hnew : w.New st) {c : Sub}
    {id : DocId} {p : Document → Bool}
    (hkeys : (((st.apply w).sub c id).query p).map Prod.fst =
      ((st.sub c id).query p).map Prod.fst) :
    ((st.apply w).sub c id).query p = (st.sub c id).query p := by
  cases w with
  | addContent | updateContent | deleteContent => rfl
  | addSub c' id' sub data =>
      by_cases hsame : c = c' ∧ id = id'
      · obtain ⟨rfl, rfl⟩ := hsame
        rw [Store.sub_addSub] at hkeys ⊢
        exact Collection.query_set_of_keys (Option.isNone_iff_eq_none.mp hnew) hkeys
      · rw [Store.apply, Store.setSub_sub_of_ne _ hsame]
  | deleteSub c' id' sub =>
      by_cases hsame : c = c' ∧ id = id'
      · obtain ⟨rfl, rfl⟩ := hsame
        rw [Store.sub_deleteSub] at hkeys ⊢
        exact Collection.query_erase_of_keys hkeys
      · rw [Store.apply, Store.setSub_sub_of_ne _ hsame]

/-- The queries that the screen listens to, under the names of the methods that register
the listeners. -/
inductive RouteFeed where
  | getExistLikeLocation
  | checkLikeImage
  | getLikeCount
  | getReview
deriving DecidableEq

/-- All queries. -/
def RouteFeed.all : List RouteFeed :=
  [.getExistLikeLocation, .checkLikeImage, .getLikeCount, .getReview]

theorem RouteFeed.mem_all (feed : RouteFeed) : feed ∈ RouteFeed.all := by
  cases feed <;> simp [RouteFeed.all]

/-- What a query finds in the database. -/
def RouteFeed.find (st : Store) (contentId : DocId) (currentUser : Option String) :
    RouteFeed → Documents
  | .getExistLikeLocation | .checkLikeImage => currentUser.elim [] fun currentUser =>
      (st.sub .favorite contentId).query fun d => d.get "email" = some (.string currentUser)
  | .getLikeCount => (st.sub .favorite contentId).docs
  | .getReview => (st.sub .comment contentId).docs

/-- If it lists the same keys after a write of new documents, it lists the same
documents. -/
theorem RouteFeed.find_apply_of_keys {st : Store} {w : Write} (hnew : w.New st)
    {contentId : DocId} {currentUser : Option String} {feed : RouteFeed}
    (hkeys : (feed.find (st.apply w) contentId currentUser).map Prod.fst =
      (feed.find st contentId currentUser).map Prod.fst) :
    feed.find (st.apply w) contentId currentUser = feed.find st contentId currentUser := by
  have hdocs (c : Sub) (h : ((st.apply w).sub c contentId).docs.map Prod.fst =
      (st.sub c contentId).docs.map Prod.fst) :
      ((st.apply w).sub c contentId).docs = (st.sub c contentId).docs := by
    rw [← Collection.query_true, ← Collection.query_true] at h ⊢
    exact Store.query_apply_of_keys hnew h
  cases feed with
  | getExistLikeLocation | checkLikeImage =>
      cases currentUser with
      | none => rfl
      | some currentUser =>
          simp only [find, Option.elim_some] at hkeys ⊢
          exact Store.query_apply_of_keys hnew hkeys
  | getLikeCount => exact hdocs .favorite hkeys
  | getReview => exact hdocs .comment hkeys

/-- The screen, the database and the listeners. -/
structure RouteFeeds where
  screen : Displayed ContentRouteViewController
  /-- `firebaseAuth.currentUser?.email`. -/
  currentUser : Option String
  listeners : RouteFeed → Listeners Documents := fun _ => []
  /-- The process has trapped. -/
  trapped : Bool := false

namespace RouteFeeds

open ContentRouteViewController

/-! ## The screen -/

/-- The trip. -/
def contentId (r : RouteFeeds) : DocId := r.screen.vc.contentId

/-- The likes of the trip. -/
def favorites (r : RouteFeeds) : Collection DocId Document :=
  r.screen.store.sub .favorite r.contentId

/-- The reviews of the trip. -/
def comments (r : RouteFeeds) : Collection DocId Document :=
  r.screen.store.sub .comment r.contentId

/-- What a query finds. -/
def result (r : RouteFeeds) (feed : RouteFeed) : Documents :=
  feed.find r.screen.store r.contentId r.currentUser

/-- A listener is registered. -/
def register (r : RouteFeeds) (feed : RouteFeed) : RouteFeeds :=
  { r with listeners :=
      Function.update r.listeners feed ((r.listeners feed).register (r.result feed)) }

/-- `checkLikeImage`. -/
def checkLikeImage (r : RouteFeeds) : RouteFeeds :=
  if r.currentUser.isSome then r.register .checkLikeImage else r

/-- `getExistLikeLocation`. -/
def getExistLikeLocation (r : RouteFeeds) : RouteFeeds :=
  if r.currentUser.isSome then r.register .getExistLikeLocation else r

/-- `getLikeCount`. -/
def getLikeCount (r : RouteFeeds) : RouteFeeds := r.checkLikeImage.register .getLikeCount

/-- `getReview`. -/
def getReview (r : RouteFeeds) : RouteFeeds := r.register .getReview

/-- `viewDidLoad`. -/
def viewDidLoad (store : Store) (contentId : DocId) (currentUser : Option String) :
    RouteFeeds :=
  let vc : ContentRouteViewController := { contentId }
  let r : RouteFeeds :=
    { screen := { vc, store, tableView := vc, collectionView := vc }, currentUser }
  r.getReview.getLikeCount

/-- `likeButtonClicked`. -/
def likeButtonClicked (r : RouteFeeds) : RouteFeeds :=
  { r.getExistLikeLocation with screen := r.screen.reloadCollection }

/-- The screen or the database has changed, and the listeners are notified. -/
def become (r : RouteFeeds) (screen : Displayed ContentRouteViewController) : RouteFeeds :=
  let r' := { r with screen }
  { r' with listeners := fun feed => (r.listeners feed).observe (r.result feed) (r'.result feed) }

/-- The handler of a listener; a like it adds gets the identifier `id`. -/
def read (r : RouteFeeds) (sorter : Sorter Comment) (id : DocId) (now : DocId → Date) :
    RouteFeed → Option (ContentRouteViewController.Read Documents)
  | .getExistLikeLocation => r.currentUser.map (.getExistLikeLocation · id)
  | .checkLikeImage => some .checkLikeImage
  | .getLikeCount => some .getLikeCount
  | .getReview => some (.getReview sorter now)

/-- The handler is called.  That of `getExistLikeLocation` calls `getLikeCount`. -/
def call (r : RouteFeeds) (feed : RouteFeed) (read : ContentRouteViewController.Read Documents)
    (documents : Documents) : RouteFeeds :=
  match read.handler (some documents) none r.screen with
  | none => { r with trapped := true }
  | some screen =>
      if feed = .getExistLikeLocation then (r.become screen).getLikeCount else r.become screen

/-! ## Runs -/

/-- What can happen. -/
inductive Event where
  | likeButtonClicked
  /-- Listener `k` of a query receives a snapshot; `now` is when each review is read. -/
  | delivered (feed : RouteFeed) (k : Nat) (id : DocId) (now : DocId → Date)
  /-- Listener `k` of a query receives an error, which is printed, and nothing after it. -/
  | failed (feed : RouteFeed) (k : Nat)
  /-- Somebody else writes. -/
  | elsewhere (w : Write)

/-- The state after an event, unless the process has trapped. -/
def step (sorter : Sorter Comment) (r : RouteFeeds) (e : Event) : Option RouteFeeds :=
  if r.trapped then none else match e with
  | .likeButtonClicked => some r.likeButtonClicked
  | .delivered feed k id now =>
      ((r.listeners feed).deliver k).bind fun (documents, listeners) =>
        (r.read sorter id now feed).bind fun read =>
          if (r.favorites.get id).isNone then
            some (call { r with listeners := Function.update r.listeners feed listeners }
              feed read documents)
          else none
  | .failed feed k =>
      if k < (r.listeners feed).length then
        some { r with
          listeners := Function.update r.listeners feed ((r.listeners feed).eraseIdx k) }
      else none
  | .elsewhere w =>
      if w.New r.screen.store then
        some (r.become { r.screen with store := r.screen.store.apply w })
      else none

/-- The screen as an event system. -/
def system (sorter : Sorter Comment) : EventSystem RouteFeeds Event := ⟨step sorter⟩

/-- Others write documents that can be read. -/
def WritesWell (_ : RouteFeeds) : Event → Prop
  | .elsewhere w => w.WellFormed
  | .likeButtonClicked | .delivered _ _ _ _ | .failed _ _ => True

/-- They do, and no listener is lost. -/
def Connected (_ : RouteFeeds) : Event → Prop
  | .elsewhere w => w.WellFormed
  | .failed _ _ => False
  | .likeButtonClicked | .delivered _ _ _ _ => True

/-- A listener receives a snapshot; a like it adds does not get the identifier of the
trip. -/
def Delivery (r : RouteFeeds) : Event → Prop
  | .delivered _ _ id _ => id ≠ r.contentId
  | .likeButtonClicked | .failed _ _ | .elsewhere _ => False

instance (r : RouteFeeds) (e : Event) : Decidable (r.WritesWell e) :=
  match e with
  | .elsewhere w => inferInstanceAs (Decidable w.WellFormed)
  | .likeButtonClicked | .delivered _ _ _ _ | .failed _ _ => inferInstanceAs (Decidable True)

instance (r : RouteFeeds) (e : Event) : Decidable (r.Connected e) :=
  match e with
  | .elsewhere w => inferInstanceAs (Decidable w.WellFormed)
  | .failed _ _ => inferInstanceAs (Decidable False)
  | .likeButtonClicked | .delivered _ _ _ _ => inferInstanceAs (Decidable True)

/-- Everything has been received. -/
def Quiet (r : RouteFeeds) : Prop := ∀ feed, (r.listeners feed).pending = []

instance (r : RouteFeeds) : Decidable r.Quiet :=
  decidable_of_iff (∀ feed ∈ RouteFeed.all, (r.listeners feed).pending.isEmpty)
    ⟨fun h feed => List.isEmpty_iff.mp (h feed feed.mem_all),
      fun h feed _ => List.isEmpty_iff.mpr (h feed)⟩

/-- The screen shows what the database holds. -/
structure Current (sorter : Sorter Comment) (r : RouteFeeds) : Prop where
  isExist : r.screen.vc.isExist = true ↔ r.result .checkLikeImage ≠ []
  likeCount : r.screen.collectionView.likeCount = r.favorites.docs.length
  like : r.favorites.docs.mapM getLike = some r.screen.collectionView.like
  review : ∃ (now : DocId → Date) (review : List Comment),
    (r.comments.docs.mapM fun d => ContentRouteViewController.getReview (now d.1) d) = some review ∧
      r.screen.collectionView.review = sorter.sort newer review
  reviewCount : r.screen.collectionView.reviewCount =
    "(" ++ toString r.comments.docs.length ++ ")"

variable {sorter : Sorter Comment} {r r' : RouteFeeds} {feed feed' : RouteFeed} {e : Event}
  {es : List Event} {documents : Documents} {listeners : Listeners Documents} {k : Nat}
  {id : DocId} {now : DocId → Date} {w : Write} {screen : Displayed ContentRouteViewController}
  {read : ContentRouteViewController.Read Documents}

/-! ## What the handlers do -/

/-- If neither the database nor the trip changes, no listener is notified. -/
theorem become_of_store (hstore : screen.store = r.screen.store)
    (hid : screen.vc.contentId = r.contentId) : r.become screen = { r with screen } := by
  have hresult (feed : RouteFeed) : result { r with screen } feed = r.result feed := by
    show feed.find screen.store screen.vc.contentId r.currentUser = _
    rw [hstore, hid, result]
  have hlisteners : (fun feed => (r.listeners feed).observe (r.result feed)
      (result { r with screen } feed)) = r.listeners := by
    funext feed
    rw [hresult feed, Listeners.observe, if_pos rfl]
  rw [become]
  simp only [hlisteners]

theorem call_checkLikeImage (documents : Documents) :
    r.call .checkLikeImage .checkLikeImage documents =
      { r with screen := r.screen.set (r.screen.vc.checkLikeImageDone documents) } := by
  have hhandler : Read.handler .checkLikeImage (some documents) none r.screen =
      some (r.screen.set (r.screen.vc.checkLikeImageDone documents)) :=
    Read.checkLikeImageHandler_some documents r.screen
  rw [call, hhandler]
  exact become_of_store rfl rfl

/-- All likes are counted, unless one has no e-mail. -/
theorem getLikeCountDone_mapM (vc : ContentRouteViewController) (documents : Documents) :
    vc.getLikeCountDone documents =
      (documents.mapM getLike).map fun like => { vc with like, likeCount := like.length } := by
  have hfold := TableView.foldlM_concat ContentRouteViewController.like
    (fun vc like => { vc with like }) (fun _ _ => rfl) (fun _ _ _ => rfl) (fun _ => rfl) getLike
    documents { vc with like := [] }
  rw [getLikeCountDone, hfold, Option.map_map]
  rfl

/-- The likes are counted. -/
theorem call_getLikeCount {like : List Favorite} (hlike : documents.mapM getLike = some like) :
    r.call .getLikeCount .getLikeCount documents =
      { r with screen :=
        (r.screen.set { r.screen.vc with like, likeCount := like.length }).reloadCollection } := by
  have hhandler : Read.handler .getLikeCount (some documents) none r.screen =
      (r.screen.vc.getLikeCountDone documents).map fun vc =>
        (r.screen.set vc).reloadCollection := rfl
  rw [call, hhandler, getLikeCountDone_mapM, hlike]
  exact become_of_store rfl rfl

/-- The reviews are listed. -/
theorem call_getReview {review : List Comment}
    (hreview : (documents.mapM fun d => ContentRouteViewController.getReview (now d.1) d) =
      some review) :
    r.call .getReview (.getReview sorter now) documents =
      { r with screen := (r.screen.set { r.screen.vc with
          review := sorter.sort newer review
          reviewCount :=
            "(" ++ toString (sorter.sort newer review).length ++ ")" }).reloadCollection } := by
  have hhandler : Read.handler (.getReview sorter now) (some documents) none r.screen =
      (r.screen.vc.getReviewDone sorter now documents).map fun vc =>
        (r.screen.set vc).reloadCollection := rfl
  rw [call, hhandler, getReviewDone_mapM, hreview]
  exact become_of_store rfl rfl

/-- The screen after a listener of `getExistLikeLocation` has written. -/
def liked (r : RouteFeeds) (currentUser : String) (id : DocId) (documents : Documents) :
    Displayed ContentRouteViewController :=
  ((r.screen.write (getExistLikeLocationDone r.contentId id currentUser documents)).set
    (r.screen.vc.existLikeLocationDone documents)).reloadCollection

theorem call_getExistLikeLocation (currentUser : String) (id : DocId) (documents : Documents) :
    r.call .getExistLikeLocation (.getExistLikeLocation currentUser id) documents =
      (r.become (r.liked currentUser id documents)).getLikeCount := by
  have hhandler : Read.handler (.getExistLikeLocation currentUser id) (some documents) none
      r.screen = some (r.liked currentUser id documents) :=
    Read.getExistLikeLocationHandler_some currentUser id documents r.screen
  rw [call, hhandler]
  rfl

/-- What a delivery does. -/
theorem step_delivered (h : r.step sorter (.delivered feed k id now) = some r') :
    ∃ documents listeners read, (r.listeners feed).deliver k = some (documents, listeners) ∧
      r.read sorter id now feed = some read ∧ r.favorites.get id = none ∧
      r' = call { r with listeners := Function.update r.listeners feed listeners } feed read
        documents := by
  obtain ⟨-, h⟩ := Option.ite_none_left_eq_some.mp h
  obtain ⟨⟨documents, listeners⟩, hdeliver, h⟩ := Option.bind_eq_some_iff.mp h
  obtain ⟨read, hread, h⟩ := Option.bind_eq_some_iff.mp h
  obtain ⟨hfresh, h⟩ := Option.ite_none_right_eq_some.mp h
  exact ⟨documents, listeners, read, hdeliver, hread, Option.isNone_iff_eq_none.mp hfresh,
    (Option.some.inj h).symm⟩

/-! ## Nothing traps -/

/-- The handler of a query can read the documents. -/
def Readable (documents : Documents) : RouteFeed → Prop
  | .getExistLikeLocation | .checkLikeImage => True
  | .getLikeCount => ∀ d ∈ documents, Sub.favorite.Fields d.2
  | .getReview => ∀ d ∈ documents, Sub.comment.Fields d.2

/-- Everything that waits can be read, and the collection view shows all properties as
they are, except perhaps the heart. -/
structure Sound (r : RouteFeeds) : Prop where
  running : r.trapped = false
  signedIn : r.listeners .getExistLikeLocation ≠ [] → r.currentUser ≠ none
  store : r.screen.store.WellFormed
  readable : ∀ feed, ∀ documents ∈ (r.listeners feed).pending, Readable documents feed
  displayed : r.screen.collectionView =
    { r.screen.vc with isExist := r.screen.collectionView.isExist }

/-- What a query finds can be read. -/
theorem readable_result (h : r.screen.store.WellFormed) (feed : RouteFeed) :
    Readable (r.result feed) feed := by
  cases feed with
  | getExistLikeLocation | checkLikeImage => trivial
  | getLikeCount | getReview => exact fun d hd => h.sub (Collection.mem_docs_iff.mp hd)

/-- The queues of one query change. -/
theorem Sound.update (h : r.Sound)
    (hsigned : feed = .getExistLikeLocation → listeners ≠ [] → r.currentUser ≠ none)
    (hreadable : ∀ documents ∈ listeners.pending, Readable documents feed) :
    Sound { r with listeners := Function.update r.listeners feed listeners } where
  running := h.running
  signedIn := by
    show Function.update r.listeners feed listeners .getExistLikeLocation ≠ [] → _
    by_cases hexist : .getExistLikeLocation = feed
    · subst hexist
      rw [Function.update_self]
      exact hsigned rfl
    · rw [Function.update_of_ne hexist]
      exact h.signedIn
  store := h.store
  readable feed' := by
    show ∀ documents ∈ (Function.update r.listeners feed listeners feed').pending, _
    by_cases hfeed : feed' = feed
    · subst hfeed
      rw [Function.update_self]
      exact hreadable
    · rw [Function.update_of_ne hfeed]
      exact h.readable feed'
  displayed := h.displayed

theorem Sound.register (h : r.Sound)
    (hfeed : feed = .getExistLikeLocation → r.currentUser ≠ none) : (r.register feed).Sound := by
  refine h.update (fun hexist _ => hfeed hexist) fun documents hdocuments => ?_
  rcases Listeners.mem_pending_register.mp hdocuments with hold | rfl
  · exact h.readable feed documents hold
  · exact readable_result h.store feed

/-- A snapshot leaves its queue. -/
theorem Sound.deliver (h : r.Sound)
    (hdeliver : (r.listeners feed).deliver k = some (documents, listeners)) :
    Sound { r with listeners := Function.update r.listeners feed listeners } := by
  refine h.update ?_ fun documents' hdocuments => ?_
  · rintro rfl -
    exact h.signedIn (Listeners.deliver_ne_nil hdeliver).1
  · exact h.readable feed documents'
      ((Listeners.mem_pending_deliver hdeliver).mpr (.inr hdocuments))

/-- A listener is lost. -/
theorem Sound.failed (h : r.Sound) (hk : k < (r.listeners feed).length) :
    Sound { r with
      listeners := Function.update r.listeners feed ((r.listeners feed).eraseIdx k) } := by
  refine h.update ?_ fun documents hdocuments => ?_
  · rintro rfl -
    exact h.signedIn (List.length_pos_iff.mp (Nat.zero_lt_of_lt hk))
  · obtain ⟨queue, hqueue, hmem⟩ := List.mem_flatten.mp hdocuments
    exact h.readable feed documents
      (List.mem_flatten.mpr ⟨queue, List.eraseIdx_subset hqueue, hmem⟩)

theorem Sound.checkLikeImage (h : r.Sound) : r.checkLikeImage.Sound := by
  rw [RouteFeeds.checkLikeImage]
  split
  · exact h.register (by rintro ⟨⟩)
  · exact h

theorem Sound.getExistLikeLocation (h : r.Sound) : r.getExistLikeLocation.Sound := by
  rw [RouteFeeds.getExistLikeLocation]
  split
  · next hcurrent => exact h.register fun _ => Option.isSome_iff_ne_none.mp hcurrent
  · exact h

theorem Sound.getLikeCount (h : r.Sound) : r.getLikeCount.Sound :=
  h.checkLikeImage.register (by rintro ⟨⟩)

/-- A change adds no listeners and removes none. -/
theorem listeners_become_eq_nil :
    (r.become screen).listeners feed = [] ↔ r.listeners feed = [] := by
  rw [RouteFeeds.become]
  dsimp only [Listeners.observe]
  split
  · exact Iff.rfl
  · exact List.map_eq_nil_iff

/-- The listeners are notified of what can be read. -/
theorem Sound.become (h : r.Sound) (hstore : screen.store.WellFormed)
    (hdisplayed : screen.collectionView =
      { screen.vc with isExist := screen.collectionView.isExist }) : (r.become screen).Sound where
  running := h.running
  signedIn hne := h.signedIn (mt listeners_become_eq_nil.mpr hne)
  store := hstore
  readable feed documents hdocuments := by
    rw [RouteFeeds.become] at hdocuments
    dsimp only [Listeners.observe] at hdocuments
    split at hdocuments
    · exact h.readable feed documents hdocuments
    · rcases Listeners.mem_pending_notify.mp hdocuments with hold | ⟨-, rfl⟩
      · exact h.readable feed documents hold
      · exact readable_result (r := { r with screen }) hstore feed
  displayed := hdisplayed

/-- The writes of the screen are well formed. -/
theorem wellFormed_getExistLikeLocationDone (contentId id : DocId) (currentUser : String)
    (documents : Documents) :
    (getExistLikeLocationDone contentId id currentUser documents).WellFormed := by
  rw [getExistLikeLocationDone]
  split
  · exact rfl
  · trivial

/-- Likes that can be read are. -/
theorem exists_like (h : Readable documents .getLikeCount) :
    ∃ like, documents.mapM getLike = some like := by
  refine ⟨_, TableView.mapM_of_isSome fun d hd => ?_⟩
  have hemail : (d.2.string "email").isSome := h d hd
  simpa [getLike] using hemail

/-- So are reviews. -/
theorem exists_review (h : Readable documents .getReview) (now : DocId → Date) :
    ∃ review, (documents.mapM fun d =>
      ContentRouteViewController.getReview (now d.1) d) = some review := by
  refine ⟨_, TableView.mapM_of_isSome fun d hd => ?_⟩
  obtain ⟨-, -, htimestamp⟩ := h d hd
  simpa [ContentRouteViewController.getReview] using htimestamp

/-- A handler that is called with what it can read. -/
theorem Sound.call (h : r.Sound) (hread : r.read sorter id now feed = some read)
    (hreadable : Readable documents feed) : (r.call feed read documents).Sound := by
  cases feed with
  | getExistLikeLocation =>
      obtain ⟨currentUser, -, rfl⟩ := Option.map_eq_some_iff.mp hread
      rw [call_getExistLikeLocation]
      exact (h.become (h.store.apply (wellFormed_getExistLikeLocationDone ..)) rfl).getLikeCount
  | checkLikeImage =>
      obtain rfl := Option.some.inj hread
      rw [call_checkLikeImage]
      exact { h with displayed := h.displayed }
  | getLikeCount =>
      obtain rfl := Option.some.inj hread
      obtain ⟨like, hlike⟩ := exists_like hreadable
      rw [call_getLikeCount hlike]
      exact { h with displayed := rfl }
  | getReview =>
      obtain rfl := Option.some.inj hread
      obtain ⟨review, hreview⟩ := exists_review hreadable now
      rw [call_getReview hreview]
      exact { h with displayed := rfl }

/-- One step keeps everything readable. -/
theorem Sound.step (h : r.Sound) (hc : r.WritesWell e) (hr : r.step sorter e = some r') :
    r'.Sound := by
  cases e with
  | likeButtonClicked =>
      obtain ⟨-, ⟨⟩⟩ := Option.ite_none_left_eq_some.mp hr
      have hsound := h.getExistLikeLocation
      exact ⟨hsound.running, hsound.signedIn, h.store, hsound.readable, rfl⟩
  | delivered feed k id now =>
      obtain ⟨documents, listeners, read, hdeliver, hread, -, rfl⟩ := step_delivered hr
      refine (h.deliver hdeliver).call hread (h.readable feed documents ?_)
      exact (Listeners.mem_pending_deliver hdeliver).mpr (.inl rfl)
  | failed feed k =>
      obtain ⟨-, hr⟩ := Option.ite_none_left_eq_some.mp hr
      obtain ⟨hk, ⟨⟩⟩ := Option.ite_none_right_eq_some.mp hr
      exact h.failed hk
  | elsewhere w =>
      obtain ⟨-, hr⟩ := Option.ite_none_left_eq_some.mp hr
      obtain ⟨-, ⟨⟩⟩ := Option.ite_none_right_eq_some.mp hr
      exact h.become (h.store.apply hc) h.displayed

/-! ## What is shown -/

/-- The properties show the result of a query. -/
def Shows (sorter : Sorter Comment) (vc : ContentRouteViewController) :
    RouteFeed → Documents → Prop
  | .getExistLikeLocation, _ => True
  | .checkLikeImage, documents => vc.isExist = !documents.isEmpty
  | .getLikeCount, documents =>
      documents.mapM getLike = some vc.like ∧ vc.likeCount = vc.like.length
  | .getReview, documents => ∃ (now : DocId → Date) (review : List Comment),
      (documents.mapM fun d => ContentRouteViewController.getReview (now d.1) d) = some review ∧
        vc.review = sorter.sort newer review ∧
        vc.reviewCount = "(" ++ toString vc.review.length ++ ")"

/-- Once nothing waits, something holds of the result of each query. -/
def Feeds (shows : RouteFeed → Documents → Prop) (r : RouteFeeds) : Prop :=
  ∀ feed, Listeners.Feeds (· = r.result feed) (shows feed (r.result feed)) (r.listeners feed)

/-- The screen shows what the database holds, once nothing waits, and somebody listens to
every query that it shows. -/
structure Fed (sorter : Sorter Comment) (r : RouteFeeds) : Prop where
  feeds : r.Feeds (Shows sorter r.screen.vc)
  heard : ∀ feed, r.listeners feed = [] →
    feed = .getExistLikeLocation ∨ feed = .checkLikeImage ∧ r.currentUser = none

variable {shows shows' : RouteFeed → Documents → Prop}

/-- The queues of one query change, and with them the value that they fill. -/
theorem Feeds.update (h : r.Feeds shows)
    (hother : ∀ feed', feed' ≠ feed → ∀ documents, shows feed' documents → shows' feed' documents)
    (hfeed : Listeners.Feeds (· = r.result feed) (shows' feed (r.result feed)) listeners) :
    Feeds shows' { r with listeners := Function.update r.listeners feed listeners } := by
  intro feed'
  show Listeners.Feeds _ (shows' feed' (r.result feed')) (Function.update r.listeners feed _ feed')
  by_cases heq : feed' = feed
  · subst heq
    rw [Function.update_self]
    exact hfeed
  · rw [Function.update_of_ne heq]
    exact (h feed').mono (fun _ ha => ha) (hother feed' heq _)

/-- A new listener makes up for whatever happens to the value that it fills. -/
theorem Feeds.register (h : r.Feeds shows) (feed : RouteFeed)
    (hother : ∀ feed', feed' ≠ feed → ∀ documents, shows feed' documents → shows' feed' documents) :
    (r.register feed).Feeds shows' :=
  h.update hother ((h feed).upToDate.feeds_register rfl)

/-- A snapshot leaves its queue and fills the value. -/
theorem Feeds.deliver (h : r.Feeds shows)
    (hdeliver : (r.listeners feed).deliver k = some (documents, listeners))
    (hother : ∀ feed', feed' ≠ feed → ∀ documents, shows feed' documents → shows' feed' documents)
    (hshows : shows' feed documents) :
    Feeds shows' { r with listeners := Function.update r.listeners feed listeners } :=
  h.update hother ((h feed).deliver hdeliver fun hright => hright ▸ hshows)

/-- The listeners are notified of a write of new documents. -/
theorem Fed.become (h : r.Fed sorter) (hnew : w.New r.screen.store)
    (hstore : screen.store = r.screen.store.apply w) (hid : screen.vc.contentId = r.contentId) :
    (r.become screen).Feeds (Shows sorter r.screen.vc) := by
  have hresult (feed : RouteFeed) : (r.become screen).result feed =
      feed.find (r.screen.store.apply w) r.contentId r.currentUser := by
    show feed.find screen.store screen.vc.contentId r.currentUser = _
    rw [hstore, hid]
  intro feed
  refine (h.feeds feed).observe ?_ ?_
  · rw [hresult feed]
    exact RouteFeed.find_apply_of_keys hnew
  · intro hnil hshows
    rcases h.heard feed hnil with rfl | ⟨rfl, hcurrent⟩
    · trivial
    · rw [result, hcurrent] at hshows
      rw [hresult, hcurrent]
      exact hshows

/-- Listeners are not forgotten. -/
theorem listeners_register_ne_nil (h : (r.register feed).listeners feed' = []) :
    feed' ≠ feed ∧ r.listeners feed' = [] := by
  change Function.update r.listeners feed _ feed' = [] at h
  by_cases hfeed : feed' = feed
  · subst hfeed
    simp [Listeners.register] at h
  · rw [Function.update_of_ne hfeed] at h
    exact ⟨hfeed, h⟩

theorem Fed.register (h : r.Fed sorter) (feed : RouteFeed) : (r.register feed).Fed sorter where
  feeds := h.feeds.register feed fun _ _ _ hshows => hshows
  heard feed' hnil := h.heard feed' (listeners_register_ne_nil hnil).2

/-- Nor are those that a snapshot is taken from. -/
theorem Fed.heard_deliver (h : r.Fed sorter)
    (hdeliver : (r.listeners feed).deliver k = some (documents, listeners))
    (hnil : Function.update r.listeners feed listeners feed' = []) :
    feed' = .getExistLikeLocation ∨ feed' = .checkLikeImage ∧ r.currentUser = none := by
  by_cases hfeed : feed' = feed
  · subst hfeed
    rw [Function.update_self] at hnil
    exact absurd hnil (Listeners.deliver_ne_nil hdeliver).2
  · rw [Function.update_of_ne hfeed] at hnil
    exact h.heard feed' hnil

/-- The identifier of a new like is not in use. -/
theorem new_getExistLikeLocationDone (hfresh : r.favorites.get id = none) (currentUser : String)
    (documents : Documents) :
    (getExistLikeLocationDone r.contentId id currentUser documents).New r.screen.store := by
  rw [getExistLikeLocationDone]
  split
  · exact Option.isNone_iff_eq_none.mpr hfresh
  · trivial

/-- A press that is answered puts `isExist` wrong, and the listener that it adds puts it
right. -/
theorem Fed.call_getExistLikeLocation {currentUser : String} (h : r.Fed sorter)
    (hcurrent : r.currentUser = some currentUser) (hfresh : r.favorites.get id = none) :
    (r.call .getExistLikeLocation (.getExistLikeLocation currentUser id) documents).Fed sorter := by
  have hbecome : (r.become (r.liked currentUser id documents)).Feeds
      (Shows sorter r.screen.vc) :=
    h.become (new_getExistLikeLocationDone hfresh currentUser documents) rfl rfl
  have hcheck : (r.become (r.liked currentUser id documents)).checkLikeImage =
      (r.become (r.liked currentUser id documents)).register .checkLikeImage := by
    rw [RouteFeeds.checkLikeImage, if_pos]
    show r.currentUser.isSome
    rw [hcurrent]
    rfl
  rw [RouteFeeds.call_getExistLikeLocation, getLikeCount, hcheck]
  refine Fed.register ⟨hbecome.register .checkLikeImage ?_, ?_⟩ .getLikeCount
  · intro feed' hne documents' hshows
    cases feed' with
    | checkLikeImage => exact absurd rfl hne
    | getExistLikeLocation | getLikeCount | getReview => exact hshows
  · intro feed' hnil
    exact h.heard feed' (listeners_become_eq_nil.mp (listeners_register_ne_nil hnil).2)

/-- A delivery keeps the screen fed. -/
theorem Fed.delivered (h : r.Fed sorter) (hsound : r.Sound)
    (hr : r.step sorter (.delivered feed k id now) = some r') : r'.Fed sorter := by
  obtain ⟨documents, listeners, read, hdeliver, hread, hfresh, rfl⟩ := step_delivered hr
  have hreadable := hsound.readable feed documents
    ((Listeners.mem_pending_deliver hdeliver).mpr (.inl rfl))
  have hheard : ∀ feed', Function.update r.listeners feed listeners feed' = [] → _ :=
    fun _ hnil => h.heard_deliver hdeliver hnil
  cases feed with
  | getExistLikeLocation =>
      obtain ⟨currentUser, hcurrent, rfl⟩ := Option.map_eq_some_iff.mp hread
      have hfeeds := h.feeds.deliver hdeliver (fun _ _ _ hshows => hshows) trivial
      exact Fed.call_getExistLikeLocation ⟨hfeeds, hheard⟩ hcurrent hfresh
  | checkLikeImage =>
      obtain rfl := Option.some.inj hread
      rw [call_checkLikeImage]
      refine ⟨h.feeds.deliver hdeliver ?_ rfl, hheard⟩
      intro feed' hne documents' hshows
      cases feed' with
      | checkLikeImage => exact absurd rfl hne
      | getExistLikeLocation | getLikeCount | getReview => exact hshows
  | getLikeCount =>
      obtain rfl := Option.some.inj hread
      obtain ⟨like, hlike⟩ := exists_like hreadable
      rw [call_getLikeCount hlike]
      refine ⟨h.feeds.deliver hdeliver ?_ ⟨hlike, rfl⟩, hheard⟩
      intro feed' hne documents' hshows
      cases feed' with
      | getLikeCount => exact absurd rfl hne
      | getExistLikeLocation | checkLikeImage | getReview => exact hshows
  | getReview =>
      obtain rfl := Option.some.inj hread
      obtain ⟨review, hreview⟩ := exists_review hreadable now
      rw [call_getReview hreview]
      refine ⟨h.feeds.deliver hdeliver ?_ ⟨now, review, hreview, rfl, rfl⟩, hheard⟩
      intro feed' hne documents' hshows
      cases feed' with
      | getReview => exact absurd rfl hne
      | getExistLikeLocation | checkLikeImage | getLikeCount => exact hshows

/-- One step keeps the screen fed, if no listener is lost. -/
theorem Fed.step (h : r.Fed sorter) (hsound : r.Sound) (hc : r.Connected e)
    (hr : r.step sorter e = some r') : r'.Fed sorter := by
  cases e with
  | likeButtonClicked =>
      obtain ⟨-, ⟨⟩⟩ := Option.ite_none_left_eq_some.mp hr
      rw [likeButtonClicked, getExistLikeLocation]
      split
      · exact { h.register .getExistLikeLocation with }
      · exact { h with }
  | delivered feed k id now => exact h.delivered hsound hr
  | failed feed k => exact hc.elim
  | elsewhere w =>
      obtain ⟨-, hr⟩ := Option.ite_none_left_eq_some.mp hr
      obtain ⟨hnew, ⟨⟩⟩ := Option.ite_none_right_eq_some.mp hr
      exact ⟨h.become hnew rfl rfl, fun feed hnil => h.heard feed (listeners_become_eq_nil.mp hnil)⟩

/-! ## Coming to rest -/

variable {store : Store} {contentId : DocId} {currentUser : Option String}

/-- The screen is opened. -/
theorem sound_viewDidLoad (h : store.WellFormed) :
    (viewDidLoad store contentId currentUser).Sound := by
  refine Sound.getLikeCount (Sound.register ?_ (by rintro ⟨⟩))
  exact ⟨rfl, fun hne => absurd rfl hne, h,
    fun _ _ hdocuments => absurd hdocuments List.not_mem_nil, rfl⟩

theorem fed_viewDidLoad : (viewDidLoad store contentId currentUser).Fed sorter := by
  constructor
  · intro feed
    cases feed with
    | getExistLikeLocation =>
        cases currentUser <;> exact ⟨Listeners.upToDate_nil, fun _ => trivial⟩
    | checkLikeImage =>
        cases currentUser with
        | none => exact ⟨Listeners.upToDate_nil, fun _ => rfl⟩
        | some currentUser => exact Listeners.upToDate_nil.feeds_register rfl
    | getLikeCount | getReview =>
        cases currentUser <;> exact Listeners.upToDate_nil.feeds_register rfl
  · intro feed hnil
    cases feed with
    | getExistLikeLocation => exact .inl rfl
    | checkLikeImage =>
        cases currentUser with
        | none => exact .inr ⟨rfl, rfl⟩
        | some currentUser => cases hnil
    | getLikeCount | getReview => cases currentUser <;> cases hnil

/-- What the invariants say when everything has been received. -/
theorem Fed.current (h : r.Fed sorter) (hsound : r.Sound) (hquiet : r.Quiet) :
    r.Current sorter := by
  have hshown (feed : RouteFeed) := (h.feeds feed).shown (hquiet feed)
  have hdisplayed := hsound.displayed
  obtain ⟨hlike, hlikeCount⟩ := hshown .getLikeCount
  obtain ⟨now, review, hreview, hsorted, hreviewCount⟩ := hshown .getReview
  have hcheck : r.screen.vc.isExist = !(r.result .checkLikeImage).isEmpty :=
    hshown .checkLikeImage
  constructor
  · rw [hcheck, Bool.not_eq_true', ← Bool.not_eq_true, List.isEmpty_iff]
  · rw [hdisplayed, hlikeCount]
    exact TableView.length_mapM hlike
  · rw [hdisplayed]
    exact hlike
  · rw [hdisplayed]
    exact ⟨now, review, hreview, hsorted⟩
  · rw [hdisplayed, hreviewCount, hsorted, (sorter.perm_sort newer review).length_eq,
      TableView.length_mapM hreview]
    rfl

/-- One if there is a like under the identifier of the trip. -/
def ownLike (st : Store) (contentId : DocId) : Nat :=
  ((st.sub .favorite contentId).get contentId).isSome.toNat

/-- The snapshots that wait for listeners that only read. -/
def waiting (r : RouteFeeds) : Nat :=
  (r.listeners .checkLikeImage).pending.length + (r.listeners .getLikeCount).pending.length +
    (r.listeners .getReview).pending.length

/-- What a delivery makes smaller.  A like under the identifier of the trip is deleted once
at most.  A snapshot without likes leads to others that have some, and these lead only to
snapshots for listeners that read. -/
def rank (r : RouteFeeds) : Nat × Nat × Nat × Nat :=
  (ownLike r.screen.store r.contentId,
    (r.listeners .getExistLikeLocation).pending.countP List.isEmpty,
    (r.listeners .getExistLikeLocation).pending.length, r.waiting)

/-- The order of the ranks. -/
def Below : Nat × Nat × Nat × Nat → Nat × Nat × Nat × Nat → Prop :=
  Prod.Lex (· < ·) (Prod.Lex (· < ·) (Prod.Lex (· < ·) (· < ·)))

theorem wellFounded_below : WellFounded Below :=
  WellFounded.prod_lex wellFounded_lt
    (WellFounded.prod_lex wellFounded_lt (WellFounded.prod_lex wellFounded_lt wellFounded_lt))

/-- A listener that reads changes neither the database nor what waits. -/
theorem exists_call_of_ne (hread : r.read sorter id now feed = some read)
    (hfeed : feed ≠ .getExistLikeLocation) (documents : Documents) :
    ∃ screen trapped, r.call feed read documents = { r with screen, trapped } ∧
      screen.store = r.screen.store ∧ screen.vc.contentId = r.contentId := by
  cases feed with
  | getExistLikeLocation => exact absurd rfl hfeed
  | checkLikeImage =>
      obtain rfl := Option.some.inj hread
      exact ⟨_, _, call_checkLikeImage documents, rfl, rfl⟩
  | getLikeCount =>
      obtain rfl := Option.some.inj hread
      cases hlike : documents.mapM getLike with
      | none =>
          refine ⟨r.screen, true, ?_, rfl, rfl⟩
          have hhandler : Read.handler .getLikeCount (some documents) none r.screen =
              (r.screen.vc.getLikeCountDone documents).map fun vc =>
                (r.screen.set vc).reloadCollection := rfl
          rw [call, hhandler, getLikeCountDone_mapM, hlike]
          rfl
      | some like => exact ⟨_, _, call_getLikeCount hlike, rfl, rfl⟩
  | getReview =>
      obtain rfl := Option.some.inj hread
      cases hreview : documents.mapM fun d =>
          ContentRouteViewController.getReview (now d.1) d with
      | none =>
          refine ⟨r.screen, true, ?_, rfl, rfl⟩
          have hhandler : Read.handler (.getReview sorter now) (some documents) none r.screen =
              (r.screen.vc.getReviewDone sorter now documents).map fun vc =>
                (r.screen.set vc).reloadCollection := rfl
          rw [call, hhandler, getReviewDone_mapM, hreview]
          rfl
      | some review => exact ⟨_, _, call_getReview hreview, rfl, rfl⟩

/-- A listener that reads has one snapshot less. -/
theorem below_of_ne (hdeliver : (r.listeners feed).deliver k = some (documents, listeners))
    (hread : r.read sorter id now feed = some read) (hfeed : feed ≠ .getExistLikeLocation) :
    Below (call { r with listeners := Function.update r.listeners feed listeners } feed read
      documents).rank r.rank := by
  obtain ⟨screen, trapped, hcall, hstore, hid⟩ := exists_call_of_ne
    (r := { r with listeners := Function.update r.listeners feed listeners }) hread hfeed documents
  have hlength : (r.listeners feed).pending.length = listeners.pending.length + 1 :=
    (Listeners.pending_deliver hdeliver).length_eq
  have hexist : Function.update r.listeners feed listeners .getExistLikeLocation =
      r.listeners .getExistLikeLocation := Function.update_of_ne (Ne.symm hfeed) _ _
  have hwaiting : waiting { r with
      listeners := Function.update r.listeners feed listeners } < r.waiting := by
    cases feed with
    | getExistLikeLocation => exact absurd rfl hfeed
    | checkLikeImage | getLikeCount | getReview =>
        rw [waiting, waiting, hlength]
        simp only [Function.update_self, ne_eq, reduceCtorEq, not_false_eq_true,
          Function.update_of_ne]
        omega
  rw [hcall, rank, rank]
  dsimp only [contentId]
  rw [hstore, hid, hexist]
  exact .right _ (.right _ (.right _ hwaiting))

/-- `getLikeCount` registers listeners that read. -/
theorem getLikeCount_frame (r : RouteFeeds) : r.getLikeCount.screen = r.screen ∧
    r.getLikeCount.listeners .getExistLikeLocation = r.listeners .getExistLikeLocation := by
  rw [getLikeCount, checkLikeImage]
  split <;> exact ⟨rfl, rfl⟩

theorem currentUser_getLikeCount (r : RouteFeeds) :
    r.getLikeCount.currentUser = r.currentUser := by
  rw [getLikeCount, checkLikeImage]
  split <;> rfl

/-- A press registers a listener. -/
theorem listeners_likeButtonClicked (hr : r.step sorter .likeButtonClicked = some r') :
    r.currentUser = none ∧ r'.listeners = r.listeners ∨
      r'.listeners .getExistLikeLocation =
        (r.listeners .getExistLikeLocation).register (r.result .getExistLikeLocation) := by
  obtain ⟨-, ⟨⟩⟩ := Option.ite_none_left_eq_some.mp hr
  rw [likeButtonClicked, getExistLikeLocation]
  split
  · right
    show Function.update r.listeners .getExistLikeLocation _ .getExistLikeLocation = _
    exact Function.update_self ..
  · next hcurrent => exact .inl ⟨Option.not_isSome_iff_eq_none.mp hcurrent, rfl⟩

theorem currentUser_likeButtonClicked (r : RouteFeeds) :
    r.likeButtonClicked.currentUser = r.currentUser := by
  rw [likeButtonClicked, getExistLikeLocation]
  split <;> rfl

/-- The trip and the user of a screen stay the same. -/
theorem step_frame (hr : r.step sorter e = some r') :
    r'.contentId = r.contentId ∧ r'.currentUser = r.currentUser := by
  cases e with
  | likeButtonClicked =>
      obtain ⟨-, ⟨⟩⟩ := Option.ite_none_left_eq_some.mp hr
      exact ⟨rfl, currentUser_likeButtonClicked r⟩
  | delivered feed k id now =>
      obtain ⟨documents, listeners, read, -, hread, -, rfl⟩ := step_delivered hr
      by_cases hfeed : feed = .getExistLikeLocation
      · subst hfeed
        obtain ⟨currentUser, -, rfl⟩ := Option.map_eq_some_iff.mp hread
        rw [call_getExistLikeLocation]
        exact ⟨congrArg (·.vc.contentId) (getLikeCount_frame _).1, currentUser_getLikeCount _⟩
      · obtain ⟨screen, trapped, hcall, -, hid⟩ := exists_call_of_ne
          (r := { r with listeners := Function.update r.listeners feed listeners }) hread hfeed
          documents
        rw [hcall]
        exact ⟨hid, rfl⟩
  | failed feed k =>
      obtain ⟨-, hr⟩ := Option.ite_none_left_eq_some.mp hr
      obtain ⟨-, ⟨⟩⟩ := Option.ite_none_right_eq_some.mp hr
      exact ⟨rfl, rfl⟩
  | elsewhere w =>
      obtain ⟨-, hr⟩ := Option.ite_none_left_eq_some.mp hr
      obtain ⟨-, ⟨⟩⟩ := Option.ite_none_right_eq_some.mp hr
      exact ⟨rfl, rfl⟩

/-- The rank after a listener of `getExistLikeLocation` has written. -/
theorem rank_call_getExistLikeLocation (currentUser : String) (id : DocId)
    (documents : Documents) :
    ∃ n, (r.call .getExistLikeLocation (.getExistLikeLocation currentUser id) documents).rank =
      let st := r.screen.store.apply
        (getExistLikeLocationDone r.contentId id currentUser documents)
      let listeners := (r.listeners .getExistLikeLocation).observe
        (r.result .getExistLikeLocation)
        (RouteFeed.find st r.contentId r.currentUser .getExistLikeLocation)
      (ownLike st r.contentId, listeners.pending.countP List.isEmpty, listeners.pending.length,
        n) := by
  obtain ⟨hscreen, hlisteners⟩ := getLikeCount_frame (r.become (r.liked currentUser id documents))
  rw [call_getExistLikeLocation, rank, contentId, hscreen, hlisteners]
  exact ⟨_, rfl⟩

/-- The database after that. -/
theorem store_call_getExistLikeLocation (currentUser : String) (id : DocId)
    (documents : Documents) :
    (r.call .getExistLikeLocation (.getExistLikeLocation currentUser id)
      documents).screen.store =
        r.screen.store.apply (getExistLikeLocationDone r.contentId id currentUser documents) := by
  obtain ⟨hscreen, -⟩ := getLikeCount_frame (r.become (r.liked currentUser id documents))
  rw [call_getExistLikeLocation, hscreen]
  rfl

/-- A new like of the user is listed. -/
theorem find_addSub (hfresh : (store.sub .favorite contentId).get id = none)
    (currentUser : String) :
    RouteFeed.find (store.apply (.addSub .favorite contentId id (favorite currentUser))) contentId
        (some currentUser) .getExistLikeLocation =
      (id, favorite currentUser) ::
        RouteFeed.find store contentId (some currentUser) .getExistLikeLocation := by
  simp only [RouteFeed.find, Option.elim_some]
  rw [Store.sub_addSub, Collection.query_set hfresh, if_pos]
  exact decide_eq_true rfl

/-- A listener that writes adds a like if it has received that there is none; otherwise it
deletes a like or does nothing. -/
theorem write_cases (hfresh : (store.sub .favorite contentId).get id = none)
    (hid : id ≠ contentId) (currentUser : String) (documents : Documents)
    (listeners : Listeners Documents) :
    let st := store.apply (getExistLikeLocationDone contentId id currentUser documents)
    let listeners' := listeners.observe
      (RouteFeed.find store contentId (some currentUser) .getExistLikeLocation)
      (RouteFeed.find st contentId (some currentUser) .getExistLikeLocation)
    (documents = [] ∧
      st = store.apply (.addSub .favorite contentId id (favorite currentUser)) ∧
      ownLike st contentId = ownLike store contentId ∧
      listeners'.pending.countP List.isEmpty = listeners.pending.countP List.isEmpty) ∨
    (documents ≠ [] ∧ st = store ∧ listeners' = listeners) ∨
    (st = store.apply (.deleteSub .favorite contentId contentId) ∧
      ownLike st contentId < ownLike store contentId) := by
  intro st listeners'
  cases documents with
  | nil =>
      -- all listeners receive the like that is added, and it is not that of the trip
      have hst : st = store.apply (.addSub .favorite contentId id (favorite currentUser)) := rfl
      have hown : ownLike st contentId = ownLike store contentId := by
        rw [hst, ownLike, Store.sub_addSub, Collection.get_set_of_ne _ _ hid.symm, ownLike]
      have hlisteners : listeners' = listeners.notify ((id, favorite currentUser) ::
          RouteFeed.find store contentId (some currentUser) .getExistLikeLocation) := by
        show Listeners.observe _ _ (RouteFeed.find st _ _ _) = _
        rw [hst, find_addSub hfresh, Listeners.observe, if_neg]
        intro hsame
        have hlength := congrArg List.length hsame
        simp at hlength
      refine .inl ⟨rfl, hst, hown, ?_⟩
      rw [hlisteners, Listeners.countP_pending_notify (by rfl)]
  | cons d documents =>
      have hst : st = store.apply (.deleteSub .favorite contentId contentId) := rfl
      cases hget : (store.sub .favorite contentId).get contentId with
      | none =>
          -- there is nothing to delete
          have hsame : st = store := hst.trans (Store.apply_deleteSub_of_get_eq_none hget)
          refine .inr (.inl ⟨List.cons_ne_nil _ _, hsame, ?_⟩)
          show Listeners.observe _ _ (RouteFeed.find st _ _ _) = _
          rw [hsame, Listeners.observe, if_pos rfl]
      | some like =>
          refine .inr (.inr ⟨hst, ?_⟩)
          have hown : ownLike st contentId = 0 := by
            rw [hst, ownLike, Store.sub_deleteSub, Collection.get_erase_self]
            rfl
          rw [hown, ownLike, hget]
          exact Nat.zero_lt_one

/-- What a delivery does to the database and to the rank. -/
theorem delivery_cases (hc : r.Delivery e) (hr : r.step sorter e = some r') :
    (r'.screen.store = r.screen.store ∧ Below r'.rank r.rank) ∨
    (∃ id currentUser, r.favorites.get id = none ∧ id ≠ r.contentId ∧
      r'.screen.store =
        r.screen.store.apply (.addSub .favorite r.contentId id (favorite currentUser)) ∧
      r'.rank.1 = r.rank.1 ∧ r'.rank.2.1 < r.rank.2.1) ∨
    (r'.screen.store = r.screen.store.apply (.deleteSub .favorite r.contentId r.contentId) ∧
      r'.rank.1 < r.rank.1) := by
  cases e with
  | likeButtonClicked | failed | elsewhere => exact hc.elim
  | delivered feed k id now =>
      obtain ⟨documents, listeners, read, hdeliver, hread, hfresh, rfl⟩ := step_delivered hr
      by_cases hfeed : feed = .getExistLikeLocation
      · subst hfeed
        obtain ⟨currentUser, hcurrent, rfl⟩ := Option.map_eq_some_iff.mp hread
        have hperm := Listeners.pending_deliver hdeliver
        have hstore := store_call_getExistLikeLocation (r := { r with
          listeners := Function.update r.listeners .getExistLikeLocation listeners }) currentUser id
            documents
        obtain ⟨n, hrank⟩ := rank_call_getExistLikeLocation
          (r := { r with listeners := Function.update r.listeners .getExistLikeLocation listeners })
          currentUser id documents
        rw [hstore, hrank, rank]
        dsimp only [contentId, result]
        rw [Function.update_self, hperm.countP_eq, hperm.length_eq, hcurrent]
        have hwrite := write_cases hfresh hc currentUser documents listeners
        dsimp only [contentId] at hwrite
        obtain ⟨rfl, hst, hown, hempty⟩ | ⟨hne, hst, hsame⟩ | ⟨hst, hown⟩ := hwrite
        · refine .inr (.inl ⟨id, currentUser, hfresh, hc, hst, hown, ?_⟩)
          rw [hempty, List.countP_cons_of_pos (by rfl)]
          exact Nat.lt_succ_self _
        · refine .inl ⟨hst, ?_⟩
          rw [hst] at hsame ⊢
          rw [hsame, List.countP_cons_of_neg (by simpa using hne)]
          exact .right _ (.right _ (.left _ _ (Nat.lt_succ_self _)))
        · exact .inr (.inr ⟨hst, hown⟩)
      · obtain ⟨screen, trapped, hcall, hstore, -⟩ := exists_call_of_ne
          (r := { r with listeners := Function.update r.listeners feed listeners }) hread hfeed
          documents
        refine .inl ⟨?_, below_of_ne hdeliver hread hfeed⟩
        rw [hcall]
        exact hstore

/-- A delivery makes the rank smaller. -/
theorem below_of_delivery (hc : r.Delivery e) (hr : r.step sorter e = some r') :
    Below r'.rank r.rank := by
  obtain ⟨-, hbelow⟩ | ⟨-, -, -, -, -, hfirst, hsecond⟩ | ⟨-, hfirst⟩ := delivery_cases hc hr
  · exact hbelow
  · exact Prod.lex_def.mpr (.inr ⟨hfirst, .left _ _ hsecond⟩)
  · exact .left _ _ hfirst

/-- As long as something waits, something can be delivered. -/
theorem exists_delivery (h : r.Sound) (sorter : Sorter Comment) (hquiet : ¬r.Quiet) :
    ∃ r', (system sorter).Leads Delivery r' r := by
  obtain ⟨feed, hpending⟩ := not_forall.mp hquiet
  obtain ⟨k, documents, listeners, hdeliver⟩ := Listeners.exists_deliver hpending
  obtain ⟨id, hid⟩ := Infinite.exists_notMem_finset
    (insert r.contentId (r.favorites.docs.map Prod.fst).toFinset)
  rw [Finset.mem_insert, not_or, List.mem_toFinset] at hid
  have hfresh : r.favorites.get id = none :=
    Collection.get_eq_none_iff.mpr fun d hd => hid.2 (List.mem_map_of_mem hd)
  obtain ⟨read, hread⟩ : ∃ read, r.read sorter id (fun _ => 0) feed = some read := by
    cases feed with
    | getExistLikeLocation =>
        obtain ⟨currentUser, hcurrent⟩ := Option.ne_none_iff_exists'.mp
          (h.signedIn (Listeners.deliver_ne_nil hdeliver).1)
        exact ⟨_, Option.map_eq_some_iff.mpr ⟨currentUser, hcurrent, rfl⟩⟩
    | checkLikeImage | getLikeCount | getReview => exact ⟨_, rfl⟩
  refine ⟨call { r with listeners := Function.update r.listeners feed listeners } feed read
    documents, .delivered feed k id fun _ => 0, hid.1, ?_⟩
  show step sorter r (.delivered feed k id fun _ => 0) = _
  rw [step, if_neg (by simp [h.running])]
  simp only [hdeliver, hread, hfresh, Option.bind_some, Option.isNone_none, if_true]

/-- A delivery is not the loss of a listener. -/
theorem Delivery.connected (h : r.Delivery e) : r.Connected e := by
  cases e with
  | delivered => trivial
  | likeButtonClicked | failed | elsewhere => exact h.elim

theorem Connected.writesWell (h : r.Connected e) : r.WritesWell e := by
  cases e with
  | elsewhere => exact h
  | likeButtonClicked | delivered | failed => trivial

/-- The two invariants along a run. -/
theorem steps_fed (h₀ : store.WellFormed)
    (h : (system sorter).Steps Connected (viewDidLoad store contentId currentUser) es r) :
    r.Sound ∧ r.Fed sorter := by
  refine h.invariant (I := fun r => r.Sound ∧ r.Fed sorter) ?_
    ⟨sound_viewDidLoad h₀, fed_viewDidLoad⟩
  rintro r e r' ⟨hsound, hfed⟩ hc hr
  exact ⟨hsound.step hc.writesWell hr, hfed.step hsound hc hr⟩

/-- **The second screen is right when it rests.**  Whatever the user presses, whatever
others write and in whatever order everything is received: once nothing waits, `isExist` says
whether the user has a like, the likes and the reviews are those of the database, and the
reviews are sorted.  The heart shown follows `isExist` at the next reload. -/
theorem steps_current (h₀ : store.WellFormed)
    (h : (system sorter).Steps Connected (viewDidLoad store contentId currentUser) es r)
    (hquiet : r.Quiet) : r.Current sorter := by
  obtain ⟨hsound, hfed⟩ := steps_fed h₀ h
  exact hfed.current hsound hquiet

/-- A trip that somebody else likes. -/
def likedTrip : Store := Store.empty.apply (.addSub .favorite "trip" "1" (favorite "x@y.z"))

theorem wellFormed_likedTrip : likedTrip.WellFormed := Store.wellFormed_empty.apply rfl

/-- The user presses the button, somebody else writes a review, and everything is received. -/
def reviewed : List Event :=
  let now : DocId → Date := fun _ => 90
  [.likeButtonClicked, .delivered .getExistLikeLocation 0 "2" now,
    .elsewhere (.addSub .comment "trip" "1" (ContentViewController.comment "nice" "x@y.z" 0)),
    .delivered .getExistLikeLocation 0 "3" now, .delivered .checkLikeImage 0 "3" now,
    .delivered .checkLikeImage 1 "3" now, .delivered .checkLikeImage 2 "3" now,
    .delivered .checkLikeImage 0 "3" now, .delivered .getLikeCount 2 "3" now,
    .delivered .getLikeCount 0 "3" now, .delivered .getLikeCount 1 "3" now,
    .delivered .getLikeCount 0 "3" now, .delivered .getReview 0 "3" now,
    .delivered .getReview 0 "3" now]

theorem reviewed_current : ∃ r, (system .insertion).Steps Connected
    (viewDidLoad likedTrip "trip" (some "a@b.c")) reviewed r ∧ r.Current .insertion := by
  obtain ⟨r, hrun, hquiet⟩ := EventSystem.exists_steps_of_exec (system .insertion) Connected
    (viewDidLoad likedTrip "trip" (some "a@b.c")) reviewed (fun r => r.Quiet) (by decide +kernel)
  exact ⟨r, hrun, steps_current wellFormed_likedTrip hrun (of_decide_eq_true hquiet)⟩

/-- **And it comes to rest.**  What the listeners write triggers them again, but not for
ever: no run goes on with deliveries only, and deliveries lead to a screen that is right. -/
theorem steps_comes_to_rest (h₀ : store.WellFormed)
    (h : (system sorter).Steps Connected (viewDidLoad store contentId currentUser) es r) :
    (∀ rs : Nat → RouteFeeds, rs 0 = r →
      ¬∀ n, (system sorter).Leads Delivery (rs (n + 1)) (rs n)) ∧
    ∃ fs r', (system sorter).Steps Delivery r fs r' ∧ r'.Quiet ∧ r'.Current sorter := by
  have hstep : ∀ {r : RouteFeeds} {e r'}, r.Sound ∧ r.Fed sorter → r.Delivery e →
      r.step sorter e = some r' → (r'.Sound ∧ r'.Fed sorter) ∧ Below r'.rank r.rank := by
    rintro r e r' ⟨hsound, hfed⟩ hc hr
    have hconnected := hc.connected
    exact ⟨⟨hsound.step hconnected.writesWell hr, hfed.step hsound hconnected hr⟩,
      below_of_delivery hc hr⟩
  obtain ⟨hends, fs, r', hrun, hquiet, hsound, hfed⟩ := EventSystem.comes_to_rest
    wellFounded_below (S := system sorter) (Q := Quiet) hstep
    (fun hI hquiet => exists_delivery hI.1 sorter hquiet) (steps_fed h₀ h)
  exact ⟨hends, fs, r', hrun, hquiet, hfed.current hsound hquiet⟩

/-- The user presses the button twice, and nothing has been received. -/
theorem pressed_comes_to_rest : ∃ r, (system .insertion).Steps Connected
    (viewDidLoad likedTrip "trip" (some "a@b.c")) [.likeButtonClicked, .likeButtonClicked] r ∧
      ∃ fs r', (system .insertion).Steps Delivery r fs r' ∧ r'.Quiet ∧ r'.Current .insertion := by
  obtain ⟨r, hrun, -⟩ := EventSystem.exists_steps_of_exec (system .insertion) Connected
    (viewDidLoad likedTrip "trip" (some "a@b.c")) [.likeButtonClicked, .likeButtonClicked]
    (fun _ => true) (by decide)
  exact ⟨r, hrun, (steps_comes_to_rest wellFormed_likedTrip hrun).2⟩

/-- **Nothing traps.**  Also if listeners are lost, no handler forces a field that is missing,
and the collection view shows all properties as they are, except perhaps the heart. -/
theorem steps_running (h₀ : store.WellFormed)
    (h : (system sorter).Steps WritesWell (viewDidLoad store contentId currentUser) es r) :
    r.trapped = false ∧ r.screen.collectionView =
      { r.screen.vc with isExist := r.screen.collectionView.isExist } := by
  have hsound : r.Sound := h.invariant (fun hI hc hr => hI.step hc hr) (sound_viewDidLoad h₀)
  exact ⟨hsound.running, hsound.displayed⟩

/-- The listener of the press is lost before it is answered. -/
theorem failed_running : ∃ r, (system .insertion).Steps WritesWell
    (viewDidLoad likedTrip "trip" (some "a@b.c"))
      [.likeButtonClicked, .failed .getExistLikeLocation 0,
        .delivered .getLikeCount 0 "2" fun _ => 0] r ∧
      r.trapped = false ∧ r.screen.collectionView =
        { r.screen.vc with isExist := r.screen.collectionView.isExist } := by
  obtain ⟨r, hrun, -⟩ := EventSystem.exists_steps_of_exec (system .insertion) WritesWell
    (viewDidLoad likedTrip "trip" (some "a@b.c")) [.likeButtonClicked,
      .failed .getExistLikeLocation 0, .delivered .getLikeCount 0 "2" fun _ => 0]
    (fun _ => true) (by decide)
  exact ⟨r, hrun, steps_running wellFormed_likedTrip hrun⟩

end RouteFeeds

end Groute

import Mathlib.Data.Rat.Floor
import Groute.Model

/-!
# The details of a trip

`ContentViewController` shows one trip with its stops, its reviews and its
likes; `ContentRouteViewController` is a second screen for the same.  Here are
the documents they write and the ways they read them.
-/

namespace Groute

namespace ContentViewController

/-- The document that `writeReview` adds. -/
def comment (writtenReview connectedEmail : String) (now : Date) : Document := .ofFields [
  ("comment", .string writtenReview),
  ("email", .string connectedEmail),
  ("timestamp", .timestamp now)]

/-- The document that `getExistLikeLocation` adds. -/
def favorite (connectingEmail : String) : Document := .ofFields [("email", .string connectingEmail)]

/-- The query of `getExistLikeLocation` and `checkLikeImage`. -/
def checkLike (st : Store) (contentId : DocId) (connectingEmail : String) :
    List (DocId × Document) :=
  (st.sub .favorite contentId).query fun d => d.get "email" = some (.string connectingEmail)

/-- What the handler of `getExistLikeLocation` does: delete the first document,
or add one. -/
def getExistLikeLocationDone : List (DocId × Document) → Option DocId
  | [] => none
  | document :: _ => some document.1

/-- The record `getLikeCount` builds from a document. -/
def getLike (document : DocId × Document) : Option Favorite :=
  (document.2.string "email").map Favorite.mk

/-- The handler of `getLikeCount`; a like without e-mail traps.  The button shows
the length of the list. -/
def getLikeCountDone (documents : List (DocId × Document)) : Option (List Favorite) :=
  documents.mapM getLike

/-- How long ago a review was written.  `Int(_:)` rounds a positive quotient down. -/
def calTime (time : ℚ) : String :=
  if 0 < time ∧ time < 60 then "방금전"
  else if 60 ≤ time ∧ time < 3600 then toString ⌊time / 60⌋ ++ "분전"
  else if 3600 ≤ time ∧ time < 86400 then toString ⌊time / 3600⌋ ++ "시간전"
  else if 86400 ≤ time ∧ time < 604800 then toString ⌊time / 86400⌋ ++ "일전"
  else if 604800 ≤ time ∧ time < 2419200 then toString ⌊time / 604800⌋ ++ "주전"
  else if 2419200 ≤ time ∧ time < 29030400 then toString ⌊time / 2419200⌋ ++ "달전"
  else "몰라 ㅅㅂ"

/-- The record `getReview` builds from a document. -/
def getReview (now : Date) (document : DocId × Document) : Option Comment :=
  (document.2.date "timestamp").bind fun timestamp =>
    (document.2.string "email").bind fun email =>
      (document.2.string "comment").map fun content =>
        { email, content, timestamp, calcTime := calTime (now - timestamp) }

/-- The record `getRoute` builds from a document; it has a default for every
field. -/
def getRouteName (document : DocId × Document) : RouteName where
  id := (document.2.string "email").getD ""
  name := (document.2.string "name").getD ""
  section_ := (document.2.int "section").getD 0
  point := (document.2.geoPoint "geopoint").getD ⟨0, 0⟩
  imageAddress := (document.2.string "imageAddress").getD ""

end ContentViewController

namespace ContentRouteViewController

/-- The document that `getExistLikeLocation` adds. -/
def favorite (currentUser : String) : Document := .ofFields [("email", .string currentUser)]

/-- What the listener of `getExistLikeLocation` writes: it adds a like if the user
has none, and otherwise deletes a document under the identifier of the trip. -/
def getExistLikeLocationDone (contentId id : DocId) (currentUser : String)
    (documents : List (DocId × Document)) : Write :=
  if documents.isEmpty then .addSub .favorite contentId id (favorite currentUser)
  else .deleteSub .favorite contentId contentId

/-- The record `getLikeCount` builds from a document. -/
def getLike (document : DocId × Document) : Option Favorite :=
  (document.2.string "email").map Favorite.mk

/-- The second copy of the function. -/
def calTime (time : ℚ) : String :=
  if 0 < time ∧ time < 60 then "방금전"
  else if 60 ≤ time ∧ time < 3600 then toString ⌊time / 60⌋ ++ "분전"
  else if 3600 ≤ time ∧ time < 86400 then toString ⌊time / 3600⌋ ++ "시간전"
  else if 86400 ≤ time ∧ time < 604800 then toString ⌊time / 86400⌋ ++ "일전"
  else if 604800 ≤ time ∧ time < 2419200 then toString ⌊time / 604800⌋ ++ "주전"
  else if 2419200 ≤ time ∧ time < 29030400 then toString ⌊time / 2419200⌋ ++ "달전"
  else "몰라 ㅅㅂ"

/-- The record `getReview` builds from a document. -/
def getReview (now : Date) (document : DocId × Document) : Option Comment :=
  (document.2.date "timestamp").map fun timestamp =>
    { email := (document.2.string "email").getD ""
      content := (document.2.string "comment").getD ""
      timestamp
      calcTime := calTime (now - timestamp) }

/-- The name `getRoute` reads from a document. -/
def getName (document : DocId × Document) : Option String := document.2.string "name"

end ContentRouteViewController

end Groute

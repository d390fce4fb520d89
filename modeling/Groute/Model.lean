import Groute.Firestore.Store

/-!
# The records of the app

The structures of the directory `Model`, field by field, and the ways the
controllers read them from documents.  A decoder returns `none` where the
source has a forced cast that traps.
-/

namespace Groute

/-- A trip, as the main list shows it. -/
structure Content where
  id : DocId
  location : String
  email : String
  title : String
  memo : String
  timestamp : Date
  imageAddress : String
  favorite : Option Int
deriving DecidableEq

/-- A stop of a trip.  Equality and hashing compare all five fields. -/
structure RouteName where
  id : DocId
  name : String
  section_ : Int
  point : GeoPoint
  imageAddress : String
deriving DecidableEq

/-- A like. -/
structure Favorite where
  email : String
deriving DecidableEq

/-- A review. -/
structure Comment where
  email : String
  content : String
  timestamp : Date
  calcTime : String
deriving DecidableEq

/-- A city that can be chosen for a trip. -/
structure City where
  cityName : String
  cityEtc : String
  cityImage : String
  point : GeoPoint
deriving DecidableEq

/-- A place that can be added to a trip. -/
structure TourModel where
  id : DocId
  address : String
  imageAddress : String
  name : String
  roadAddress : String
  geoPoint : GeoPoint
deriving DecidableEq

/-- A trip, as the list of the user's own trips shows it. -/
structure CurrentUserDocument where
  id : DocId
  title : String
  imageAddress : String
  timestamp : Date
deriving DecidableEq

end Groute

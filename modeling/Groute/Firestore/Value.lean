import Mathlib.Algebra.Order.Ring.Rat
import Mathlib.Data.Rat.Defs

/-!
# Firestore values and documents

A document is a map from field names to dynamically typed values; nothing
declares which fields it has.  The app reads a field with `get` followed by a
cast: `as?` gives an optional, which is usually defaulted with `??`, and `as!`
traps when the field is missing or has another type.

A `Date` written by the app is stored as a timestamp, and `dateValue()` gives
the same instant back.
-/

namespace Groute

/-- An instant, in seconds since the reference date. -/
abbrev Date := ℚ

/-- A point on the map. -/
structure GeoPoint where
  /-- Degrees north. -/
  latitude : ℚ
  /-- Degrees east. -/
  longitude : ℚ
deriving DecidableEq

/-- The value of a document field. -/
inductive Value where
  | string (s : String)
  | int (n : Int)
  | timestamp (t : Date)
  | geopoint (p : GeoPoint)
deriving DecidableEq

namespace Value

/-- `as? String`. -/
def asString : Value → Option String
  | .string s => some s
  | _ => none

/-- `as? Int`. -/
def asInt : Value → Option Int
  | .int n => some n
  | _ => none

/-- `as? Timestamp`, followed by `dateValue()`. -/
def asDate : Value → Option Date
  | .timestamp t => some t
  | _ => none

/-- `as? GeoPoint`. -/
def asGeoPoint : Value → Option GeoPoint
  | .geopoint p => some p
  | _ => none

end Value

/-- The data of a document: a value for each field it has. -/
def Document := String → Option Value

/-- Fields as they are listed in a dictionary literal. -/
abbrev Fields := List (String × Value)

namespace Document

variable {d : Document} {fields : Fields} {field : String} {v : Value}

/-- `document.get(field)`. -/
def get (d : Document) (field : String) : Option Value := d field

/-- The document that `addDocument` and `setData` write. -/
def ofFields (fields : Fields) : Document := fun field => fields.lookup field

/-- The document after `updateData`: the listed fields are replaced, the
others stay. -/
def updateData (d : Document) (fields : Fields) : Document :=
  fun field => (fields.lookup field).or (d field)

/-- `document.get(field) as? String`. -/
def string (d : Document) (field : String) : Option String := (d.get field).bind Value.asString

/-- `document.get(field) as? Int`. -/
def int (d : Document) (field : String) : Option Int := (d.get field).bind Value.asInt

/-- `(document.get(field) as? Timestamp)?.dateValue()`. -/
def date (d : Document) (field : String) : Option Date := (d.get field).bind Value.asDate

/-- `document.get(field) as? GeoPoint`. -/
def geoPoint (d : Document) (field : String) : Option GeoPoint :=
  (d.get field).bind Value.asGeoPoint

/-- A field that is not listed keeps its value. -/
theorem get_updateData_of_lookup_none (h : fields.lookup field = none) :
    (d.updateData fields).get field = d.get field := by
  rw [get, updateData, h, Option.none_or, get]

theorem string_of_get {s : String} (h : d.get field = some (.string s)) :
    d.string field = some s := by
  rw [string, h]; rfl

theorem string_eq_some_iff {s : String} :
    d.string field = some s ↔ d.get field = some (.string s) := by
  refine ⟨fun h => ?_, string_of_get⟩
  obtain ⟨v, hv, hs⟩ := Option.bind_eq_some_iff.mp h
  cases v with
  | string t => rw [hv, Option.some.inj hs]
  | int | timestamp | geopoint => cases hs

theorem geoPoint_eq_some_iff {p : GeoPoint} :
    d.geoPoint field = some p ↔ d.get field = some (.geopoint p) := by
  refine ⟨fun h => ?_, fun h => by rw [geoPoint, h]; rfl⟩
  obtain ⟨v, hv, hp⟩ := Option.bind_eq_some_iff.mp h
  cases v with
  | geopoint q => rw [hv, Option.some.inj hp]
  | string | int | timestamp => cases hp

end Document

end Groute

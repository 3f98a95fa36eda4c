import Isochrone.Reading.Decoder

/-!
# Geometries

The seven kinds of geometry of a map document. Coordinates are nested lists of positions, as
deep as the kind asks; a collection holds geometries instead. Members of the object that the
kind does not use are kept and written back.
-/

namespace Isochrone

open Json (Value)
open Reading (GeometryProblem)

/-- A point of the map: two or more finite coordinates. -/
structure Position where
  coordinates : List Binary64.Finite
  two_le : 2 ≤ coordinates.length
  deriving DecidableEq, Repr

/-- Positions in lists of lists, to a given depth. -/
def Nested : Nat → Type
  | 0 => Position
  | n + 1 => List (Nested n)

namespace Geometry

/-- The kinds of geometry that have coordinates. -/
inductive Kind where
  | point
  | multiPoint
  | lineString
  | multiLineString
  | polygon
  | multiPolygon
  deriving DecidableEq, Repr

namespace Kind

/-- The kinds of geometry, in order. -/
def all : List Kind :=
  [.point, .multiPoint, .lineString, .multiLineString, .polygon, .multiPolygon]

/-- The name of a kind. -/
def name : Kind → String
  | .point => "Point"
  | .multiPoint => "MultiPoint"
  | .lineString => "LineString"
  | .multiLineString => "MultiLineString"
  | .polygon => "Polygon"
  | .multiPolygon => "MultiPolygon"

/-- How deep the positions of a kind are nested. -/
def depth : Kind → Nat
  | .point => 0
  | .multiPoint | .lineString => 1
  | .multiLineString | .polygon => 2
  | .multiPolygon => 3

/-- The kind of a name. -/
def ofName? (name : String) : Option Kind := all.find? fun kind => kind.name = name

end Kind

end Geometry

/-- A geometry with its bounding box and the members that its kind does not use. -/
inductive Geometry where
  | simple (kind : Geometry.Kind) (coordinates : Nested kind.depth)
    (bbox : Option (List Binary64.Finite)) (others : SortedMap String Value)
  | collection (geometries : List Geometry) (bbox : Option (List Binary64.Finite))
    (others : SortedMap String Value)

namespace Geometry

/-- The name of the kind that holds geometries. -/
def collectionName : String := "GeometryCollection"

/-- A finite number as JSON. -/
def realJson (x : Binary64.Finite) : Value := .number (.real x)

/-- Nested positions as nested arrays. -/
def nestedJson : (depth : Nat) → Nested depth → Value
  | 0, position => .array (position.coordinates.map realJson)
  | n + 1, parts => .array (parts.map (nestedJson n))

/-- The members of a geometry after those of its kind. -/
def tailMembers (bbox : Option (List Binary64.Finite)) (others : SortedMap String Value) :
    List (String × Value) :=
  (bbox.map fun b => ("bbox", .array (b.map realJson))).toList ++ others.entries

mutual

/-- The JSON form: type, content, bounding box and the other members. -/
def toJson : Geometry → Value
  | .simple kind coordinates bbox others =>
    .object <| ("type", .string kind.name) ::
      ("coordinates", nestedJson kind.depth coordinates) :: tailMembers bbox others
  | .collection geometries bbox others =>
    .object <| ("type", .string collectionName) ::
      ("geometries", .array (listJson geometries)) :: tailMembers bbox others

/-- The JSON forms of geometries. -/
def listJson : List Geometry → List Value
  | [] => []
  | g :: rest => toJson g :: listJson rest

end

/-- The binary64 number of a JSON number; integers are rounded. -/
def real? : Value → Option Binary64.Finite
  | .number n => n.toBinary64.finite?
  | _ => none

/-- Read a list of numbers. -/
def reals? : List Value → Option (List Binary64.Finite)
  | [] => some []
  | item :: rest => do
    let x ← real? item
    let xs ← reals? rest
    return x :: xs

/-- As many numbers are read as there are items. -/
theorem length_reals? {items : List Value} {xs : List Binary64.Finite}
    (h : reals? items = some xs) : xs.length = items.length := by
  induction items generalizing xs with
  | nil => simp_all [reals?]
  | cons item rest ih =>
    simp only [reals?, Option.bind_eq_bind, Option.bind_eq_some_iff, pure] at h
    obtain ⟨x, _, ys, hys, h⟩ := h
    obtain rfl := Option.some.inj h
    simp [ih hys]

/-- Read a bounding box; null counts as none. -/
def readBbox : Option Value → Except GeometryProblem (Option (List Binary64.Finite))
  | none => .ok none
  | some .null => .ok none
  | some (.array items) => (reals? items).elim (.error .bboxNotNumeric) (.ok ∘ some)
  | some v => .error (.bboxNotArray v)

/-- Read a position. Its length is looked at before its numbers. -/
def readPosition : Value → Except GeometryProblem Position
  | .array items =>
    if h : 2 ≤ items.length then
      match hx : reals? items with
      | some xs => .ok ⟨xs, by rw [length_reals? hx]; exact h⟩
      | none => .error .coordinateNotNumber
    else .error (.shortPosition items.length)
  | _ => .error .coordinatesNotArray

/-- Read nested positions. -/
def readNested : (depth : Nat) → Value → Except GeometryProblem (Nested depth)
  | 0, v => readPosition v
  | n + 1, .array items => items.mapM (readNested n)
  | _ + 1, _ => .error .coordinatesNotArray

/-- Read the member that names the kind. -/
def readName : Option Value → Except GeometryProblem String
  | none => .error (.missingMember "type")
  | some (.string name) => .ok name
  | some v => .error (.typeNotString v)

/-- The members that are neither the type nor the bounding box nor the content. -/
def others (members : SortedMap String Value) (content : String) : SortedMap String Value :=
  members.filterKeys fun key => key ≠ "type" && key ≠ "bbox" && key ≠ content

private theorem sizeOf_items_lt {members : List (String × Value)} {key : String}
    {items : List Value}
    (h : (SortedMap.ofList members).get? key = some (.array items)) :
    sizeOf items < sizeOf members := by
  obtain ⟨k, hk⟩ := SortedMap.mem_of_get?_ofList h
  have := List.sizeOf_lt_of_mem hk
  simp only [Prod.mk.sizeOf_spec, Value.array.sizeOf_spec] at this
  omega

mutual

/-- Read a geometry from the members of an object: first the bounding box, then the type,
then the content. -/
def ofMembers (members : List (String × Value)) : Except GeometryProblem Geometry := do
  let map := SortedMap.ofList members
  let bbox ← readBbox (map.get? "bbox")
  let name ← readName (map.get? "type")
  if name = collectionName then
    match h : map.get? "geometries" with
    | none => .error (.missingMember "geometries")
    | some (.array items) => do
      have := sizeOf_items_lt h
      let geometries ← ofItems items
      return .collection geometries bbox (others map "geometries")
    | some v => .error (.geometriesNotArray v)
  else match Kind.ofName? name with
    | none => .error (.unknownType name)
    | some kind =>
      match map.get? "coordinates" with
      | none => .error (.missingMember "coordinates")
      | some v => do
        let coordinates ← readNested kind.depth v
        return .simple kind coordinates bbox (others map "coordinates")
termination_by sizeOf members

/-- Read the geometries of a collection one after another. -/
def ofItems (items : List Value) : Except GeometryProblem (List Geometry) :=
  match items with
  | [] => .ok []
  | .object members :: rest => do
    let g ← ofMembers members
    let gs ← ofItems rest
    return g :: gs
  | v :: _ => .error (.geometryNotObject v)
termination_by sizeOf items

end

/-- Read a geometry from an object; all its members are read before any is looked at. -/
def decode : Reading.Decoder Geometry := fun d => do
  let members ← Reading.map Reading.value d
  match ofMembers members.entries with
  | .ok g => return g
  | .error cause => .error (.unsuitable (.geometry cause))

end Geometry

end Isochrone

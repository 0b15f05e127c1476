import GeoSearch.Document.Exchange
import GeoSearch.Proofs.Document.Nested
import GeoSearch.Proofs.Geometry.PointText
import GeoSearch.Proofs.Query.Spatial
/-!
Geometries in lists of objects. The values of the objects are taken together, and of a list its items
are taken one by one. So the geometry of an object counts unless it is a bare position, which is one
geometry only at the end of a path through objects alone.
-/
namespace GeoSearch

namespace Document

variable {document value : Json} {name : String}

theorem lookupFrom_memberAt? {names : List String}
    (found : memberAt? document names = some value) (rest : List String) :
    lookupFrom [document] (names ++ rest) = lookupFrom [value] rest := by
  induction names generalizing document with
  | nil => rw [Option.some.inj found]; rfl
  | cons name names ih =>
    obtain ⟨members, inner, rfl, member, below⟩ := memberAt?_cons found
    have step : [Json.object members].flatMap (children name) = [inner] := by
      simp [children, member]
    rw [List.cons_append, lookupFrom, step, ih below]

theorem children_of_member? (member : document.member? name = some value) :
    children name document = [value] := by
  cases document with
  | object members => exact congrArg Option.toList member
  | _ => cases member

theorem itemChildren_eq_flatMap (name : String) (items : List Json) :
    itemChildren name items = items.flatMap (children name) := by
  induction items with
  | nil => rfl
  | cons item items ih => rw [itemChildren, ih, List.flatMap_cons]

end Document

/-- A geometry is itself among the values at its place, unless it is a list: then none is. -/
theorem GeoJson.filterMap_settled {value : Json} (one : isGeometry value = true) :
    (Document.settled value).filterMap read? =
      if value.isArray then [] else (read? value).toList := by
  obtain ⟨geometry, others⟩ := Bool.and_eq_true_iff.mp one
  have alone : [value].filterMap read? = (read? value).toList := by
    cases known : read? value <;> simp [known]
  cases value with
  | array items =>
    refine List.filterMap_eq_nil_iff.mpr fun item member => ?_
    obtain ⟨c, position⟩ := Option.isSome_iff_exists.mp (Option.isSome_map ▸ geometry)
    unfold position? at position
    split at position
    · next x y rest same =>
      obtain ⟨lon, first, position⟩ := Option.bind_eq_some_iff.mp position
      obtain ⟨lat, second, -⟩ := Option.bind_eq_some_iff.mp position
      cases same
      rcases List.mem_cons.mp (List.mem_filter.mp member).1 with rfl | member
      · exact read?_number first
      rcases List.mem_cons.mp member with rfl | member
      · exact read?_number second
      · exact Option.isNone_iff_eq_none.mp (List.all_eq_true.mp others item member)
    · cases position
  | null => cases geometry
  | _ => exact alone

theorem flatMap_filter {α β : Type} {items : List α} {keep : α → Bool} {f g : α → List β}
    (each : ∀ x ∈ items, f x = if keep x then g x else []) :
    items.flatMap f = (items.filter keep).flatMap g := by
  induction items with
  | nil => rfl
  | cons item items ih =>
    have rest := ih fun x member => each x (List.mem_cons_of_mem _ member)
    rw [List.flatMap_cons, each item List.mem_cons_self, rest, List.filter_cons]
    cases keep item <;> rfl

variable {a : Attribute} {source : Json} {parent : List String} {last : String} {objects : List Json}

namespace Attribute

variable (dotted : Document.segments a.field = parent ++ [last])

include dotted

/-- A document with one object at the parent has the geometry of that object. -/
theorem geometries_exchanged {old o value : Json}
    (stored : Document.memberAt? source parent = some old) (member : o.member? last = some value)
    (one : GeoJson.isGeometry value = true) :
    a.geometries (Document.exchanged o parent source) = (GeoJson.read? value).toList := by
  obtain ⟨g, read⟩ := Option.isSome_iff_exists.mp (Bool.and_eq_true_iff.mp one).1
  have single : Document.single? (Document.exchanged o parent source) a.field = some value := by
    rw [Document.single?, dotted, Document.memberAt?_append, Document.memberAt?_exchanged o stored,
      ← member]
    cases o with
    | object members => exact Option.bind_fun_some _
    | _ => rfl
  rw [geometries, single, Option.bind_some, read]
  rfl

/-- The geometries of a list of objects are those of the objects that store no list. -/
theorem geometries_objects (stored : Document.memberAt? source parent = some (.array objects))
    (each : ∀ o ∈ objects, (o.member? last).any GeoJson.isGeometry = true) :
    a.geometries source =
      (objects.filter fun o => !(o.member? last).any Json.isArray).flatMap fun o =>
        a.geometries (Document.exchanged o parent source) := by
  have none : Document.single? source a.field = none := by
    rw [Document.single?, dotted, Document.memberAt?_append, stored]
    rfl
  have values : Document.lookup source a.field =
      objects.flatMap fun o => (Document.children last o).flatMap Document.settled := by
    rw [Document.lookup, dotted, Document.lookupFrom_memberAt? stored, ← List.flatMap_assoc,
      ← Document.itemChildren_eq_flatMap]
    simp [Document.lookupFrom, Document.children]
  rw [geometries, none, values, Option.bind_none, List.filterMap_flatMap]
  refine flatMap_filter fun o inside => ?_
  obtain ⟨value, member, one⟩ := (Option.any_eq_true ..).mp (each o inside)
  rw [Document.children_of_member? member, List.flatMap_singleton, GeoJson.filterMap_settled one,
    geometries_exchanged dotted stored member one, member, Option.any_some]
  cases value.isArray <;> rfl

omit dotted in
theorem geometries_nothing (a : Attribute) : a.geometries (.object []) = [] := by
  rw [geometries, Document.single?, Document.lookup]
  cases Document.segments a.field with
  | nil => rfl
  | cons name names => exact congrArg (List.filterMap GeoJson.read?) (Document.lookupFrom_nil names)

end Attribute

namespace SpatialRelation

variable {relation : SpatialRelation} {swapped : Bool} {g : Geometry Float} {α : Type}

theorem holdsPlanar_flatMap (parts : List α) (geometries : α → List (Geometry Float)) :
    relation.holdsPlanar swapped g (parts.flatMap geometries) =
      parts.any fun part => relation.holdsPlanar swapped g (geometries part) := by
  unfold holdsPlanar
  generalize (if relation = bbox then g.bounds.map Geometry.rect else some g) = target
  cases target with
  | none => simp
  | some target => exact List.any_flatMap

theorem holdsPlanar_nil : relation.holdsPlanar swapped g [] = false :=
  holdsPlanar_flatMap ([] : List Unit) fun _ => []

/-- A relation that holds of a document without geometries holds of all documents. -/
theorem holds_always (nothing : relation.holds a swapped g (.object []) = true) (source : Json) :
    relation.holds a swapped g source = true := by
  rw [holds_of_prepared] at nothing ⊢
  cases ready : a.prepared g with
  | world => rfl
  | empty => rwa [ready] at nothing
  | clipped h =>
    rw [ready, Attribute.geometries_nothing] at nothing
    exact absurd (holdsPlanar_nil.symm.trans nothing) nofun

/-- A relation holds of several documents taken together if it holds of one of them, or of a document
without geometries. -/
theorem holds_flatMap {parts : List α} {document : α → Json}
    (together : a.geometries source = parts.flatMap fun part => a.geometries (document part)) :
    relation.holds a swapped g source =
      ((parts.any fun part => relation.holds a swapped g (document part)) ||
        relation.holds a swapped g (.object [])) := by
  simp only [holds_of_prepared, Attribute.geometries_nothing, together]
  cases a.prepared g with
  | world => exact (Bool.or_true _).symm
  | empty => by_cases same : relation = disjoint <;> simp [same]
  | clipped h =>
    have nothing := Bool.or_false (parts.any fun part =>
      relation.holdsPlanar swapped h (a.geometries (document part)))
    exact (holdsPlanar_flatMap parts _).trans ((congrArg _ holdsPlanar_nil).trans nothing).symm

end SpatialRelation

namespace Predicate

/-- A spatial predicate holds of a list of objects that store one geometry each if it holds of the
document with one of the objects in place of the list, where that object stores no list, or if it
holds of all documents. So where no geometry is a list, the objects are all seen. -/
theorem holds_spatial_objects (type : FeatureType) (relation : SpatialRelation)
    (left right : Operand) (name : String) (g : Geometry Float) (swapped : Bool) (id : String)
    (source : Json) (parent : List String) (last : String) (objects : List Json)
    (paired : pairing? left right = some ⟨name, .geometry g, swapped⟩)
    (dotted : Document.segments (type.resolve name).field = parent ++ [last])
    (stored : Document.memberAt? source parent = some (.array objects)) (one : objects ≠ [])
    (each : ∀ o ∈ objects, (o.member? last).any GeoJson.isGeometry = true) :
    (holds type id source (.spatial relation left right) = true ↔
      (∃ o ∈ objects, (o.member? last).any Json.isArray = false ∧
        holds type id (Document.exchanged o parent source) (.spatial relation left right) = true) ∨
      holds type id (.object []) (.spatial relation left right) = true) ∧
    ((∀ o ∈ objects, (o.member? last).any Json.isArray = false) →
      (holds type id source (.spatial relation left right) = true ↔
        ∃ o ∈ objects,
          holds type id (Document.exchanged o parent source) (.spatial relation left right) = true)) := by
  simp only [holds_spatial paired]
  have together := (type.resolve name).geometries_objects dotted stored each
  have first : relation.holds (type.resolve name) swapped g source = true ↔
      (∃ o ∈ objects, (o.member? last).any Json.isArray = false ∧
        relation.holds (type.resolve name) swapped g (Document.exchanged o parent source) = true) ∨
      relation.holds (type.resolve name) swapped g (.object []) = true := by
    rw [SpatialRelation.holds_flatMap together]
    simp
  refine ⟨first, fun plain => first.trans ⟨?_, ?_⟩⟩
  · rintro (⟨o, inside, -, holds⟩ | always)
    · exact ⟨o, inside, holds⟩
    · obtain ⟨o, inside⟩ := List.exists_mem_of_ne_nil objects one
      exact ⟨o, inside, SpatialRelation.holds_always always _⟩
  · rintro ⟨o, inside, holds⟩
    exact .inl ⟨o, inside, plain o inside, holds⟩

def places : FeatureType where
  name := "sites"
  attributes := [{ Attribute.ofGeometry "at" .point with nativeName := some "places.at" }]

def inPlaces (objects : List Json) : Json := .object [("places", .array objects)]

def atPosition (value : Json) : Json := .object [("at", value)]

theorem holds_spatial_text_and_object :
    holds places "1" (inPlaces [atPosition (.object [("lat", .ofInt 5), ("lon", .ofInt 5)]),
        atPosition (.string "2,1")])
      (.spatial .intersects (.property "at") (.literal (.geometry (.point ⟨1, 2⟩)))) = true :=
  ((holds_spatial_objects places .intersects _ _ "at" (.point ⟨1, 2⟩) false "1" _ ["places"] "at" _
    rfl (by decide) rfl (List.cons_ne_nil _ _) (by decide)).2
      (by decide)).mpr ⟨atPosition (.string "2,1"), by simp, by decide +kernel⟩

/-- The position of the only object is a list, and not seen. -/
theorem bare_position_of_object_unseen :
    ¬ ∀ (type : FeatureType) (relation : SpatialRelation) (left right : Operand) (name : String)
      (g : Geometry Float) (swapped : Bool) (id : String) (source : Json) (parent : List String)
      (last : String) (objects : List Json),
      pairing? left right = some ⟨name, .geometry g, swapped⟩ →
      Document.segments (type.resolve name).field = parent ++ [last] →
      Document.memberAt? source parent = some (.array objects) → objects ≠ [] →
      (∀ o ∈ objects, (o.member? last).any GeoJson.isGeometry = true) →
      (holds type id source (.spatial relation left right) = true ↔
        ∃ o ∈ objects,
          holds type id (Document.exchanged o parent source) (.spatial relation left right) = true) := by
  intro seen
  have one := seen places .intersects (.property "at") (.literal (.geometry (.point ⟨1, 2⟩))) "at"
    (.point ⟨1, 2⟩) false "1" (inPlaces [atPosition (.array [.ofInt 1, .ofInt 2])]) ["places"] "at"
    _ rfl (by decide) rfl (List.cons_ne_nil _ _) (by decide)
  have alone := one.mpr ⟨_, List.mem_cons_self, by decide +kernel⟩
  exact absurd alone (by decide +kernel)

end Predicate

end GeoSearch

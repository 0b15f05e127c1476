import GeoSearch.Document.Lookup
/-!
Lookup goes through a document depth first. A trail says which item is taken from each array on the way
to the end of a path: it leads to one value, and the values are listed in the order of their trails.
-/
namespace GeoSearch.Document

/-! ### Paths -/

theorem intercalate_segments (path : String) : ".".intercalate (segments path) = path := by
  have dot : ".".toList = ['.'] := rfl
  rw [← String.toList_inj, String.toList_intercalate, segments, List.map_map, dot]
  have plain : String.toList ∘ String.ofList = id := funext fun _ => String.toList_ofList
  rw [plain, List.map_id, Text.intercalate_split]

theorem notMem_of_mem_segments {path name : String} (member : name ∈ segments path) :
    '.' ∉ name.toList := by
  obtain ⟨piece, part, rfl⟩ := List.mem_map.mp member
  rw [String.toList_ofList]
  exact Text.notMem_of_mem_split part

/-! ### Depth first -/

/-- What a document reaches along the names of a path: an array what its items reach, an object what
its member of the next name reaches. At the end an array gives its items, and null gives nothing. -/
def reach : List String → Json → List Json
  | [], .array items => items.filter fun item => !item.isNull
  | [], .null => []
  | [], value => [value]
  | name :: rest, .object members =>
    match Json.Members.get? members name with
    | some member => reach rest member
    | none => []
  | name :: rest, .array items => items.flatMap fun item => reach (name :: rest) item
  | _ :: _, _ => []
termination_by names document => (names.length, sizeOf document)

theorem reach_nil (document : Json) : reach [] document = settled document := by
  cases document <;> rw [reach] <;> simp [settled]

mutual

/-- A step to the members of a name, and further from there. -/
theorem reach_cons (name : String) (rest : List String) :
    ∀ document, reach (name :: rest) document = (children name document).flatMap (reach rest)
  | .object members => by
    rw [reach, children]
    cases Json.Members.get? members name <;> simp
  | .array items => by rw [reach, children, flatMap_reach_cons]
  | .null | .bool _ | .number _ | .string _ => by rw [reach] <;> simp [children]

theorem flatMap_reach_cons (name : String) (rest : List String) :
    ∀ items, (items.flatMap fun item => reach (name :: rest) item) =
      (itemChildren name items).flatMap (reach rest)
  | [] => rfl
  | item :: items => by
    rw [List.flatMap_cons, itemChildren, List.flatMap_append, reach_cons name rest item,
      flatMap_reach_cons name rest items]

end

/-- Going down name by name from all documents at once finds what each of them reaches. -/
theorem lookupFrom_eq_flatMap_reach (documents : List Json) (names : List String) :
    lookupFrom documents names = documents.flatMap (reach names) := by
  induction names generalizing documents with
  | nil => rw [lookupFrom, funext reach_nil]
  | cons name rest ih =>
    rw [lookupFrom, ih, List.flatMap_assoc, funext (reach_cons name rest)]

theorem lookupFrom_singleton (document : Json) (names : List String) :
    lookupFrom [document] names = reach names document := by
  rw [lookupFrom_eq_flatMap_reach, List.flatMap_singleton]

theorem lookupFrom_array (items : List Json) (name : String) (rest : List String) :
    lookupFrom [.array items] (name :: rest) =
      items.flatMap fun item => lookupFrom [item] (name :: rest) := by
  rw [lookupFrom_singleton, reach]
  simp only [lookupFrom_singleton]

/-! ### Trails -/

/-- A document leads to a value along the names of a path, where the trail has the number of the item
that is taken from each array on the way. -/
inductive Leads : List String → Json → List Nat → Json → Prop where
  | item {name rest items i item trail value} (taken : items[i]? = some item)
      (further : Leads (name :: rest) item trail value) :
      Leads (name :: rest) (.array items) (i :: trail) value
  | member {name rest members member trail value}
      (found : Json.Members.get? members name = some member)
      (further : Leads rest member trail value) :
      Leads (name :: rest) (.object members) trail value
  | last {items i value} (taken : items[i]? = some value) (present : value.isNull = false) :
      Leads [] (.array items) [i] value
  | self {value} (single : ∀ items, value ≠ .array items) (present : value ≠ .null) :
      Leads [] value [] value

theorem leads_items_iff {name : String} {rest : List String} {items : List Json} {trail : List Nat}
    {value : Json} : Leads (name :: rest) (.array items) trail value ↔
      ∃ i item further, items[i]? = some item ∧ trail = i :: further ∧
        Leads (name :: rest) item further value := by
  constructor
  · intro leading
    cases leading with
    | item taken further => exact ⟨_, _, _, taken, rfl, further⟩
  · rintro ⟨i, item, further, taken, rfl, leading⟩
    exact .item taken leading

theorem leads_member_iff {name : String} {rest : List String} {members : Json.Members} {trail : List Nat}
    {value : Json} : Leads (name :: rest) (.object members) trail value ↔
      ∃ member, Json.Members.get? members name = some member ∧ Leads rest member trail value := by
  constructor
  · intro leading
    cases leading with
    | member found further => exact ⟨_, found, further⟩
  · rintro ⟨member, found, further⟩
    exact .member found further

theorem leads_last_iff {items : List Json} {trail : List Nat} {value : Json} :
    Leads [] (.array items) trail value ↔
      ∃ i, items[i]? = some value ∧ trail = [i] ∧ value.isNull = false := by
  constructor
  · intro leading
    cases leading with
    | last taken present => exact ⟨_, taken, rfl, present⟩
    | self single => exact absurd rfl (single _)
  · rintro ⟨i, taken, rfl, present⟩
    exact .last taken present

/-- The values that trails lead to, one for each trail, in the order of the trails. -/
def Listed (leads : List Nat → Json → Prop) (values : List Json) : Prop :=
  ∃ found : List (List Nat × Json), found.map Prod.snd = values ∧
    found.Pairwise (fun first later => first.1 < later.1) ∧
    ∀ trail value, (trail, value) ∈ found ↔ leads trail value

variable {leads further : List Nat → Json → Prop} {values : List Json}

theorem Listed.of_iff (listed : Listed leads values)
    (same : ∀ trail value, leads trail value ↔ further trail value) : Listed further values := by
  obtain ⟨found, all, ordered, known⟩ := listed
  exact ⟨found, all, ordered, fun trail value => (known trail value).trans (same trail value)⟩

theorem listed_nil (none : ∀ trail value, ¬ leads trail value) : Listed leads [] :=
  ⟨[], rfl, .nil, fun trail value => by simp [none trail value]⟩

theorem listed_singleton {value : Json} (only : ∀ trail other, leads trail other ↔ trail = [] ∧ other = value) :
    Listed leads [value] :=
  ⟨[([], value)], rfl, List.pairwise_singleton _ _, fun trail other => by simp [only trail other]⟩

/-- Trails that begin with the number of an item are listed item by item. -/
theorem listed_flatMap {each : Json → List Json} {leads : Json → List Nat → Json → Prop}
    {items : List Json} (listed : ∀ item ∈ items, Listed (leads item) (each item)) (start : Nat) :
    Listed (fun trail value => ∃ i item rest, items[i]? = some item ∧
      trail = (start + i) :: rest ∧ leads item rest value) (items.flatMap each) := by
  induction items generalizing start with
  | nil => exact listed_nil fun trail value ⟨i, item, rest, taken, _⟩ => by simp at taken
  | cons item items ih =>
    obtain ⟨here, values, ordered, known⟩ := listed item List.mem_cons_self
    obtain ⟨there, others, after, met⟩ :=
      ih (fun other member => listed other (List.mem_cons_of_mem _ member)) (start + 1)
    refine ⟨here.map (fun found => (start :: found.1, found.2)) ++ there, ?_, ?_, ?_⟩
    · rw [List.map_append, List.map_map, List.flatMap_cons, ← values, ← others]
      rfl
    · refine List.pairwise_append.mpr ⟨?_, after, ?_⟩
      · rw [List.pairwise_map]
        exact ordered.imp fun less => List.cons_lt_cons_iff.mpr (.inr ⟨rfl, less⟩)
      · rintro first member ⟨trail, value⟩ later
        obtain ⟨found, -, rfl⟩ := List.mem_map.mp member
        obtain ⟨i, other, rest, -, rfl, -⟩ := (met trail value).mp later
        exact List.cons_lt_cons_iff.mpr (.inl (by omega))
    · intro trail value
      rw [List.mem_append, met, List.mem_map]
      constructor
      · rintro (⟨⟨rest, value⟩, member, same⟩ | ⟨i, other, rest, taken, rfl, leading⟩)
        · cases same
          exact ⟨0, item, rest, rfl, rfl, (known rest value).mp member⟩
        · exact ⟨i + 1, other, rest, taken, by rw [Nat.add_assoc, Nat.add_comm 1], leading⟩
      · rintro ⟨i, other, rest, taken, rfl, leading⟩
        cases i with
        | zero =>
          obtain rfl := Option.some.inj taken
          exact .inl ⟨(rest, value), (known rest value).mpr leading, rfl⟩
        | succ i => exact .inr ⟨i, other, rest, taken, by rw [Nat.add_assoc, Nat.add_comm 1], leading⟩

/-- The items that are not null, each by its number. -/
theorem listed_present (items : List Json) :
    Listed (Leads [] (.array items)) (items.filter fun item => !item.isNull) := by
  have each (item : Json) : Listed (fun trail value => trail = [] ∧ value = item ∧ item.isNull = false)
      (if item.isNull then [] else [item]) := by
    by_cases null : item.isNull
    · rw [if_pos null]
      exact listed_nil fun trail value ⟨_, _, present⟩ => by simp [null] at present
    · rw [if_neg null]
      exact listed_singleton fun trail value => by simp [null]
  have whole : (items.filter fun item => !item.isNull) =
      items.flatMap fun item => if item.isNull then [] else [item] := by
    induction items with
    | nil => rfl
    | cons item items ih => cases null : item.isNull <;> simp [null, ih]
  rw [whole]
  refine (listed_flatMap (fun item _ => each item) 0).of_iff fun trail value => ?_
  simp only [Nat.zero_add, leads_last_iff]
  constructor
  · rintro ⟨i, item, rest, taken, rfl, rfl, rfl, present⟩
    exact ⟨i, taken, rfl, present⟩
  · rintro ⟨i, taken, rfl, present⟩
    exact ⟨i, value, [], taken, rfl, rfl, rfl, present⟩

theorem listed_reach (names : List String) (document : Json) :
    Listed (Leads names document) (reach names document) := by
  induction names, document using reach.induct with
  | case1 items =>
    rw [reach]
    exact listed_present items
  | case2 =>
    rw [reach]
    exact listed_nil fun trail value leading => by
      cases leading with
      | self _ present => exact absurd rfl present
  | case3 value single present =>
    have here : reach [] value = [value] := by rw [reach] <;> assumption
    rw [here]
    refine listed_singleton fun trail other => ⟨fun leading => ?_, ?_⟩
    · cases leading with
      | last => exact absurd rfl (single _)
      | self => exact ⟨rfl, rfl⟩
    · rintro ⟨rfl, rfl⟩
      exact .self single present
  | case4 name rest members member found ih =>
    rw [reach, found]
    exact ih.of_iff fun trail value => by simp [leads_member_iff, found]
  | case5 name rest members absent =>
    rw [reach, absent]
    exact listed_nil fun trail value => by simp [leads_member_iff, absent]
  | case6 name rest items ih =>
    rw [reach]
    exact (listed_flatMap ih 0).of_iff fun trail value => by simp only [Nat.zero_add, leads_items_iff]
  | case7 name rest value single plain =>
    have nothing : reach (name :: rest) value = [] := by rw [reach] <;> assumption
    rw [nothing]
    refine listed_nil fun trail other leading => ?_
    cases leading with
    | item => exact plain _ rfl
    | member => exact single _ rfl

/-- Lookup goes to the pieces between the dots of a path one after the other, depth first. It lists the
values that trails lead to, each trail once, in the order of the items taken; and with a name still to
go it finds in an array what it finds in the items. -/
theorem lookup_depth_first (path : String) :
    (".".intercalate (segments path) = path ∧ ∀ name ∈ segments path, '.' ∉ name.toList) ∧
    (∀ document, lookup document path = reach (segments path) document ∧
      Listed (Leads (segments path) document) (lookup document path)) ∧
    (∀ items, lookup (.array items) path = items.flatMap fun item => lookup item path) ∧
    ∀ items name rest, lookupFrom [.array items] (name :: rest) =
      items.flatMap fun item => lookupFrom [item] (name :: rest) := by
  refine ⟨⟨intercalate_segments path, fun name => notMem_of_mem_segments⟩, fun document => ?_, fun items => ?_,
    lookupFrom_array⟩
  · have found : lookup document path = reach (segments path) document :=
      lookupFrom_singleton document (segments path)
    exact ⟨found, found ▸ listed_reach (segments path) document⟩
  · obtain ⟨name, rest, parts⟩ := List.exists_cons_of_ne_nil (segments_ne_nil path)
    simp only [lookup, parts]
    exact lookupFrom_array items name rest

/-- A path through lists of lists, where a value is a list, a name leads to null, and an item is no object. -/
theorem names_in_nested_lists :
    "name" ∈ segments "tags.name" ∧ '.' ∉ "name".toList ∧
    lookup (.object [("tags", .array
      [.object [("name", .string "a")], .bool true,
        .array [.object [("name", .array [.string "b", .null, .array [.string "c"]])]],
        .object [("name", .null)], .object [("title", .string "d")]])]) "tags.name" =
      [.string "a", .string "b", .array [.string "c"]] := by
  have parts : segments "tags.name" = ["tags", "name"] := by decide
  have listed : "name" ∈ segments "tags.name" := by simp [parts]
  refine ⟨listed, (lookup_depth_first "tags.name").1.2 "name" listed, ?_⟩
  rw [((lookup_depth_first "tags.name").2.1 _).1, parts]
  simp [reach, Json.Members.get?, List.lookup_cons, Json.isNull]

end GeoSearch.Document

import GeoSearch.Proofs.Predicate.Fields
import GeoSearch.Proofs.Source.Key
import GeoSearch.Proofs.Time.Timestamp
/-!
Predicates that are written and read. Reading a predicate's document gives the predicate back, however
deep it is, and so its text tells it from all others.
-/
namespace GeoSearch

namespace Json

theorem asChar?_ofChar (c : Char) : asChar? (ofChar c) = some c := by
  simp [ofChar, asChar?]

theorem asFloat?_ofFloat {x : Float} (finite : x.isFinite = true) : asFloat? (ofFloat x) = some x := by
  rw [ofFloat, if_pos finite]
  rfl

/-- A list is read as a whole if each of its items is. -/
theorem mapM_map {read : Json → Option α} {write : α → Json} {list : List α}
    (each : ∀ item ∈ list, read (write item) = some item) : (list.map write).mapM read = some list := by
  induction list with
  | nil => rfl
  | cons item rest ih =>
    rw [List.map_cons, List.mapM_cons, each item (List.mem_cons_self ..),
      ih fun other member => each other (List.mem_cons_of_mem _ member)]
    rfl

theorem asStrings?_strings (texts : List String) : asStrings? (strings texts) = some texts := by
  have each : ∀ text ∈ texts, asString? (.string text) = some text := fun _ _ => rfl
  exact mapM_map each

namespace Members

@[simp] theorem required_cons (key name : String) (value : Json) (members : Members)
    (read : Json → Option α) : required ((key, value) :: members) name read =
      if name = key then read value else required members name read := by
  unfold required get?
  by_cases same : name = key
  · simp [same]
  · simp [List.lookup_cons, same, beq_false_of_ne same]

@[simp] theorem defaulted_cons (key name : String) (value : Json) (members : Members) (default : α)
    (read : Json → Option α) : defaulted ((key, value) :: members) name default read =
      if name = key then read value else defaulted members name default read := by
  unfold defaulted get?
  by_cases same : name = key
  · simp [same]
  · simp [List.lookup_cons, same, beq_false_of_ne same]

end Members

theorem text_inj {left right : Json} (same : left.text = right.text) : left = right := by
  have ends : Text.Ends Json.Reader.inNumber "".toList := Text.ends_nil
  exact (text_append_inj ends ends (congrArg (· ++ "") same)).1

end Json

namespace Time

theorem Instant.ofDocument?_document {i : Instant} (valid : i.Valid) :
    Instant.ofDocument? i.document = some i := by
  rw [Instant.ofDocument?, Instant.document, Json.asString?, Option.bind_some]
  exact Rfc3339.readLenient?_write valid

theorem Period.ofDocument?_document {p : Period} (start : p.start.Valid) (stop : p.stop.Valid) :
    Period.ofDocument? p.document = some p := by
  have record : p.document.record? memberNames =
    some [("begin", p.start.document), ("end", p.stop.document)] := rfl
  rw [Period.ofDocument?, record]
  simp [Instant.ofDocument?_document start, Instant.ofDocument?_document stop]

end Time

namespace Literal

/-- A document can say the literal: instants are of the supported years, and a geometry is what its
well-known text says. -/
def Representable : Literal → Prop
  | .value _ => True
  | .instant i => i.Valid
  | .period p => p.start.Valid ∧ p.stop.Valid
  | .geometry g => Wkt.read? (Wkt.write g) = some g

theorem ofDocument?_document {l : Literal} (fit : l.Representable) :
    ofDocument? l.document = some l := by
  cases l with
  | value v => rfl
  | instant i => simp [document, ofDocument?, Time.Instant.ofDocument?_document fit]
  | period p => simp [document, ofDocument?, Time.Period.ofDocument?_document fit.1 fit.2]
  | geometry g =>
    have read : Wkt.read? (Wkt.write g) = some g := fit
    simp [document, ofDocument?, Json.asString?, read]

end Literal

namespace Operand

def Representable : Operand → Prop
  | .property _ => True
  | .literal l => l.Representable

theorem ofDocument?_document {o : Operand} (fit : o.Representable) :
    ofDocument? o.document = some o := by
  cases o with
  | property name => rfl
  | literal l => simp [document, ofDocument?, Literal.ofDocument?_document fit]

end Operand

@[simp] theorem Comparison.ofText?_text (c : Comparison) : ofText? c.text = some c := by
  cases c <;> rfl

@[simp] theorem SpatialRelation.ofText?_text (r : SpatialRelation) : ofText? r.text = some r := by
  cases r <;> rfl

@[simp] theorem DistanceRelation.ofText?_text (r : DistanceRelation) : ofText? r.text = some r := by
  cases r <;> rfl

@[simp] theorem TemporalRelation.ofText?_text (r : TemporalRelation) : ofText? r.text = some r := by
  cases r <;> rfl

theorem Wildcards.ofDocument?_document (w : Wildcards) : ofDocument? w.document = some w := by
  have record : w.document.record? memberNames =
    some [("wildcard", Json.ofChar w.anyRun), ("single_char", Json.ofChar w.single),
      ("escape", Json.ofChar w.escape), ("match_case", .bool w.matchCase)] := rfl
  rw [ofDocument?, record]
  simp [Json.asChar?_ofChar, Json.asBool?]

namespace Predicate

def limit? : Predicate → Option Float
  | .distance _ _ _ limit _ => some limit
  | _ => none

/-- A document can say the predicate: all literals in its leaves, and no distance without bound. -/
def Representable (p : Predicate) : Prop :=
  ∀ leaf ∈ p.leaves, (∀ o ∈ leaf.operands, o.Representable) ∧
    ∀ limit, leaf.limit? = some limit → limit.isFinite = true

/-! ### Members -/

variable {inner : Bool} {kind : String} {names : List String} {members : Json.Members}

theorem parts?_tagged (known : shapes.find? (·.1 == kind) = some (kind, names)) :
    parts? inner (tagged kind members) = some (kind, ("op", .string kind) :: members) := by
  have tag : Json.Members.get? (("op", .string kind) :: members) "op" = some (.string kind) := rfl
  have shape : shape? inner (.string kind) = some (kind, names) := known
  simp [tagged, parts?, tag, shape]

theorem relation?_string {ofText? : String → Option α} (text : String) :
    relation? ofText? (.string text) = ofText? text := rfl

/-- A combination is read from its members, and every other predicate as a leaf. -/
theorem readAt_eq {document : Json} (parts : parts? inner document = some (kind, members)) :
    readAt inner document =
      if kind = "and" then (members.required "children" (Json.items? (readAt true))).map .and
      else if kind = "or" then (members.required "children" (Json.items? (readAt true))).map .or
      else if kind = "not" then (members.required "child" (readAt true)).map .not
      else readLeaf kind members := by
  rw [readAt]
  split
  · next missing =>
    rw [parts] at missing
    cases missing
  · next found =>
    rw [parts] at found
    cases found
    -- the two members that a combination reads; what surrounds them is the same on both sides
    refine congrArg₂ (fun (children : Option (List Predicate)) (child : Option Predicate) =>
      if kind = "and" then children.map Predicate.and
      else if kind = "or" then children.map Predicate.or
      else if kind = "not" then child else readLeaf kind members) ?_ ?_
    · unfold Json.Members.required
      split
      · next items found =>
        rw [found]
        simp [Json.items?]
      · next other =>
        cases found : members.get? "children" with
        | none => rfl
        | some value =>
          cases value with
          | array items => exact absurd found (other items)
          | _ => rfl
    · unfold Json.Members.required
      split
      · next value found => rw [found, Option.bind_some]
      · next missing => rw [missing, Option.bind_none, Option.map_none]

theorem readAt_leaf {p : Predicate} (leaf : p.isLeaf) (fit : p.Representable) :
    readAt inner p.document = some p := by
  obtain ⟨fits, finite⟩ := fit p (by simp [leaves_of_isLeaf leaf])
  have read (o : Operand) (member : o ∈ p.operands) : Operand.ofDocument? o.document = some o :=
    Operand.ofDocument?_document (fits o member)
  cases p with
  | everything => cases leaf
  | nothing => cases leaf
  | and => cases leaf
  | or => cases leaf
  | not => cases leaf
  | compare relation left right =>
    simp only [Predicate.operands, List.forall_mem_cons] at read
    rw [document, readAt_eq (parts?_tagged rfl)]
    simp [readLeaf, relation?_string, read]
  | between o lower upper =>
    simp only [Predicate.operands, List.forall_mem_cons] at read
    rw [document, readAt_eq (parts?_tagged rfl)]
    simp [readLeaf, read]
  | like o pattern wildcards =>
    simp only [Predicate.operands, List.forall_mem_cons] at read
    rw [document, readAt_eq (parts?_tagged rfl)]
    simp [readLeaf, Json.asString?, read, Wildcards.ofDocument?_document]
  | isNull o =>
    simp only [Predicate.operands, List.forall_mem_cons] at read
    rw [document, readAt_eq (parts?_tagged rfl)]
    simp [readLeaf, read]
  | ids identifiers =>
    rw [document, readAt_eq (parts?_tagged rfl)]
    simp [readLeaf, Json.asStrings?_strings]
  | spatial relation left right =>
    simp only [Predicate.operands, List.forall_mem_cons] at read
    rw [document, readAt_eq (parts?_tagged rfl)]
    simp [readLeaf, relation?_string, read]
  | distance relation left right limit units =>
    simp only [Predicate.operands, List.forall_mem_cons] at read
    rw [document, readAt_eq (parts?_tagged rfl)]
    simp [readLeaf, relation?_string, Json.asString?,
      Json.asFloat?_ofFloat (finite _ rfl), read]
  | temporal relation left right =>
    simp only [Predicate.operands, List.forall_mem_cons] at read
    rw [document, readAt_eq (parts?_tagged rfl)]
    simp [readLeaf, relation?_string, read]

theorem documents_eq_map (children : List Predicate) : documents children = children.map document := by
  induction children with
  | nil => rfl
  | cons child rest ih => rw [documents, ih, List.map_cons]

theorem Representable.of_leaves {p child : Predicate} (fit : p.Representable)
    (part : child.leaves ⊆ p.leaves) : child.Representable :=
  fun leaf below => fit leaf (part below)

/-- Every predicate is read back, alone or within another one. -/
theorem readAt_document {p : Predicate} (fit : p.Representable) (inner : Bool) :
    readAt inner p.document = some p := by
  have items {children : List Predicate}
      (each : ∀ child ∈ children, readAt true child.document = some child) :
      Json.items? (readAt true) (.array (documents children)) = some children := by
    rw [documents_eq_map]
    exact Json.mapM_map each
  induction p using tree_induction generalizing inner with
  | everything =>
    rw [document, readAt_eq (parts?_tagged rfl)]
    rfl
  | nothing =>
    rw [document, readAt_eq (parts?_tagged rfl)]
    rfl
  | and children ih =>
    have each (child : Predicate) (member : child ∈ children) :
        readAt true child.document = some child :=
      ih child member (fit.of_leaves (leaves_subset_and member)) true
    rw [document, readAt_eq (parts?_tagged rfl)]
    simp [items each]
  | or children ih =>
    have each (child : Predicate) (member : child ∈ children) :
        readAt true child.document = some child :=
      ih child member (fit.of_leaves (leaves_subset_or member)) true
    rw [document, readAt_eq (parts?_tagged rfl)]
    simp [items each]
  | not child ih =>
    rw [document, readAt_eq (parts?_tagged rfl)]
    simp [ih fit true]
  | leaf p leaf => exact readAt_leaf leaf fit

/-- Reading gives a predicate back from its document, and no two predicates have the same text. -/
theorem round_trip {p : Predicate} (fit : p.Representable) :
    ofDocument? p.document = some p ∧
      ∀ q : Predicate, q.Representable → q.text = p.text → q = p := by
  have legible {q : Predicate} (fit : q.Representable) : q.Legible := readAt_document fit false
  refine ⟨legible fit, ?_⟩
  intro q other same
  exact (legible other).inj (legible fit) (Json.text_inj same)

/-- A leap second, a year of five digits, an area and a document under all three combinations. -/
theorem combinations_are_read_back :
    let leapSecond : Time.Instant := ⟨1483228799, 1500000000⟩
    let yearTenThousand : Time.Instant := ⟨253402300800, 7000⟩
    let area : Geometry Float := .polygon ⟨[⟨0, 0⟩, ⟨1.5, 0⟩, ⟨0, -2⟩, ⟨0, 0⟩], []⟩
    let p : Predicate := .or
      [.and [.everything,
          .temporal .during (.property "at") (.literal (.period ⟨leapSecond, yearTenThousand⟩))],
        .not (.distance .within (.literal (.geometry area)) (.property "outline") 0.1 "km"),
        .compare .unequal (.property "a\"b") (.literal (.value (.object [("value", .null)])))]
    p.Representable ∧ ofDocument? p.document = some p ∧
      ∀ q : Predicate, q.Representable → q.text = p.text → q = p := by
  intro leapSecond yearTenThousand area p
  have leap : leapSecond.Valid := ⟨by decide, by decide⟩
  have late : yearTenThousand.Valid := ⟨by decide, by decide⟩
  have written : Wkt.write area = "POLYGON((0 0,1.5 0,0 -2,0 0))" := by decide +kernel
  have read : Wkt.read? (Wkt.write area) = some area := by
    rw [written]
    rfl
  have fit : p.Representable := by
    intro leaf member
    simp only [p, leaves, allLeaves, List.append_nil, List.nil_append, List.singleton_append,
      List.mem_cons, List.not_mem_nil, or_false] at member
    rcases member with rfl | rfl | rfl
    · simp [Predicate.operands, Operand.Representable, Literal.Representable, leap, late, limit?]
    · simp only [Predicate.operands, List.forall_mem_cons, limit?, Option.some.injEq]
      refine ⟨⟨read, trivial, List.forall_mem_nil _⟩, ?_⟩
      rintro limit rfl
      decide
    · simp [Predicate.operands, Operand.Representable, Literal.Representable, limit?]
  exact ⟨fit, round_trip fit⟩

end Predicate

end GeoSearch

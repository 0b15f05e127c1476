import GeoSearch.Query.Clause
import GeoSearch.Document.Lookup
import GeoSearch.Document.Order
/-!
The documents that a query selects. Terms and ranges compare stored values with those of the query, and
a boolean query asks for all, one or none of its clauses. How values compare, and what an envelope asks
for, is up to the rules of an index.
-/
namespace GeoSearch

/-- How an index reads the clauses that are its own affair: patterns, geometries, and what callers
wrote in its language. -/
structure Reading where
  special : Clause → Json → Bool
  native : Json → String → Json → Bool

/-- Such clauses select nothing. -/
def Reading.blank : Reading := ⟨fun _ _ => false, fun _ _ _ => false⟩

/-- The value that a document stores may stand in this order to the end of a range. -/
def Limit.admits : Limit → Ordering → Bool
  | above, o => o == .gt
  | atLeast, o => o != .lt
  | below, o => o == .lt
  | atMost, o => o != .gt

structure Rules where
  /-- how a stored value stands to one of a query -/
  order? : Json → Json → Option Ordering
  /-- whether a document has, at a path, what an envelope asks for -/
  inside : String → (Json → Bool) → Json → Bool

namespace Rules

/-- Values compare as predicates compare them, and an envelope is read as its content. -/
def plain : Rules := ⟨Document.order?, fun _ asked => asked⟩

@[simp] theorem order?_plain : plain.order? = Document.order? := rfl

@[simp] theorem inside_plain (path : String) (asked : Json → Bool) :
    plain.inside path asked = asked := rfl

variable (rules : Rules) (source : Json) (field : String)

def hasTerm (value : Json) : Bool :=
  (Document.lookup source field).any fun v => rules.order? v value == some .eq

/-- One value of the field lies within all limits. -/
def hasInRange (limits : List (Limit × Json)) : Bool :=
  (Document.lookup source field).any fun v =>
    limits.all fun (limit, bound) => (rules.order? v bound).any limit.admits

end Rules

namespace Clause

section

variable (rules : Rules) (r : Reading) (id : String)

mutual

/-- Whether a query selects the document of this identifier. A native query that is the query of
everything selects everything. -/
def selectsBy : Clause → Json → Bool
  | .matchAll, _ => true
  | .term field value, source => rules.hasTerm source field value
  | .range field limits, source => rules.hasInRange source field limits
  | .present field, source => !(Document.lookup source field).isEmpty
  | .ids identifiers, _ => identifiers.contains id
  | .must clauses, source => allSelect clauses source
  | .should clauses, source => anySelects clauses source
  | .mustNot clause, source => !selectsBy clause source
  | .filtered clause, source => selectsBy clause source
  | .nested path clause, source => rules.inside path (selectsBy clause) source
  | .native query, source => (Clause.native query).isMatchAll || r.native query id source
  | special, source => r.special special source

def allSelect : List Clause → Json → Bool
  | [], _ => true
  | clause :: rest, source => selectsBy clause source && allSelect rest source

def anySelects : List Clause → Json → Bool
  | [], _ => false
  | clause :: rest, source => selectsBy clause source || anySelects rest source

end

theorem allSelect_eq_all (clauses : List Clause) (source : Json) :
    allSelect rules r id clauses source = clauses.all fun c => selectsBy rules r id c source := by
  induction clauses with
  | nil => rfl
  | cons c rest ih => exact congrArg (selectsBy rules r id c source && ·) ih

theorem anySelects_eq_any (clauses : List Clause) (source : Json) :
    anySelects rules r id clauses source = clauses.any fun c => selectsBy rules r id c source := by
  induction clauses with
  | nil => rfl
  | cons c rest ih => exact congrArg (selectsBy rules r id c source || ·) ih

end

variable (r : Reading) (id : String) (source : Json)

def selects (clause : Clause) : Bool := selectsBy .plain r id clause source

/-! ### What combined queries select -/

@[simp] theorem selects_matchAll : selects r id source .matchAll = true := rfl

@[simp] theorem selects_term (field : String) (value : Json) :
    selects r id source (.term field value) = Rules.plain.hasTerm source field value := rfl

@[simp] theorem selects_range (field : String) (limits : List (Limit × Json)) :
    selects r id source (.range field limits) = Rules.plain.hasInRange source field limits := rfl

@[simp] theorem selects_present (field : String) :
    selects r id source (.present field) = !(Document.lookup source field).isEmpty := rfl

@[simp] theorem selects_mustNot (c : Clause) :
    selects r id source (.mustNot c) = !selects r id source c := rfl

@[simp] theorem selects_must (cs : List Clause) :
    selects r id source (.must cs) = cs.all (selects r id source) :=
  allSelect_eq_all .plain r id cs source

@[simp] theorem selects_should (cs : List Clause) :
    selects r id source (.should cs) = cs.any (selects r id source) :=
  anySelects_eq_any .plain r id cs source

@[simp] theorem selects_within (path : Option String) (c : Clause) :
    selects r id source (within path c) = selects r id source c := by
  cases path <;> rfl

/-- Of all clauses only the query of everything has its document, and a native query that is
written so. -/
theorem selects_of_isMatchAll {c : Clause} (everything : c.isMatchAll = true) :
    selects r id source c = true := by
  cases c with
  | matchAll => simp
  | native query =>
    change ((Clause.native query).isMatchAll || r.native query id source) = true
    rw [everything]
    rfl
  | _ =>
    simp [isMatchAll, document, onField, nearDocument, only, matchAllDocument, Json.same,
      Json.sameMembers, List.lookup_cons] at everything

/-- Leaving out a query of everything changes nothing. -/
@[simp] theorem selects_both (a b : Clause) :
    selects r id source (both a b) = (selects r id source a && selects r id source b) := by
  unfold both
  split
  · next everything => simp [selects_of_isMatchAll r id source everything]
  · split
    · next everything => simp [selects_of_isMatchAll r id source everything]
    · simp

end Clause

end GeoSearch

import GeoSearch.Query.Compile
import GeoSearch.Query.Selection
/-!
Clauses on values of one kind, as an index reads them that knows the kind. Stored dates are compared as
instants, once they and the bounds of a clause are read alike. Stored integers are compared as they are.
A regular expression is held against the whole of a stored text, and case counts.
-/
namespace GeoSearch

/-! ### Dates -/

def Attribute.dateOrder? (a : Attribute) (stored bound : Json) : Option Ordering := do
  some ((← a.readDate? stored).compare (← a.readDate? bound))

def Attribute.dates (a : Attribute) (source : Json) : List Time.Instant :=
  (Document.lookup source a.field).filterMap a.readDate?

/-- What an index reads where a clause states a date. -/
def Attribute.bound? (a : Attribute) (i : Time.Instant) : Option Time.Instant :=
  a.readDate? (a.dateValue i)

def Attribute.Stores (a : Attribute) (i : Time.Instant) : Prop := ∃ v, a.readDate? v = some i

/-- Stored dates are compared with those of a query as the attribute reads both. -/
def Rules.dated (a : Attribute) : Rules := { Rules.plain with order? := a.dateOrder? }

@[simp] theorem Rules.order?_dated (a : Attribute) : (Rules.dated a).order? = a.dateOrder? := rfl

namespace Clause

variable (a : Attribute)

def selectsDated (clause : Clause) (source : Json) : Bool := selectsBy (.dated a) .blank "" clause source

variable (source : Json)

@[simp] theorem selectsDated_term (field : String) (value : Json) :
    selectsDated a (.term field value) source =
      (Document.lookup source field).any fun v => a.dateOrder? v value == some .eq := rfl

@[simp] theorem selectsDated_range (field : String) (limits : List (Limit × Json)) :
    selectsDated a (.range field limits) source =
      (Document.lookup source field).any fun v =>
        limits.all fun (limit, bound) => (a.dateOrder? v bound).any limit.admits := rfl

@[simp] theorem selectsDated_mustNot (c : Clause) :
    selectsDated a (.mustNot c) source = !selectsDated a c source := rfl

end Clause

/-- Among the documents with nothing but dates at an attribute, the query of a predicate selects all
that the predicate holds of. -/
def Predicate.LosesNoDate (type : FeatureType) (a : Attribute) (p : Predicate) : Prop :=
  ∀ id source, (∀ v ∈ Document.lookup source a.field, (a.readDate? v).isSome = true) →
    p.holds type id source = true → (p.compile type).clause.selectsDated a source = true

/-! ### Integers -/

/-- The integers that a document can hold as such: those of 64 bits, signed or not. -/
def Json.Number.InRange (n : Int) : Prop := -9223372036854775808 ≤ n ∧ n ≤ 18446744073709551615

instance (n : Int) : Decidable (Json.Number.InRange n) := inferInstanceAs (Decidable (_ ∧ _))

/-- How a stored integer stands to a bound. -/
def Document.integerOrder? : Json → Json → Option Ordering
  | .number (.integer stored), .number (.integer bound) => some (compare stored bound)
  | _, _ => none

def Rules.integers : Rules := { Rules.plain with order? := Document.integerOrder? }

@[simp] theorem Rules.order?_integers : Rules.integers.order? = Document.integerOrder? := rfl

namespace Clause

def selectsIntegers (clause : Clause) (source : Json) : Bool :=
  selectsBy .integers .blank "" clause source

variable (source : Json)

@[simp] theorem selectsIntegers_term (field : String) (value : Json) :
    selectsIntegers (.term field value) source =
      (Document.lookup source field).any fun v => Document.integerOrder? v value == some .eq := rfl

@[simp] theorem selectsIntegers_range (field : String) (limits : List (Limit × Json)) :
    selectsIntegers (.range field limits) source =
      (Document.lookup source field).any fun v =>
        limits.all fun (limit, bound) => (Document.integerOrder? v bound).any limit.admits := rfl

@[simp] theorem selectsIntegers_mustNot (c : Clause) :
    selectsIntegers (.mustNot c) source = !selectsIntegers c source := rfl

@[simp] theorem selectsIntegers_within (path : Option String) (c : Clause) :
    selectsIntegers (within path c) source = selectsIntegers c source := by
  cases path <;> rfl

end Clause

/-! ### Texts -/

namespace Regexp

/-- Characters with a meaning of their own, unless they follow a backslash. -/
def operators : List Char :=
  ['.', '?', '+', '*', '|', '\x7b', '\x7d', '[', ']', '(', ')', '"', '\\', '#', '@', '&', '<', '>',
    '~']

/-- An expression accepts a text. Of the operators only the backslash, the dot and the dot before a
star have a reading here; an expression with another one accepts nothing by it. -/
inductive Accepts : (expression text : List Char) → Prop where
  | nil : Accepts [] []
  | escaped (c : Char) : Accepts rest text → Accepts ('\\' :: c :: rest) (c :: text)
  | anyRun (run : List Char) : Accepts rest text → Accepts ('.' :: '*' :: rest) (run ++ text)
  | any (c : Char) : rest.head? ≠ some '*' → Accepts rest text → Accepts ('.' :: rest) (c :: text)
  | plain (c : Char) : c ∉ operators → Accepts rest text → Accepts (c :: rest) (c :: text)

def Finds (source : Json) (field expression : String) : Prop :=
  ∃ text, .string text ∈ Document.lookup source field ∧ Accepts expression.toList text.toList

end Regexp

end GeoSearch

import GeoSearch.Json.Number
/-!
JSON documents. An object keeps its members in order of first arrival; two objects are the same
when they hold the same members in any order.
-/
namespace GeoSearch

inductive Json where
  | null
  | bool (value : Bool)
  | number (value : Json.Number)
  | string (value : String)
  | array (items : List Json)
  | object (members : List (String × Json))
  deriving Inhabited

namespace Json

abbrev Members := List (String × Json)

def ofNat (n : Nat) : Json := .number (.integer n)

def ofInt (n : Int) : Json := .number (.integer n)

/-- Documents have no infinity and no NaN: both are written as null. -/
def ofFloat (x : Float) : Json := if x.isFinite then .number (.float x) else .null

def ofOption (write : α → Json) : Option α → Json
  | some value => write value
  | none => .null

def strings (texts : List String) : Json := .array (texts.map .string)

def isNull : Json → Bool
  | .null => true
  | _ => false

def asString? : Json → Option String
  | .string s => some s
  | _ => none

def asObject? : Json → Option Members
  | .object members => some members
  | _ => none

def asArray? : Json → Option (List Json)
  | .array items => some items
  | _ => none

def asFloat? : Json → Option Float
  | .number n => some n.toFloat
  | _ => none

/-- Numbers of the unsigned 64-bit range that were written as integers. -/
def asUnsigned? : Json → Option Nat
  | .number (.integer n) => if 0 ≤ n then some n.toNat else none
  | _ => none

/-! ### Members -/

namespace Members

def get? (members : Members) (key : String) : Option Json := members.lookup key

def has (members : Members) (key : String) : Bool := (get? members key).isSome

/-- Writes a member: in place when the key is present, at the end when it is new. -/
def put (members : Members) (key : String) (value : Json) : Members :=
  match members with
  | [] => [(key, value)]
  | (k, v) :: rest => if k = key then (k, value) :: rest else (k, v) :: put rest key value

@[simp] theorem get?_put_self (members : Members) (key : String) (value : Json) :
    get? (put members key value) key = some value := by
  induction members with
  | nil => simp [put, get?]
  | cons member rest ih =>
    obtain ⟨k, v⟩ := member
    by_cases h : k = key
    · simp [put, get?, h]
    · have h' : (key == k) = false := by simpa using fun e => h e.symm
      simp only [put, h, if_false]
      simpa [get?, List.lookup_cons, h'] using ih

end Members

def member? (document : Json) (key : String) : Option Json :=
  match document with
  | .object members => Members.get? members key
  | _ => none

mutual

/-- Sameness of documents, where the order of members does not count. -/
def same : Json → Json → Bool
  | .null, .null => true
  | .bool a, .bool b => a == b
  | .number a, .number b => a.same b
  | .string a, .string b => a == b
  | .array a, .array b => sameItems a b
  | .object a, .object b => a.length == b.length && sameMembers a b
  | _, _ => false

def sameItems : List Json → List Json → Bool
  | [], [] => true
  | a :: as, b :: bs => same a b && sameItems as bs
  | _, _ => false

def sameMembers : List (String × Json) → List (String × Json) → Bool
  | [], _ => true
  | (k, v) :: rest, others =>
    (match others.lookup k with
      | some w => same v w
      | none => false) && sameMembers rest others

end

mutual

/-- Where a key occurs more than once in an object, the first place holds the last value. -/
def merged : Json → Json
  | .array items => .array (mergedItems items)
  | .object members => .object (mergedMembers [] members)
  | other => other

def mergedItems : List Json → List Json
  | [] => []
  | item :: rest => merged item :: mergedItems rest

def mergedMembers (done : Members) : List (String × Json) → Members
  | [] => done
  | (k, v) :: rest => mergedMembers (Members.put done k (merged v)) rest

end

end Json

end GeoSearch

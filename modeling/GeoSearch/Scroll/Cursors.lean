import GeoSearch.Scroll.Cursor
/-!
Cursors side by side. Any number of cursors, each known by a number, are opened, read, advanced and
released at one index in any order.
-/
namespace GeoSearch

inductive Cursor.Use where
  | open (keepMillis : Nat) (index : String) (request : SearchRequest) (maxHits : Nat)
  | read
  | advance
  | release

/-- A cursor, as its reader sees it. -/
structure Cursor.Face where
  /-- the hits that are still to be read -/
  hits : List Hit
  isFinal : Bool

def Cursor.face (c : Cursor) : Face where
  hits := c.batch
  isFinal := c.isFinal

structure Cursors (σ : Type) where
  connection : Connection σ
  at? : Nat → Option Cursor := fun _ => none
  /-- what the last use of a cursor failed with -/
  failure? : Nat → Option BackendError := fun _ => none

namespace Cursors

def set (cs : Cursors σ) (id : Nat) (connection : Connection σ) (cursor? : Option Cursor)
    (failure? : Option BackendError) : Cursors σ where
  connection
  at? other := if other = id then cursor? else cs.at? other
  failure? other := if other = id then failure? else cs.failure? other

def use (b : Backend σ) (cs : Cursors σ) (id : Nat) : Cursor.Use → Cursors σ
  | .open keepMillis index request maxHits =>
    match Cursor.open? b keepMillis index request maxHits cs.connection with
    | (.ok c, k) => cs.set id k (some c) none
    | (.error e, k) => cs.set id k none (some e)
  | .read =>
    cs.set id cs.connection ((cs.at? id).map fun c => { c with batch := c.batch.tail }) none
  | .advance =>
    match cs.at? id with
    | none => cs
    | some c =>
      match c.advance b cs.connection with
      | (.ok _, c, k) => cs.set id k (some c) none
      | (.error e, c, k) => cs.set id k (some c) (some e)
  | .release =>
    match cs.at? id with
    | none => cs
    | some c => cs.set id (c.release b cs.connection).2 (some (c.release b cs.connection).1) none

def useAll (b : Backend σ) (cs : Cursors σ) (uses : List (Nat × Cursor.Use)) : Cursors σ :=
  uses.foldl (fun cs use => cs.use b use.1 use.2) cs

/-- The cursors at an index, after these uses. -/
def after (b : Backend σ) (index : σ) (uses : List (Nat × Cursor.Use)) : Cursors σ :=
  useAll b { connection := { state := index } } uses

/-- What the last use of a cursor failed with, and how the cursor is seen then. -/
def seen (cs : Cursors σ) (id : Nat) : Option BackendError × Option Cursor.Face :=
  (cs.failure? id, (cs.at? id).map Cursor.face)

end Cursors

def Cursor.history (uses : List (Nat × Cursor.Use)) (id : Nat) : List Cursor.Use :=
  (uses.filter fun use => use.1 == id).map (·.2)

/-- The answers of the index for one cursor do not depend on the others: each cursor is seen as if
there were no other. -/
def Backend.Independent (b : Backend σ) (index : σ) : Prop :=
  ∀ uses id, (Cursors.after b index uses).seen id =
    (Cursors.after b index ((Cursor.history uses id).map fun use => (0, use))).seen 0

end GeoSearch

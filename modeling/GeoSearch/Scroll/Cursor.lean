import GeoSearch.Search.Connection
import GeoSearch.Text.Sorted
/-!
Cursors. A cursor owns one scroll of the index: it holds the batch that is being read, how many hits
it may still take, and every identifier the index gave for the scroll, so that all of them are
released together and once.

A cursor is active, then exhausted, then closed. One whose first batch fills its budget starts out
exhausted.
-/
namespace GeoSearch

inductive Cursor.Phase where
  /-- more batches may follow -/
  | active
  /-- the last batch has been fetched -/
  | exhausted
  /-- the scroll was released -/
  | closed
  deriving Repr, DecidableEq

structure Cursor where
  /-- the time for which the index keeps the scroll between batches -/
  keepMillis : Nat
  /-- the hits of the batch that are still to be read -/
  batch : List Hit := []
  /-- the number of hits the batch started with -/
  batchSize : Nat := 0
  /-- hits in all batches so far -/
  taken : Nat := 0
  /-- the limit of hits -/
  budget : Nat
  /-- the identifier that was given last -/
  nextId : Option String := none
  /-- the identifiers given so far, in order and each once -/
  ids : List String := []
  phase : Cursor.Phase := .active

namespace Cursor

/-- No batch will follow. -/
def isFinal (c : Cursor) : Bool := c.phase != .active

/-- The identifier of a response becomes the one to continue with. -/
def identify (c : Cursor) : Option String → Cursor
  | some id => { c with nextId := some id, ids := Text.insertSorted id c.ids }
  | none => c

/-- Takes the hits of a response as the next batch, as many as the budget leaves room for. A batch
that uses the budget up, or has no hits, is the last. -/
def take (c : Cursor) (r : SearchResponse) : Cursor :=
  let room := c.budget - c.taken
  let batch := r.hits.take room
  { c.identify r.scrollId with
    batch
    batchSize := batch.length
    taken := c.taken + batch.length
    phase := if room ≤ r.hits.length || r.hits.isEmpty then .exhausted else c.phase }

/-- A cursor from the answer to the search that opened its scroll. -/
def ofResponse (keepMillis : Nat) (r : SearchResponse) (budget : Nat) : Cursor :=
  ({ keepMillis, budget } : Cursor).take r

/-- Searches and takes the first batch. The budget is at most the total that the index states. -/
def open? (b : Backend σ) (keepMillis : Nat) (index : String) (request : SearchRequest)
    (maxHits : Nat) (k : Connection σ) : Except BackendError Cursor × Connection σ :=
  match k.search b index request with
  | (.ok r, k) => (.ok (ofResponse keepMillis r (min maxHits r.total)), k)
  | (.error e, k) => (.error e, k)

/-- Fetches the next batch in place of the current one, read or not. Whether there was one to fetch:
a cursor that is not active, or has no identifier to continue with, makes no call. -/
def advance (b : Backend σ) (c : Cursor) (k : Connection σ) :
    Except BackendError Bool × Cursor × Connection σ :=
  if c.isFinal then (.ok false, c, k)
  else
    match c.nextId with
    | none => (.ok false, { c with phase := .exhausted, batch := [], batchSize := 0 }, k)
    | some id =>
      match k.resume b id c.keepMillis with
      | (.error e, k) => (.error e, c, k)
      | (.ok r, k) => (.ok true, c.take r, k.report (.scrollAdvanced id (c.take r).taken))

def next? (c : Cursor) : Option (Hit × Cursor) :=
  match c.batch with
  | hit :: rest => some (hit, { c with batch := rest })
  | [] => none

def close (c : Cursor) : Cursor := { c with phase := .closed, batch := [] }

/-- Releases the scroll, unless that was done before or there is nothing to release. -/
def release (b : Backend σ) (c : Cursor) (k : Connection σ) : Cursor × Connection σ :=
  (c.close, if c.phase = .closed || c.ids.isEmpty then k else k.release b c.ids)

/-- The calls that are still to be made for the cursor: one, with all its identifiers, if it has any
and was not released before. -/
def owed (c : Cursor) : List (List String) :=
  if c.phase = .closed || c.ids.isEmpty then [] else [c.ids]

/-- The cursor with nothing of its batch left to read. -/
def readOut (c : Cursor) : Cursor := { c with batch := [] }

/-- An active cursor was advanced once on each of the connections, in their order, and each time that
succeeded. -/
inductive Advanced (b : Backend σ) (opened : Cursor) : List (Connection σ) → Cursor → Prop where
  | opened : Advanced b opened [] opened
  | advance {ks : List (Connection σ)} {k l : Connection σ} {c d : Cursor} {fetched : Bool}
      (before : Advanced b opened ks c) (active : c.isFinal = false)
      (advanced : c.advance b k = (.ok fetched, d, l)) : Advanced b opened (ks ++ [k]) d

def bound (c : Cursor) : Nat := c.batch.length + (c.budget - c.taken)

theorem bound_take_le (c : Cursor) (r : SearchResponse) : (c.take r).bound ≤ c.bound := by
  unfold bound take
  cases r.scrollId <;> simp [identify, List.length_take] <;> omega

theorem bound_advance_le (b : Backend σ) (c : Cursor) (k : Connection σ) :
    (c.advance b k).2.1.bound ≤ c.bound := by
  unfold advance
  split
  · exact Nat.le_refl _
  · split
    · simp [bound]
    · split
      · exact Nat.le_refl _
      · exact bound_take_le _ _

theorem bound_next? {c d : Cursor} {hit : Hit} (h : c.next? = some (hit, d)) :
    d.bound < c.bound := by
  unfold next? at h
  split at h
  · next rest e =>
    cases h
    simp [bound, e]
  · cases h

end Cursor

end GeoSearch

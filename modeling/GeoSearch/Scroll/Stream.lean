import GeoSearch.Scroll.Cursor
/-!
Streams of hits. A stream reads all batches of a cursor, one after the other, and releases the
scroll as soon as its end is seen or a batch cannot be fetched. Hits are taken in a row, as many as are
wanted or as there are.
-/
namespace GeoSearch

structure HitStream where
  cursor : Cursor
  finished : Bool := false

namespace HitStream

def finish (b : Backend σ) (s : HitStream) (k : Connection σ) : HitStream × Connection σ :=
  let (cursor, k) := s.cursor.release b k
  ({ cursor, finished := true }, k)

/-- What the batch just fetched gives. One without hits is the last. -/
def nextFetched (b : Backend σ) (c : Cursor) (k : Connection σ) :
    Option (Except BackendError Hit) × HitStream × Connection σ :=
  match c.next? with
  | some (hit, c) => (some (.ok hit), { cursor := c }, k)
  | none => (none, finish b { cursor := c } k)

/-- The next hit; nothing at the end. An error is given once, and ends the stream. -/
def next (b : Backend σ) (s : HitStream) (k : Connection σ) :
    Option (Except BackendError Hit) × HitStream × Connection σ :=
  if s.finished then (none, s, k)
  else
    match s.cursor.next? with
    | some (hit, c) => (some (.ok hit), { s with cursor := c }, k)
    | none =>
      if s.cursor.isFinal then (none, s.finish b k)
      else
        match s.cursor.advance b k with
        | (.ok _, c, k) => nextFetched b c k
        | (.error e, c, k) => (some (.error e), finish b { s with cursor := c } k)

/-- Each hit leaves fewer to come, so that reading a stream ends. -/
theorem bound_next {b : Backend σ} {s t : HitStream} {k l : Connection σ} {hit : Hit}
    (h : s.next b k = (some (.ok hit), t, l)) : t.cursor.bound < s.cursor.bound := by
  unfold next at h
  split at h
  · cases h
  · split at h
    · next e =>
      cases h
      exact Cursor.bound_next? e
    · split at h
      · cases h
      · split at h
        · next c k' e =>
          have hle : c.bound ≤ s.cursor.bound := by
            have := Cursor.bound_advance_le b s.cursor k
            rwa [e] at this
          unfold nextFetched at h
          split at h
          · next e' =>
            cases h
            exact Nat.lt_of_lt_of_le (Cursor.bound_next? e') hle
          · cases h
        · cases h

end HitStream

structure Taken where
  hits : List Hit := []
  /-- there were no more -/
  ended : Bool := false
  /-- why there may be more that could not be had -/
  failure : Option BackendError := none

def oneLess (limit : Option Nat) : Option Nat := limit.map (· - 1)

/-- Takes hits until the limit is reached, the end is seen or one cannot be had. What is read from
must come closer to its end with every hit. -/
def takeHits (next : α → Connection σ → Option (Except BackendError Hit) × α × Connection σ)
    (bound : α → Nat)
    (closer : ∀ {a k hit a' k'}, next a k = (some (.ok hit), a', k') → bound a' < bound a)
    (limit : Option Nat) (a : α) (k : Connection σ) : Taken × α × Connection σ :=
  if limit = some 0 then ({}, a, k)
  else
    match h : next a k with
    | (none, a, k) => ({ ended := true }, a, k)
    | (some (.error e), a, k) => ({ failure := some e }, a, k)
    | (some (.ok hit), a, k) =>
      have := closer h
      let (taken, a, k) := takeHits next bound closer (oneLess limit) a k
      ({ taken with hits := hit :: taken.hits }, a, k)
termination_by bound a

namespace Cursor

/-- Takes hits of the batch only. -/
def takeHits (limit : Option Nat) (c : Cursor) : Taken × Cursor :=
  match limit with
  | none => ({ hits := c.batch, ended := true }, { c with batch := [] })
  | some n =>
    ({ hits := c.batch.take n, ended := c.batch.length < n }, { c with batch := c.batch.drop n })

end Cursor

namespace HitStream

def takeHits (b : Backend σ) : Option Nat → HitStream → Connection σ → Taken × HitStream × Connection σ :=
  GeoSearch.takeHits (next b) (·.cursor.bound) bound_next

end HitStream

end GeoSearch

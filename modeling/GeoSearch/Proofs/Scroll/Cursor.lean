import GeoSearch.Scroll.Cursor
/-!
What a cursor does to the calls of its connection, and what of it decides about the next batch: all
but the hits that are still to be read.
-/
namespace GeoSearch.Cursor

variable {b : Backend σ} {c d e : Cursor} {k l : Connection σ}

theorem owed_of_phase (unreleased : c.phase ≠ .closed) :
    c.owed = [c.ids].filter fun ids => !ids.isEmpty := by
  cases none : c.ids.isEmpty <;> simp [owed, unreleased, none]

@[simp] theorem releases_release (b : Backend σ) (c : Cursor) (k : Connection σ) :
    (c.release b k).2.releases = k.releases ++ c.owed := by
  unfold release owed
  split <;> simp

@[simp] theorem releases_advance (b : Backend σ) (c : Cursor) (k : Connection σ) :
    (c.advance b k).2.2.releases = k.releases := by
  unfold advance
  split
  · rfl
  · split
    · rfl
    · next id _ =>
      have kept := Connection.releases_resume k b id c.keepMillis
      split <;> simp_all

theorem phase_take (r : SearchResponse) (unreleased : c.phase ≠ .closed) :
    (c.take r).phase ≠ .closed := by
  unfold take
  dsimp only
  split
  · simp
  · exact unreleased

theorem phase_advance (b : Backend σ) (k : Connection σ) (unreleased : c.phase ≠ .closed) :
    (c.advance b k).2.1.phase ≠ .closed := by
  unfold advance
  split
  · exact unreleased
  · split
    · simp
    · split
      · exact unreleased
      · exact phase_take _ unreleased

/-- The identifiers are those given before and the one of the response. -/
theorem mem_ids_take {id : String} (c : Cursor) (r : SearchResponse) :
    id ∈ (c.take r).ids ↔ id ∈ c.ids ∨ r.scrollId = some id := by
  cases given : r.scrollId with
  | none => simp [take, identify, given]
  | some other =>
    have ids : (c.take r).ids = Text.insertSorted other c.ids := by simp [take, identify, given]
    rw [ids, Text.mem_insertSorted, Option.some.injEq, or_comm]
    exact or_congr_right eq_comm

theorem ids_advance (b : Backend σ) (c : Cursor) (k : Connection σ) :
    c.ids ⊆ (c.advance b k).2.1.ids := by
  unfold advance
  split
  · exact List.Subset.refl _
  · split
    · exact List.Subset.refl _
    · split
      · exact List.Subset.refl _
      · exact fun id known => (mem_ids_take c _).mpr (.inl known)

theorem open?_ok {keepMillis : Nat} {index : String} {request : SearchRequest} {maxHits : Nat}
    (opened : open? b keepMillis index request maxHits k = (.ok c, l)) :
    c.phase ≠ .closed ∧ l.releases = k.releases := by
  have kept := Connection.releases_search k b index request
  unfold open? at opened
  split at opened
  · next r _ found =>
    cases opened
    exact ⟨phase_take r (by simp), by rw [found] at kept; exact kept⟩
  · cases opened

theorem open?_error {keepMillis : Nat} {index : String} {request : SearchRequest} {maxHits : Nat}
    {error : BackendError}
    (failed : open? b keepMillis index request maxHits k = (.error error, l)) :
    l.releases = k.releases := by
  have kept := Connection.releases_search k b index request
  unfold open? at failed
  split at failed
  · cases failed
  · next found =>
    cases failed
    rw [found] at kept
    exact kept

theorem next?_some {hit : Hit} (read : c.next? = some (hit, d)) :
    d.phase = c.phase ∧ d.ids = c.ids ∧ d.readOut = c.readOut := by
  unfold next? at read
  split at read <;> cases read
  exact ⟨rfl, rfl, rfl⟩

theorem take_readOut (c : Cursor) (r : SearchResponse) : c.readOut.take r = c.take r := by
  cases id : r.scrollId <;> simp [take, identify, readOut, id]

/-- Whether a cursor that moves on left hits behind makes no difference. -/
theorem advance_readOut (same : c.readOut = d.readOut) (active : c.isFinal = false)
    (advanced : c.advance b k = (.ok fetched, e, l)) : d.advance b k = (.ok fetched, e, l) := by
  have idle : d.isFinal = false := (congrArg isFinal same).symm.trans active
  have id : c.nextId = d.nextId := (congrArg nextId same :)
  have keep : c.keepMillis = d.keepMillis := (congrArg keepMillis same :)
  have taken (r : SearchResponse) : c.take r = d.take r := by
    rw [← take_readOut c, same, take_readOut]
  have stopped : ({ c with phase := .exhausted, batch := [], batchSize := 0 } : Cursor) =
      { d with phase := .exhausted, batch := [], batchSize := 0 } :=
    congrArg (fun c => { c with phase := .exhausted, batchSize := 0 }) same
  unfold advance at advanced ⊢
  rw [if_neg (by simp [active]), stopped, id, keep] at advanced
  rw [if_neg (by simp [idle])]
  cases next : d.nextId with
  | none => simpa only [next] using advanced
  | some id =>
    simp only [next] at advanced ⊢
    rcases answer : k.resume b id d.keepMillis with ⟨_ | r, m⟩
    · simp [answer] at advanced
    · simpa only [answer, taken] using advanced

end GeoSearch.Cursor

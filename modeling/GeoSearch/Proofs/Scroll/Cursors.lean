import GeoSearch.Proofs.Paging.Alike
import GeoSearch.Scroll.Cursors
/-!
Cursors side by side. A use of one cursor leaves the others where they are, so each is known by its
own uses if the index does not mix them up.
-/
namespace GeoSearch

namespace Cursor

variable {uses more : List (Nat × Use)} {id other : Nat}

theorem history_append (uses more : List (Nat × Use)) (id : Nat) :
    history (uses ++ more) id = history uses id ++ history more id := by
  simp [history]

theorem history_eq_nil (apart : ∀ use ∈ uses, use.1 ≠ id) : history uses id = [] := by
  have none : (uses.filter fun use => use.1 == id) = [] :=
    List.filter_eq_nil_iff.mpr fun use member => by simpa using apart use member
  rw [history, none]
  rfl

theorem history_cons_self (use : Use) : history ((id, use) :: uses) id = use :: history uses id := by
  simp [history]

theorem history_cons_of_ne (use : Use) (apart : other ≠ id) :
    history ((other, use) :: uses) id = history uses id := by
  simp [history, apart]

end Cursor

namespace Cursors

variable {b : Backend σ} {cs : Cursors σ} {id other : Nat}

/-- A use leaves the other cursors alone. -/
theorem use_of_ne (b : Backend σ) (cs : Cursors σ) (use : Cursor.Use) (apart : other ≠ id) :
    (cs.use b id use).at? other = cs.at? other ∧
      (cs.use b id use).failure? other = cs.failure? other := by
  cases use with
  | «open» keepMillis index request maxHits =>
    unfold Cursors.use
    dsimp only
    rcases Cursor.open? b keepMillis index request maxHits cs.connection with ⟨e | c, k⟩ <;>
      exact ⟨if_neg apart, if_neg apart⟩
  | read => exact ⟨if_neg apart, if_neg apart⟩
  | advance =>
    unfold Cursors.use
    rcases cs.at? id with _ | c
    · exact ⟨rfl, rfl⟩
    · dsimp only
      rcases c.advance b cs.connection with ⟨e | fetched, d, k⟩ <;>
        exact ⟨if_neg apart, if_neg apart⟩
  | release =>
    unfold Cursors.use
    rcases cs.at? id with _ | c
    · exact ⟨rfl, rfl⟩
    · exact ⟨if_neg apart, if_neg apart⟩

theorem at?_use_of_ne (b : Backend σ) (cs : Cursors σ) (use : Cursor.Use) (apart : other ≠ id) :
    (cs.use b id use).at? other = cs.at? other := (use_of_ne b cs use apart).1

theorem useAll_append (b : Backend σ) (cs : Cursors σ) (uses more : List (Nat × Cursor.Use)) :
    cs.useAll b (uses ++ more) = (cs.useAll b uses).useAll b more := List.foldl_append ..

theorem after_append (b : Backend σ) (index : σ) (uses more : List (Nat × Cursor.Use)) :
    after b index (uses ++ more) = (after b index uses).useAll b more := useAll_append ..

theorem at?_useAll_of_ne (b : Backend σ) (cs : Cursors σ) (uses : List (Nat × Cursor.Use))
    (apart : ∀ use ∈ uses, use.1 ≠ id) : (cs.useAll b uses).at? id = cs.at? id := by
  induction uses generalizing cs with
  | nil => rfl
  | cons first rest ih =>
    have one := at?_use_of_ne b cs first.2 (apart first List.mem_cons_self).symm
    exact (ih _ fun use member => apart use (List.mem_cons_of_mem _ member)).trans one

/-! What becomes of a cursor that is used. -/

section

variable {k : Connection σ} {c d : Cursor} {cursor? : Option Cursor} {failure? : Option BackendError}

@[simp] theorem connection_set : (cs.set id k cursor? failure?).connection = k := rfl

@[simp] theorem at?_set : (cs.set id k cursor? failure?).at? id = cursor? := if_pos rfl

@[simp] theorem failure?_set : (cs.set id k cursor? failure?).failure? id = failure? := if_pos rfl

@[simp] theorem seen_set :
    (cs.set id k cursor? failure?).seen id = (failure?, cursor?.map Cursor.face) := by
  simp [seen, set]

theorem use_open {keepMillis maxHits : Nat} {index : String} {request : SearchRequest}
    (opened : Cursor.open? b keepMillis index request maxHits cs.connection = (.ok c, k)) :
    cs.use b id (.open keepMillis index request maxHits) = cs.set id k (some c) none := by
  simp only [use, opened]

theorem use_open_failed {keepMillis maxHits : Nat} {index : String} {request : SearchRequest}
    {e : BackendError}
    (failed : Cursor.open? b keepMillis index request maxHits cs.connection = (.error e, k)) :
    cs.use b id (.open keepMillis index request maxHits) = cs.set id k none (some e) := by
  simp only [use, failed]

theorem use_advance {fetched : Bool} (found : cs.at? id = some c)
    (advanced : c.advance b cs.connection = (.ok fetched, d, k)) :
    cs.use b id .advance = cs.set id k (some d) none := by
  simp only [use, found, advanced]

theorem use_advance_failed {e : BackendError} (found : cs.at? id = some c)
    (failed : c.advance b cs.connection = (.error e, d, k)) :
    cs.use b id .advance = cs.set id k (some d) (some e) := by
  simp only [use, found, failed]

theorem use_release (found : cs.at? id = some c) :
    cs.use b id .release =
      cs.set id (c.release b cs.connection).2 (some (c.release b cs.connection).1) none := by
  simp only [use, found]

end

/-! ### Cursors that are used alike -/

/-- Cursors with the same uses are seen alike, at an index that keeps them apart. -/
theorem seen_of_history {index : σ} (independent : b.Independent index)
    {uses more : List (Nat × Cursor.Use)} (same : Cursor.history uses id = Cursor.history more other) :
    (after b index uses).seen id = (after b index more).seen other := by
  rw [independent uses id, independent more other, same]

end Cursors

/-! ### Indexes that keep cursors apart -/

structure Backend.Steady (b : Backend σ) : Prop where
  search : ∀ index request state other,
    (b.search index request state).1 = (b.search index request other).1
  resume : ∀ scrollId millis state other,
    (b.resume scrollId millis state).1 = (b.resume scrollId millis other).1

namespace Backend.Steady

variable {b : Backend σ} {cs ds : Cursors σ} {id other : Nat}

theorem open? (steady : b.Steady) (keepMillis : Nat) (index : String) (request : SearchRequest)
    (maxHits : Nat) (k l : Connection σ) :
    (Cursor.open? b keepMillis index request maxHits k).1 =
      (Cursor.open? b keepMillis index request maxHits l).1 := by
  have same : (k.search b index request).1 = (l.search b index request).1 := by
    rw [(k.search_answer b index request).1, (l.search_answer b index request).1]
    exact steady.search index request k.state l.state
  unfold Cursor.open?
  generalize k.search b index request = found at same ⊢
  generalize l.search b index request = found' at same ⊢
  obtain ⟨e | r, _⟩ := found <;> obtain ⟨e' | r', _⟩ := found' <;> cases same <;> rfl

theorem advance (steady : b.Steady) (c : Cursor) (k l : Connection σ) :
    (c.advance b k).1 = (c.advance b l).1 ∧ (c.advance b k).2.1 = (c.advance b l).2.1 := by
  unfold Cursor.advance
  split
  · exact ⟨rfl, rfl⟩
  · cases c.nextId with
    | none => exact ⟨rfl, rfl⟩
    | some id =>
      have same : (k.resume b id c.keepMillis).1 = (l.resume b id c.keepMillis).1 := by
        rw [(k.resume_answer b id c.keepMillis).1, (l.resume_answer b id c.keepMillis).1]
        exact steady.resume id c.keepMillis k.state l.state
      dsimp only
      generalize k.resume b id c.keepMillis = fetched at same ⊢
      generalize l.resume b id c.keepMillis = fetched' at same ⊢
      obtain ⟨e | r, _⟩ := fetched <;> obtain ⟨e' | r', _⟩ := fetched' <;> cases same <;>
        exact ⟨rfl, rfl⟩

/-- Two cursors that are the same remain so when they are used alike. -/
theorem use (steady : b.Steady) (use : Cursor.Use) (same : cs.at? id = ds.at? other)
    (failed : cs.failure? id = ds.failure? other) :
    (cs.use b id use).at? id = (ds.use b other use).at? other ∧
      (cs.use b id use).failure? id = (ds.use b other use).failure? other := by
  cases use with
  | «open» keepMillis index request maxHits =>
    have alike := steady.open? keepMillis index request maxHits cs.connection ds.connection
    rcases opened : Cursor.open? b keepMillis index request maxHits cs.connection with ⟨e | c, k⟩ <;>
      rcases opened' : Cursor.open? b keepMillis index request maxHits ds.connection
        with ⟨e' | c', l⟩ <;>
      rw [opened, opened'] at alike <;> cases alike
    · rw [Cursors.use_open_failed opened, Cursors.use_open_failed opened']
      simp
    · rw [Cursors.use_open opened, Cursors.use_open opened']
      simp
  | read => simp [Cursors.use, same]
  | advance =>
    cases found : cs.at? id with
    | none => simp [Cursors.use, found, ← same, failed]
    | some c =>
      obtain ⟨alike, moved⟩ := steady.advance c cs.connection ds.connection
      rw [found] at same
      rcases advanced : c.advance b cs.connection with ⟨e | fetched, d, k⟩ <;>
        rcases advanced' : c.advance b ds.connection with ⟨e' | fetched', d', l⟩ <;>
        rw [advanced, advanced'] at alike moved <;> cases alike <;> cases moved
      · rw [Cursors.use_advance_failed found advanced, Cursors.use_advance_failed same.symm advanced']
        simp
      · rw [Cursors.use_advance found advanced, Cursors.use_advance same.symm advanced']
        simp
  | release =>
    cases found : cs.at? id with
    | none => simp [Cursors.use, found, ← same, failed]
    | some c =>
      rw [found] at same
      rw [Cursors.use_release found, Cursors.use_release same.symm]
      simp [Cursor.release]

/-- Such an index keeps cursors apart. -/
theorem independent (steady : b.Steady) (index : σ) : b.Independent index := by
  have alike (uses : List (Nat × Cursor.Use)) (id : Nat) (cs ds : Cursors σ)
      (same : cs.at? id = ds.at? 0) (failed : cs.failure? id = ds.failure? 0) :
      (cs.useAll b uses).seen id =
        (ds.useAll b ((Cursor.history uses id).map fun use => (0, use))).seen 0 := by
    induction uses generalizing cs ds with
    | nil => exact Prod.ext failed (congrArg (Option.map Cursor.face) same)
    | cons first rest ih =>
      obtain ⟨owner, use⟩ := first
      by_cases own : owner = id
      · subst own
        rw [Cursor.history_cons_self]
        obtain ⟨at?, failure?⟩ := steady.use use same failed
        exact ih _ _ at? failure?
      · rw [Cursor.history_cons_of_ne use own]
        have apart : id ≠ owner := fun equal => own equal.symm
        exact ih _ ds ((Cursors.at?_use_of_ne b cs use apart).trans same)
          ((Cursors.use_of_ne b cs use apart).2.trans failed)
  exact fun uses id => alike uses id _ _ rfl rfl

end Backend.Steady

end GeoSearch

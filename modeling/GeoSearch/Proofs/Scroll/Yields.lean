import GeoSearch.Proofs.Scroll.Batches
import GeoSearch.Scroll.Stream
/-!
What comes when everything is read to its end. Over an index that serves a list of hits, a stream
gives the batch of its cursor and then all that is ahead of it.
-/
namespace GeoSearch

/-- Read one by one until the end is seen, these hits come, and nothing fails. -/
inductive Yields {α : Type _} (next : α → Connection σ → Option (Except BackendError Hit) × α × Connection σ) :
    α → Connection σ → List Hit → α → Connection σ → Prop where
  | ended {a after : α} {k l : Connection σ} (last : next a k = (none, after, l)) :
      Yields next a k [] after l
  | hit {a later after : α} {k m l : Connection σ} {first : Hit} {hits : List Hit}
      (read : next a k = (some (.ok first), later, m)) (rest : Yields next later m hits after l) :
      Yields next a k (first :: hits) after l

section

variable {α : Type _} {next : α → Connection σ → Option (Except BackendError Hit) × α × Connection σ}

/-- Only what comes next counts. -/
theorem Yields.of_next {a same after : α} {k m l : Connection σ} {hits : List Hit}
    (alike : next a k = next same m) (yields : Yields next same m hits after l) :
    Yields next a k hits after l := by
  cases yields with
  | ended last => exact .ended (alike.trans last)
  | hit read rest => exact .hit (alike.trans read) rest

theorem Yields.takeHits {bound : α → Nat}
    (closer : ∀ {a k hit a' k'}, next a k = (some (.ok hit), a', k') → bound a' < bound a)
    {a after : α} {k l : Connection σ} {hits : List Hit} (yields : Yields next a k hits after l) :
    GeoSearch.takeHits next bound closer none a k = ({ hits, ended := true }, after, l) := by
  induction yields with
  | ended last =>
    rw [GeoSearch.takeHits, if_neg (by simp)]
    split <;> simp_all
  | hit read _ ih =>
    rw [GeoSearch.takeHits, if_neg (by simp)]
    split <;> simp_all [oneLess]

end

namespace HitStream

variable {b : Backend σ} {scrolling : Scrolling b} {size : Nat}

theorem next_end {c : Cursor} {k : Connection σ} (empty : c.batch = []) (final : c.isFinal = true) :
    next b { cursor := c } k = (none, finish b { cursor := c } k) := by
  simp [next, Cursor.next?, empty, final]

theorem next_batch {c : Cursor} {k : Connection σ} {hit : Hit} {rest : List Hit}
    (batch : c.batch = hit :: rest) :
    next b { cursor := c } k = (some (.ok hit), { cursor := { c with batch := rest } }, k) := by
  simp [next, Cursor.next?, batch]

theorem next_advance {c d : Cursor} {k l : Connection σ} {hit : Hit} {rest : List Hit}
    (empty : c.batch = []) (active : c.isFinal = false)
    (advanced : c.advance b k = (.ok true, d, l)) (batch : d.batch = hit :: rest) :
    next b { cursor := c } k = (some (.ok hit), { cursor := { d with batch := rest } }, l) := by
  simp [next, nextFetched, Cursor.next?, empty, active, advanced, batch]

/-- A stream gives the rest of its batch and all pieces ahead. -/
theorem yields (positive : 0 < size) {hits : List Hit} {c : Cursor} {k : Connection σ}
    {keepMillis : Nat} {given : List String} {ahead : List Hit}
    (fetch : c.Fetches scrolling k.state size keepMillis given ahead) (all : hits = c.batch ++ ahead) :
    ∃ s l, Yields (next b) { cursor := c } k hits s l := by
  induction hits generalizing c k given ahead with
  | nil =>
    obtain ⟨empty, rfl⟩ := List.append_eq_nil_iff.mp all.symm
    exact ⟨_, _, .ended (next_end empty (fetch.ahead.isFinal_iff.mpr rfl))⟩
  | cons hit hits ih =>
    cases batch : c.batch with
    | cons first rest =>
      rw [batch, List.cons_append, List.cons.injEq] at all
      obtain ⟨rfl, later⟩ := all
      obtain ⟨s, l, rest⟩ := ih (fetch.read rest) later
      exact ⟨s, l, .hit (next_batch batch) rest⟩
    | nil =>
      -- The batch is read out, and the next piece is not empty.
      rw [batch, List.nil_append] at all
      have more : ahead ≠ [] := all ▸ List.cons_ne_nil hit hits
      have active : c.isFinal = false := by
        rw [Bool.eq_false_iff]
        exact fun final => more (fetch.ahead.isFinal_iff.mp final)
      obtain ⟨d, l, scrollId, advanced, piece, -, later⟩ := fetch.advance positive more
      obtain ⟨size, rfl⟩ := Nat.exists_eq_succ_of_ne_zero (Nat.ne_of_gt positive)
      rw [← all, List.take_succ_cons] at piece
      rw [← all, List.drop_succ_cons] at later
      obtain ⟨s, m, rest⟩ :=
        ih (later.read (hits.take size)) (List.take_append_drop size hits).symm
      exact ⟨s, m, .hit (next_advance batch active advanced piece) rest⟩

end HitStream

end GeoSearch

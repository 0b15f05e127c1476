import GeoSearch.Proofs.Scroll.Yields
import GeoSearch.Source.Reader
/-!
Readers over what yields hits. A reader gives those of them that it accepts, in their order, up to
its limit.
-/
namespace GeoSearch

variable {b : Backend σ} {k l : Connection σ}

namespace Access

theorem yields_hits (b : Backend σ) (k : Connection σ) (hits : List Hit) :
    Yields (next b) (.hits hits) k hits (.hits []) k := by
  induction hits with
  | nil => exact .ended rfl
  | cons hit rest ih => exact .hit rfl ih

theorem yields_stream {s t : HitStream} {hits : List Hit}
    (yields : Yields (HitStream.next b) s k hits t l) :
    Yields (next b) (.stream s) k hits (.stream t) l := by
  induction yields with
  | ended last => exact .ended (by simp only [next, last])
  | hit read _ ih => exact .hit (by simp only [next, read]) ih

/-- A page gives the batch of its cursor. -/
theorem yields_page (b : Backend σ) (k : Connection σ) (page : Paging.Page) :
    Yields (next b) (.page page) k page.cursor.batch
      (.page { page with cursor := page.cursor.readOut }) k := by
  generalize all : page.cursor.batch = hits
  induction hits generalizing page with
  | nil =>
    have read : page.cursor.readOut = page.cursor := by rw [Cursor.readOut, ← all]
    exact .ended (by simp [next, Cursor.next?, all, read])
  | cons hit rest ih =>
    refine .hit (m := k) ?_ (ih { page with cursor := { page.cursor with batch := rest } } rfl)
    simp [next, Cursor.next?, all]

end Access

namespace FeatureReader

theorem next_limit {r : FeatureReader} (limit : r.remaining = 0) : r.next b k = (none, r, k) := by
  rw [next, if_pos limit]

theorem next_end {r : FeatureReader} {access : Access} (left : r.remaining ≠ 0)
    (last : r.access.next b k = (none, access, l)) : r.next b k = (none, { r with access }, l) := by
  rw [next, if_neg left]
  split <;> simp_all

theorem next_accepted {r : FeatureReader} {access : Access} {hit : Hit} (left : r.remaining ≠ 0)
    (read : r.access.next b k = (some (.ok hit), access, l)) (accepted : r.accepts hit = true) :
    r.next b k = (some (.ok hit), { r with access, remaining := r.remaining - 1 }, l) := by
  rw [next, if_neg left]
  split <;> simp_all

theorem next_rejected {r : FeatureReader} {access : Access} {hit : Hit} (left : r.remaining ≠ 0)
    (read : r.access.next b k = (some (.ok hit), access, l)) (rejected : r.accepts hit = false) :
    r.next b k = next b { r with access } l := by
  rw [next, if_neg left]
  split <;> simp_all

/-- A reader gives what it accepts, up to its limit. What each step of its access keeps is kept. -/
theorem yields (kept : Access → Connection σ → Prop)
    (keep : ∀ {a a' k k' answer}, a.next b k = (answer, a', k') → kept a k → kept a' k')
    {hits : List Hit} {a a' : Access} (yields : Yields (Access.next b) a k hits a' l)
    (r : FeatureReader) (reads : r.access = a) (start : kept a k) :
    ∃ r' l', Yields (next b) r k ((hits.filter r.accepts).take r.remaining) r' l' ∧
      kept r'.access l' := by
  -- A rejected hit leaves the limit as it is, and an accepted one takes from it.
  induction yields generalizing r with
  | @ended a after k l last =>
    subst reads
    rw [List.filter_nil, List.take_nil]
    by_cases limit : r.remaining = 0
    · exact ⟨r, k, .ended (next_limit limit), start⟩
    · exact ⟨{ r with access := after }, l, .ended (next_end limit last), keep last start⟩
  | @hit a later after k m l first hits read rest ih =>
    subst reads
    by_cases limit : r.remaining = 0
    · rw [limit, List.take_zero]
      exact ⟨r, k, .ended (next_limit limit), start⟩
    · cases accepted : r.accepts first with
      | true =>
        obtain ⟨r', l', rest, held⟩ :=
          ih { r with access := later, remaining := r.remaining - 1 } rfl (keep read start)
        obtain ⟨left, more⟩ := Nat.exists_eq_succ_of_ne_zero limit
        refine ⟨r', l', ?_, held⟩
        rw [List.filter_cons_of_pos accepted, more, List.take_succ_cons]
        have fewer : r.remaining - 1 = left := by omega
        rw [fewer] at rest
        exact .hit (next_accepted limit read accepted) (fewer ▸ rest)
      | false =>
        obtain ⟨r', l', rest, held⟩ := ih { r with access := later } rfl (keep read start)
        refine ⟨r', l', ?_, held⟩
        rw [List.filter_cons_of_neg (by simp [accepted])]
        exact .of_next (next_rejected limit read accepted) rest

theorem takeHits_of_yields {r after : FeatureReader} {hits : List Hit}
    (yields : Yields (next b) r k hits after l) :
    r.takeHits b none k = ({ hits, ended := true }, after, l) :=
  yields.takeHits bound_next

end FeatureReader

end GeoSearch

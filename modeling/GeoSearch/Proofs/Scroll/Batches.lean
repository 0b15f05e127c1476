import GeoSearch.Proofs.Scroll.Cursor
import GeoSearch.Proofs.Search.Exchange
/-!
Cursors over an index that serves a list of hits. The batches of a cursor are the list, cut off at
the budget and into pieces of one size; a cursor is final exactly when nothing is ahead of it.
-/
namespace GeoSearch.Cursor

variable {b : Backend σ} {scrolling : Scrolling b} {state : σ} {size : Nat} {c d : Cursor}
  {k l : Connection σ} {ahead : List Hit}

/-- The hits that a cursor is still to fetch, after those of its batch. One that is active has room
for some, and its scroll holds enough to fill that. -/
inductive Ahead (scrolling : Scrolling b) (state : σ) (size : Nat) (c : Cursor) : List Hit → Prop where
  | none (exhausted : c.phase = .exhausted) : Ahead scrolling state size c []
  | some {scrollId : String} {rest : List Hit} (active : c.phase = .active)
      (next : c.nextId = some scrollId) (holds : scrolling.holds state scrollId size rest)
      (room : c.taken < c.budget) (enough : c.budget - c.taken ≤ rest.length) :
      Ahead scrolling state size c (rest.take (c.budget - c.taken))

/-- Reading the batch does not touch what is ahead. -/
theorem Ahead.read (fetch : c.Ahead scrolling state size ahead) (batch : List Hit) :
    ({ c with batch } : Cursor).Ahead scrolling state size ahead := by
  cases fetch with
  | none exhausted => exact .none exhausted
  | some active next holds room enough =>
    exact .some (c := { c with batch }) active next holds room enough

theorem Ahead.isFinal_iff (fetch : c.Ahead scrolling state size ahead) :
    c.isFinal = true ↔ ahead = [] := by
  cases fetch with
  | none exhausted => simp [isFinal, exhausted]
  | @some _ rest active _ _ room enough =>
    have filled : (rest.take (c.budget - c.taken)).length = c.budget - c.taken :=
      List.length_take_of_le enough
    constructor
    · intro final
      simp [isFinal, active] at final
    · intro empty
      rw [empty, List.length_nil] at filled
      omega

/-- What is ahead can still be fetched or released. -/
theorem Ahead.unreleased (fetch : c.Ahead scrolling state size ahead) : c.phase ≠ .closed := by
  cases fetch with
  | none exhausted => simp [exhausted]
  | some active => simp [active]

/-- Taking a response of a scroll that holds enough takes the next piece. -/
theorem ahead_take {r : SearchResponse} {rest : List Hit} {scrollId : String} (positive : 0 < size)
    (active : c.phase = .active) (enough : c.budget - c.taken ≤ rest.length)
    (hits : r.hits = rest.take size) (next : (c.identify r.scrollId).nextId = some scrollId)
    (holds : scrolling.holds state scrollId size (rest.drop size)) :
    (c.take r).batch = (rest.take (c.budget - c.taken)).take size ∧
      (c.take r).Ahead scrolling state size ((rest.take (c.budget - c.taken)).drop size) := by
  have batch : (c.take r).batch = (rest.take (c.budget - c.taken)).take size := by
    simp [take, hits, List.take_take, Nat.min_comm]
  refine ⟨batch, ?_⟩
  by_cases last : c.budget - c.taken ≤ size
  · -- The piece uses the budget up.
    have nothing : (rest.take (c.budget - c.taken)).drop size = [] := by
      rw [List.drop_eq_nil_iff, List.length_take]
      omega
    have exhausted : (c.take r).phase = .exhausted := by
      have full : c.budget - c.taken ≤ r.hits.length := by
        rw [hits, List.length_take]
        omega
      simp [take, full]
    rw [nothing]
    exact .none exhausted
  · have more : (c.take r).phase = .active := by
      have short : ¬ c.budget - c.taken ≤ r.hits.length := by
        rw [hits, List.length_take]
        omega
      have unread : r.hits.isEmpty = false := by
        rw [List.isEmpty_eq_false_iff, hits, ← List.length_pos_iff, List.length_take]
        omega
      simp [take, short, unread, active]
    have taken : (c.take r).taken = c.taken + size := by
      have piece : (r.hits.take (c.budget - c.taken)).length = size := by
        rw [hits, List.length_take, List.length_take]
        omega
      simp only [take, piece]
    have budget : (c.take r).budget = c.budget := by
      cases id : r.scrollId <;> simp [take, identify, id]
    have room : (c.take r).budget - (c.take r).taken = c.budget - c.taken - size := by
      rw [taken, budget]
      omega
    rw [List.drop_take, ← room]
    refine .some more next holds ?_ ?_
    · omega
    · rw [room, List.length_drop]
      omega

def Knows (c : Cursor) (given : List String) : Prop := ∀ id, id ∈ c.ids ↔ id ∈ given

theorem Knows.take {given : List String} (knows : c.Knows given) (r : SearchResponse) :
    (c.take r).Knows (given ++ r.scrollId.toList) := by
  intro id
  rw [mem_ids_take, knows id, List.mem_append, Option.mem_toList]

structure Fetches (scrolling : Scrolling b) (state : σ) (size keepMillis : Nat) (given : List String)
    (ahead : List Hit) (c : Cursor) : Prop where
  ahead : c.Ahead scrolling state size ahead
  knows : c.Knows given
  known : c.ids ≠ []
  keeps : c.keepMillis = keepMillis

variable {keepMillis : Nat} {given : List String}

theorem Fetches.read (fetch : c.Fetches scrolling state size keepMillis given ahead)
    (batch : List Hit) :
    ({ c with batch } : Cursor).Fetches scrolling state size keepMillis given ahead :=
  ⟨fetch.ahead.read batch, fetch.knows, fetch.known, fetch.keeps⟩

/-- The cursor fetches the next piece. -/
theorem Fetches.advance (fetch : c.Fetches scrolling k.state size keepMillis given ahead)
    (positive : 0 < size) (more : ahead ≠ []) :
    ∃ d l scrollId, c.advance b k = (.ok true, d, l) ∧ d.batch = ahead.take size ∧
      k.Exchange b l [.resume scrollId keepMillis] ∧
      d.Fetches scrolling l.state size keepMillis
        (given ++ b.givenIds [.resume scrollId keepMillis] k.state) (ahead.drop size) := by
  obtain ⟨fetch, knows, known, rfl⟩ := fetch
  cases fetch with
  | none => exact absurd rfl more
  | @some scrollId rest active next holds room enough =>
    obtain ⟨r, after, answer, hits, later⟩ := scrolling.resume c.keepMillis holds
    obtain ⟨l, resumed, rfl, exchange, given⟩ := Connection.resume_ok answer
    have identified : (c.identify r.scrollId).nextId = some (r.scrollId.getD scrollId) := by
      cases id : r.scrollId <;> simp [identify, next]
    obtain ⟨batch, ahead⟩ := ahead_take positive active enough hits identified later
    obtain ⟨old, member⟩ := List.exists_mem_of_ne_nil _ known
    refine ⟨c.take r, l.report (.scrollAdvanced scrollId (c.take r).taken), scrollId, ?_, batch,
      exchange.report _, ahead, ?_, ?_, ?_⟩
    · simp [Cursor.advance, isFinal, active, next, resumed]
    · rw [given]
      exact knows.take r
    · exact List.ne_nil_of_mem ((mem_ids_take c r).mpr (.inl member))
    · cases id : r.scrollId <;> simp [take, identify, id]

/-- A cursor that is opened for some of the hits takes the first piece of these. -/
theorem open?_served {index : String} {wanted : SearchRequest → Prop} {hits : List Hit}
    {request : SearchRequest} (served : scrolling.Serves index wanted hits) (asked : wanted request)
    (scrolls : request.scrollMillis.isSome) (positive : 0 < request.size) (keepMillis maxHits : Nat)
    (k : Connection σ) :
    ∃ c l, open? b keepMillis index request maxHits k = (.ok c, l) ∧
      c.batch = (hits.take maxHits).take request.size ∧
      k.Exchange b l [.search index request] ∧
      c.Fetches scrolling l.state request.size keepMillis
        (b.givenIds [.search index request] k.state) ((hits.take maxHits).drop request.size) := by
  obtain ⟨r, after, scrollId, answer, total, first, id, holds⟩ :=
    served.scroll k.state asked scrolls positive
  obtain ⟨l, searched, rfl, exchange, given⟩ := Connection.search_ok answer
  let fresh : Cursor := { keepMillis, budget := min maxHits r.total }
  have enough : fresh.budget - fresh.taken ≤ hits.length := by
    change min maxHits r.total - 0 ≤ hits.length
    omega
  have identified : (fresh.identify r.scrollId).nextId = some scrollId := by simp [identify, id]
  obtain ⟨batch, ahead⟩ := ahead_take (c := fresh) positive rfl enough first identified holds
  have cut : hits.take (fresh.budget - fresh.taken) = hits.take maxHits := by
    change hits.take (min maxHits r.total - 0) = hits.take maxHits
    rw [total, Nat.sub_zero, List.take_eq_take_iff]
    omega
  rw [cut] at batch ahead
  have knows : (fresh.take r).Knows ([] ++ r.scrollId.toList) := Knows.take (fun _ => by simp [fresh]) r
  have member : scrollId ∈ (fresh.take r).ids := (mem_ids_take fresh r).mpr (.inr id)
  refine ⟨fresh.take r, l, by simp only [open?, searched]; rfl, batch, exchange, ahead, ?_,
    List.ne_nil_of_mem member, ?_⟩
  · rw [given]
    exact knows
  · simp [take, identify, id, fresh]

end GeoSearch.Cursor

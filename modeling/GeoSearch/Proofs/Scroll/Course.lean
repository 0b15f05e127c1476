import GeoSearch.Proofs.Scroll.Yields
import GeoSearch.Proofs.Search.Exchange
import GeoSearch.Scroll.Stream
import GeoSearch.Search.Listing
import Mathlib.Algebra.Order.Floor.Div
/-!
The course of a scroll, over any index. After the response that opens it, a scroll is continued with the
identifier that was given last, until the responses hold as many hits as are wanted, one of them has
none, or a continuation fails. Without any identifier it cannot be continued. A stream gives the hits of
its scroll, cut off at the budget, and makes the calls of the scroll's course, however large the batches
are, whatever identifiers come with them and wherever a continuation fails.
-/
namespace GeoSearch

/-! ### The course -/

namespace Course

def hits (heard : List SearchResponse) : List Hit := heard.flatMap (·.hits)

def ids (heard : List SearchResponse) : List String := heard.filterMap (·.scrollId)

/-- The budget is used up, or the last batch was empty. -/
def Full (budget : Nat) (heard : List SearchResponse) : Prop :=
  budget ≤ (hits heard).length ∨ ∃ last, heard.getLast? = some last ∧ last.hits = []

def Over (budget : Nat) (heard : List SearchResponse) : Prop := Full budget heard ∨ ids heard = []

end Course

/-- From a state of the index in which these responses were heard: the identifiers that a scroll is
continued with, all responses in the end, the failure that ends it, if one does, and the state of the
index then. -/
inductive Course (b : Backend σ) (keepMillis budget : Nat) :
    List SearchResponse → σ → List String → List SearchResponse → Option BackendError → σ → Prop where
  | ended {heard : List SearchResponse} {state : σ} (complete : Course.Over budget heard) :
      Course b keepMillis budget heard state [] heard none state
  | failed {heard : List SearchResponse} {state after : σ} {id : String} {error : BackendError}
      (more : ¬ Course.Over budget heard) (latest : (Course.ids heard).getLast? = some id)
      (answer : b.resume id keepMillis state = (.error error, after)) :
      Course b keepMillis budget heard state [id] heard (some error) after
  | continued {heard all : List SearchResponse} {state next after : σ} {id : String}
      {asked : List String} {response : SearchResponse} {failure : Option BackendError}
      (more : ¬ Course.Over budget heard) (latest : (Course.ids heard).getLast? = some id)
      (answer : b.resume id keepMillis state = (.ok response, next))
      (later : Course b keepMillis budget (heard ++ [response]) next asked all failure after) :
      Course b keepMillis budget heard state (id :: asked) all failure after

/-! ### Streams along it -/

variable {b : Backend σ} {keepMillis budget : Nat} {heard : List SearchResponse} {c : Cursor}
  {k l : Connection σ}

namespace Course

theorem hits_concat (heard : List SearchResponse) (r : SearchResponse) :
    hits (heard ++ [r]) = hits heard ++ r.hits := by
  simp [hits]

theorem ids_concat (heard : List SearchResponse) (r : SearchResponse) :
    ids (heard ++ [r]) = ids heard ++ r.scrollId.toList := by
  cases id : r.scrollId <;> simp [ids, id]

theorem full_concat_iff {r : SearchResponse} :
    Full budget (heard ++ [r]) ↔ budget ≤ (hits heard).length + r.hits.length ∨ r.hits = [] := by
  simp [Full, hits_concat]

/-- No response is lost again. -/
theorem grows {state after : σ} {asked : List String} {all : List SearchResponse}
    {failure : Option BackendError}
    (course : Course b keepMillis budget heard state asked all failure after) : heard <+: all := by
  induction course with
  | ended => exact List.prefix_rfl
  | failed => exact List.prefix_rfl
  | continued _ _ _ _ ih => exact (List.prefix_append _ _).trans ih

theorem ceilDiv_step {room size : Nat} (positive : 0 < size) (some : 0 < room) :
    room ⌈/⌉ size = (room - size) ⌈/⌉ size + 1 := by
  rw [Nat.ceilDiv_eq_add_pred_div, Nat.ceilDiv_eq_add_pred_div]
  by_cases last : room ≤ size
  · have none : room - size = 0 := by omega
    have zero : (0 + size - 1) / size = 0 := Nat.div_eq_of_lt (by omega)
    have one : (room + size - 1) / size = 1 := by
      rw [Nat.div_eq_iff positive]
      omega
    rw [none, zero, one]
  · rw [← Nat.add_div_right _ positive]
    congr 1
    omega

/-- Where the index has enough hits, nothing fails, and a continuation is asked for each batch that
the budget still has room for. -/
theorem served {scrolling : Scrolling b} {size : Nat} (positive : 0 < size) {state after : σ}
    {asked : List String} {all : List SearchResponse} {failure : Option BackendError}
    (course : Course b keepMillis budget heard state asked all failure after) {id : String}
    {rest : List Hit} (latest : (ids heard).getLast? = some id)
    (holds : scrolling.holds state id size rest) (enough : budget ≤ (hits heard).length + rest.length)
    (filled : Full budget heard → budget ≤ (hits heard).length) :
    failure = none ∧ (hits all).take budget = (hits heard ++ rest).take budget ∧
      asked.length = (budget - (hits heard).length) ⌈/⌉ size := by
  induction course generalizing id rest with
  | ended complete =>
    have used : budget ≤ _ := filled (complete.resolve_right fun unknown => by simp [unknown] at latest)
    refine ⟨rfl, (List.take_append_of_le_length used).symm, ?_⟩
    simp [Nat.sub_eq_zero_of_le used]
  | failed more last answer =>
    obtain rfl : id = _ := Option.some.inj (latest.symm.trans last)
    obtain ⟨r, next, served, -⟩ := scrolling.resume keepMillis holds
    rw [answer] at served
    cases served
  | @continued heard all state next after _ asked r failure more last answer _ ih =>
    obtain rfl : id = _ := Option.some.inj (latest.symm.trans last)
    obtain ⟨r, next, served, batch, later⟩ := scrolling.resume keepMillis holds
    rw [answer] at served
    cases served
    have room : (hits heard).length < budget := by
      by_contra used
      exact more (.inl (.inl (by omega)))
    have length : r.hits.length = min size rest.length := by rw [batch, List.length_take]
    have total : (hits (heard ++ [r])).length = (hits heard).length + r.hits.length := by
      rw [hits_concat, List.length_append]
    have identified : (ids (heard ++ [r])).getLast? = some (r.scrollId.getD id) := by
      rw [ids_concat]
      cases given : r.scrollId <;> simp [latest]
    have joined : hits (heard ++ [r]) ++ rest.drop size = hits heard ++ rest := by
      rw [hits_concat, batch, List.append_assoc, List.take_append_drop]
    obtain ⟨fine, same, count⟩ := ih identified later
      (by rw [total, List.length_drop]; omega)
      (by rw [full_concat_iff, total, ← List.length_eq_zero_iff]; omega)
    refine ⟨fine, joined ▸ same, ?_⟩
    rw [List.length_cons, count, ceilDiv_step positive (Nat.sub_pos_of_lt room)]
    congr 2
    omega

end Course

namespace Cursor

structure Heard (c : Cursor) (keepMillis budget : Nat) (heard : List SearchResponse) : Prop where
  keeps : c.keepMillis = keepMillis
  limit : c.budget = budget
  taken : c.taken = min budget (Course.hits heard).length
  latest : c.nextId = (Course.ids heard).getLast?
  ids : ∀ id, id ∈ c.ids ↔ id ∈ Course.ids heard

structure Follows (c : Cursor) (keepMillis budget : Nat) (heard : List SearchResponse) : Prop
    extends c.Heard keepMillis budget heard where
  exhausted : Course.Full budget heard → c.phase = .exhausted
  active : ¬ Course.Full budget heard → c.phase = .active

theorem Heard.take (h : c.Heard keepMillis budget heard) (r : SearchResponse) :
    (c.take r).Heard keepMillis budget (heard ++ [r]) := by
  have taken : (c.take r).taken = c.taken + (r.hits.take (c.budget - c.taken)).length := rfl
  have hb := h.limit
  have ht := h.taken
  constructor
  · cases id : r.scrollId <;> simp [Cursor.take, identify, id, h.keeps]
  · cases id : r.scrollId <;> simp [Cursor.take, identify, id, h.limit]
  · rw [taken, Course.hits_concat, List.length_append, List.length_take]
    omega
  · rw [Course.ids_concat]
    cases id : r.scrollId <;> simp [Cursor.take, identify, id, h.latest]
  · intro id
    rw [mem_ids_take, h.ids, Course.ids_concat, List.mem_append, Option.mem_toList]

/-- The batch is what the response adds below the budget. -/
theorem Heard.batch_take (h : c.Heard keepMillis budget heard) (r : SearchResponse) :
    (c.take r).batch = ((Course.hits (heard ++ [r])).take budget).drop c.taken := by
  have hb := h.limit
  have ht := h.taken
  have batch : (c.take r).batch = r.hits.take (c.budget - c.taken) := rfl
  rw [batch, Course.hits_concat, List.take_append, hb]
  by_cases used : budget ≤ (Course.hits heard).length
  · have none : budget - c.taken = 0 := by omega
    have rest : budget - (Course.hits heard).length = 0 := by omega
    rw [none, rest, List.take_zero, List.append_nil]
    refine (List.drop_eq_nil_of_le ?_).symm
    rw [List.length_take]
    omega
  · have all : (Course.hits heard).take budget = Course.hits heard :=
      List.take_of_length_le (by omega)
    have so : c.taken = (Course.hits heard).length := by omega
    rw [all, so, List.drop_left]

theorem Heard.follows_take (h : c.Heard keepMillis budget heard) (active : c.phase = .active)
    (r : SearchResponse) : (c.take r).Follows keepMillis budget (heard ++ [r]) := by
  have last : (c.budget - c.taken ≤ r.hits.length || r.hits.isEmpty) = true ↔
      Course.Full budget (heard ++ [r]) := by
    have hb := h.limit
    have ht := h.taken
    rw [Course.full_concat_iff, Bool.or_eq_true, decide_eq_true_eq, List.isEmpty_iff]
    refine or_congr_left ?_
    omega
  refine ⟨h.take r, fun full => ?_, fun more => ?_⟩
  · simp only [Cursor.take]
    rw [if_pos (last.mpr full)]
  · simp only [Cursor.take]
    rw [if_neg (mt last.mp more), active]

/-- A batch without hits is the last. -/
theorem Heard.full_of_batch_take (h : c.Heard keepMillis budget heard) {r : SearchResponse}
    (empty : (c.take r).batch = []) : Course.Full budget (heard ++ [r]) := by
  have hb := h.limit
  have ht := h.taken
  have batch : r.hits.take (c.budget - c.taken) = [] := empty
  rw [Course.full_concat_iff]
  rcases List.take_eq_nil_iff.mp batch with used | none
  · left
    omega
  · exact .inr none

/-- A cursor that is about to take the response that opens its scroll. -/
theorem heard_nil (keepMillis budget : Nat) :
    ({ keepMillis, budget } : Cursor).Heard keepMillis budget [] := by
  constructor <;> simp [Course.hits, Course.ids]

theorem Follows.read (h : c.Follows keepMillis budget heard) :
    c.readOut.Follows keepMillis budget heard :=
  ⟨⟨h.keeps, h.limit, h.taken, h.latest, h.ids⟩, h.exhausted, h.active⟩

theorem advance_unidentified (active : c.isFinal = false) (unknown : c.nextId = none)
    (b : Backend σ) (k : Connection σ) :
    c.advance b k = (.ok false, { c with phase := .exhausted, batch := [], batchSize := 0 }, k) := by
  simp [advance, active, unknown]

theorem advance_failed {id : String} {error : BackendError} (active : c.isFinal = false)
    (latest : c.nextId = some id) (failed : k.resume b id c.keepMillis = (.error error, l)) :
    c.advance b k = (.error error, c, l) := by
  simp [advance, active, latest, failed]

theorem advance_fetched {id : String} {r : SearchResponse} (active : c.isFinal = false)
    (latest : c.nextId = some id) (fetched : k.resume b id c.keepMillis = (.ok r, l)) :
    c.advance b k = (.ok true, c.take r, l.report (.scrollAdvanced id (c.take r).taken)) := by
  simp [advance, active, latest, fetched]

/-- A cursor that has more to fetch is active, read or not. -/
theorem Follows.isFinal_readOut (h : c.Follows keepMillis budget heard)
    (more : ¬ Course.Full budget heard) : c.readOut.isFinal = false := by
  simp [isFinal, readOut, h.active more]

theorem Follows.unreleased (h : c.Follows keepMillis budget heard) : c.phase ≠ .closed := by
  by_cases full : Course.Full budget heard
  · simp [h.exhausted full]
  · simp [h.active full]

end Cursor

namespace HitStream

def prepend (first : List Hit) (t : Taken × HitStream × Connection σ) :
    Taken × HitStream × Connection σ :=
  ({ t.1 with hits := first ++ t.1.hits }, t.2)

theorem takeHits_end {s t : HitStream} (last : s.next b k = (none, t, l)) :
    s.takeHits b none k = ({ ended := true }, t, l) := by
  unfold takeHits
  rw [GeoSearch.takeHits, if_neg (by simp)]
  split <;> simp_all

theorem takeHits_failed {s t : HitStream} {error : BackendError}
    (failed : s.next b k = (some (.error error), t, l)) :
    s.takeHits b none k = ({ failure := some error }, t, l) := by
  unfold takeHits
  rw [GeoSearch.takeHits, if_neg (by simp)]
  split <;> simp_all

theorem takeHits_hit {s t : HitStream} {hit : Hit} (read : s.next b k = (some (.ok hit), t, l)) :
    s.takeHits b none k = prepend [hit] (t.takeHits b none l) := by
  unfold takeHits
  rw [GeoSearch.takeHits, if_neg (by simp)]
  split <;> simp_all [oneLess, prepend]

/-- Only what comes next counts. -/
theorem takeHits_congr {s t : HitStream} (alike : s.next b k = t.next b l) :
    s.takeHits b none k = t.takeHits b none l := by
  rcases next : t.next b l with ⟨_ | ⟨error | hit⟩, after, m⟩
  · rw [takeHits_end next, takeHits_end (alike.trans next)]
  · rw [takeHits_failed next, takeHits_failed (alike.trans next)]
  · rw [takeHits_hit next, takeHits_hit (alike.trans next)]

/-- The batch comes first. -/
theorem takeHits_batch (b : Backend σ) (c : Cursor) (k : Connection σ) :
    takeHits b none { cursor := c } k =
      prepend c.batch (takeHits b none { cursor := c.readOut } k) := by
  generalize batch : c.batch = first
  induction first generalizing c with
  | nil =>
    have read : c.readOut = c := by rw [Cursor.readOut, ← batch]
    rw [read]
    rfl
  | cons hit rest ih =>
    have later := ih { c with batch := rest } rfl
    rw [takeHits_hit (next_batch batch), later]
    rfl

/-- After a continuation the stream goes on as one of the cursor that took the response: where that
has no hits, it is the last. -/
theorem next_continue {d : Cursor} {fetched : Bool} (empty : c.batch = []) (active : c.isFinal = false)
    (advanced : c.advance b k = (.ok fetched, d, l)) (last : d.batch = [] → d.isFinal = true) :
    next b { cursor := c } k = next b { cursor := d } l := by
  cases batch : d.batch with
  | nil => simp [next, nextFetched, Cursor.next?, empty, active, advanced, batch, last batch]
  | cons hit rest => simp [next, nextFetched, Cursor.next?, empty, active, advanced, batch]

theorem next_failed {d : Cursor} {error : BackendError} (empty : c.batch = [])
    (active : c.isFinal = false) (advanced : c.advance b k = (.error error, d, l)) :
    next b { cursor := c } k = (some (.error error), finish b { cursor := d } l) := by
  simp [next, Cursor.next?, empty, active, advanced]

/-- What it comes to to read a cursor to its end: the rest of its batch and the hits of all later
responses below the budget, and a call for each continuation. Then the scroll is released. -/
structure Finishes (b : Backend σ) (c : Cursor) (k : Connection σ) (asked : List String)
    (all : List SearchResponse) (failure : Option BackendError) (last : Cursor)
    (l : Connection σ) : Prop where
  taken : takeHits b none { cursor := c } k =
    ({ hits := c.batch ++ ((Course.hits all).take c.budget).drop c.taken
       ended := failure.isNone, failure }, finish b { cursor := last } l)
  calls : l.calls = k.calls ++ asked.map (Call.resume · c.keepMillis)
  heard : last.Heard c.keepMillis c.budget all
  unreleased : last.phase ≠ .closed

/-- Nothing is left below the budget of what was taken before. -/
theorem drop_taken (h : c.Heard keepMillis budget heard) :
    ((Course.hits heard).take c.budget).drop c.taken = [] := by
  have limit := h.limit
  have taken := h.taken
  refine List.drop_eq_nil_of_le ?_
  rw [List.length_take]
  omega

theorem finishes_full (h : c.Follows keepMillis budget heard) (full : Course.Full budget heard)
    (b : Backend σ) (k : Connection σ) : Finishes b c k [] heard none c.readOut k := by
  have final : c.readOut.isFinal = true := by
    simp [Cursor.isFinal, Cursor.readOut, h.exhausted full]
  refine ⟨?_, (List.append_nil _).symm, ?_, h.read.unreleased⟩
  · rw [takeHits_batch, takeHits_end (next_end rfl final), drop_taken h.toHeard]
    rfl
  · rw [h.keeps, h.limit]
    exact h.read.toHeard

/-- A cursor without an identifier gives its batch alone, although more hits may be wanted. -/
theorem finishes_unidentified (h : c.Follows keepMillis budget heard)
    (more : ¬ Course.Full budget heard) (unknown : Course.ids heard = []) (b : Backend σ)
    (k : Connection σ) : ∃ last, Finishes b c k [] heard none last k := by
  have latest : c.readOut.nextId = none := h.latest.trans (by rw [unknown]; rfl)
  have active := h.isFinal_readOut more
  have advanced := Cursor.advance_unidentified active latest b k
  have stopped := next_continue rfl active advanced fun _ => rfl
  let last : Cursor := { c with phase := .exhausted, batch := [], batchSize := 0 }
  refine ⟨last, ?_, (List.append_nil _).symm, ?_, by simp [last]⟩
  · rw [takeHits_batch, takeHits_end (stopped.trans (next_end rfl rfl)), drop_taken h.toHeard]
    rfl
  · rw [h.keeps, h.limit]
    exact ⟨h.keeps, h.limit, h.taken, h.latest, h.ids⟩

theorem finishes_failed {id : String} {error : BackendError} (h : c.Follows keepMillis budget heard)
    (more : ¬ Course.Full budget heard) (latest : (Course.ids heard).getLast? = some id)
    (failed : k.resume b id keepMillis = (.error error, l)) :
    Finishes b c k [id] heard (some error) c.readOut l := by
  obtain rfl := h.keeps
  have active := h.isFinal_readOut more
  have advanced := Cursor.advance_failed active (h.latest.trans latest) failed
  refine ⟨?_, ?_, ?_, h.read.unreleased⟩
  · rw [takeHits_batch, takeHits_failed (next_failed rfl active advanced), drop_taken h.toHeard]
    rfl
  · have calls := (k.resume_answer b id c.keepMillis).2.2
    rw [failed] at calls
    exact calls
  · rw [h.limit]
    exact h.read.toHeard

/-- The batch taken from a response, and what comes after it. -/
theorem join_batch (h : c.Heard keepMillis budget heard) {r : SearchResponse}
    {all : List SearchResponse} (grows : heard ++ [r] <+: all) :
    (c.take r).batch ++ ((Course.hits all).take c.budget).drop (c.take r).taken =
      ((Course.hits all).take c.budget).drop c.taken := by
  obtain ⟨later, rfl⟩ := grows
  have before := h.taken
  have now := (h.take r).taken
  have further : c.taken ≤ (c.take r).taken := by
    rw [before, now, Course.hits_concat, List.length_append]
    omega
  have cut : (Course.hits (heard ++ [r])).take budget =
      ((Course.hits (heard ++ [r] ++ later)).take budget).take (c.take r).taken := by
    have whole : Course.hits (heard ++ [r] ++ later) =
        Course.hits (heard ++ [r]) ++ Course.hits later := by
      simp [Course.hits]
    rw [whole, List.take_take, List.take_append_of_le_length (by omega), now, List.take_eq_take_iff]
    omega
  rw [h.batch_take, h.limit, cut, List.drop_take]
  generalize (Course.hits (heard ++ [r] ++ later)).take budget = given
  have rest : given.drop (c.take r).taken =
      (given.drop c.taken).drop ((c.take r).taken - c.taken) := by
    rw [List.drop_drop]
    congr 1
    omega
  rw [rest, List.take_append_drop]

/-- The hits of a response come after those of the batch, and before what the rest of the scroll has
below the budget. -/
theorem finishes_continued {id : String} {r : SearchResponse} {asked : List String}
    {all : List SearchResponse} {failure : Option BackendError} {last : Cursor} {m : Connection σ}
    (h : c.Follows keepMillis budget heard) (more : ¬ Course.Full budget heard)
    (latest : (Course.ids heard).getLast? = some id)
    (fetched : k.resume b id keepMillis = (.ok r, l))
    (grows : heard ++ [r] <+: all)
    (rest : Finishes b (c.take r) (l.report (.scrollAdvanced id (c.take r).taken)) asked all failure
      last m) : Finishes b c k (id :: asked) all failure last m := by
  obtain rfl := h.keeps
  have active := h.isFinal_readOut more
  have advanced := Cursor.advance_fetched active (h.latest.trans latest) fetched
  rw [Cursor.take_readOut] at advanced
  have follows := h.follows_take (h.active more) r
  have stopped := next_continue rfl active advanced fun none => by
    simp [Cursor.isFinal, follows.exhausted (h.full_of_batch_take none)]
  refine ⟨?_, ?_, ?_, rest.unreleased⟩
  · have all := join_batch h.toHeard grows
    rw [takeHits_batch, takeHits_congr stopped, rest.taken, follows.limit, ← h.limit, all]
    rfl
  · have calls := (k.resume_answer b id c.keepMillis).2.2
    rw [fetched] at calls
    rw [rest.calls, follows.keeps, Connection.calls_report, calls, List.append_assoc]
    rfl
  · rw [h.limit, ← follows.keeps, ← follows.limit]
    exact rest.heard

/-- Every scroll has a course, and a stream over it finishes as the course says. -/
theorem finishes (b : Backend σ) (h : c.Follows keepMillis budget heard) (k : Connection σ) :
    ∃ asked all failure after last l,
      Course b keepMillis budget heard k.state asked all failure after ∧
      Finishes b c k asked all failure last l := by
  -- The room that the budget leaves shrinks with every batch that is not the last.
  induction room : budget - c.taken using Nat.strong_induction_on generalizing c heard k with
  | _ room ih =>
    subst room
    by_cases full : Course.Full budget heard
    · exact ⟨[], heard, none, k.state, c.readOut, k, .ended (.inl full),
        finishes_full h full b k⟩
    cases latest : (Course.ids heard).getLast? with
    | none =>
      have unknown : Course.ids heard = [] := List.getLast?_eq_none_iff.mp latest
      obtain ⟨last, finishes⟩ := finishes_unidentified h full unknown b k
      exact ⟨[], heard, none, k.state, last, k, .ended (.inr unknown), finishes⟩
    | some id =>
      have more : ¬ Course.Over budget heard := by
        rintro (now | unknown)
        · exact full now
        · simp [unknown] at latest
      obtain ⟨answer, state, -⟩ := k.resume_answer b id keepMillis
      rcases resumed : k.resume b id keepMillis with ⟨error | r, l⟩
      · rw [resumed] at answer state
        exact ⟨[id], heard, some error, l.state, c.readOut, l,
          .failed more latest (Prod.ext answer.symm state.symm),
          finishes_failed h full latest resumed⟩
      · rw [resumed] at answer state
        have follows := h.follows_take (h.active full) r
        let m := l.report (.scrollAdvanced id (c.take r).taken)
        obtain ⟨asked, all, failure, after, last, n, course, rest⟩ :
            ∃ asked all failure after last l,
              Course b keepMillis budget (heard ++ [r]) m.state asked all failure after ∧
              Finishes b (c.take r) m asked all failure last l := by
          by_cases full' : Course.Full budget (heard ++ [r])
          · exact ⟨[], heard ++ [r], none, m.state, (c.take r).readOut, m, .ended (.inl full'),
              finishes_full follows full' b m⟩
          · refine ih _ ?_ follows m rfl
            have now := follows.taken
            have before := h.taken
            rw [Course.full_concat_iff, not_or, ← List.length_eq_zero_iff] at full'
            rw [now, Course.hits_concat, List.length_append]
            omega
        exact ⟨id :: asked, all, failure, after, last, n,
          .continued more latest (Prod.ext answer.symm state.symm) course,
          finishes_continued h full latest resumed course.grows rest⟩

/-- Reading a stream to its end gives the hits of its scroll's course and makes the calls of it, and
one more that releases every identifier, if there is any. After that nothing comes and nothing is
called. -/
theorem reads_course (b : Backend σ) (keepMillis budget : Nat) (opening : SearchResponse)
    (k : Connection σ) :
    ∃ asked all failure after stream l ids,
      Course b keepMillis budget [opening] k.state asked all failure after ∧
      takeHits b none { cursor := .ofResponse keepMillis opening budget } k =
        ({ hits := (Course.hits all).take budget, ended := failure.isNone, failure }, stream, l) ∧
      l.calls = k.calls ++ asked.map (Call.resume · keepMillis) ++
        (if ids.isEmpty then [] else [.release ids]) ∧
      (∀ id, id ∈ ids ↔ id ∈ Course.ids all) ∧
      stream.cursor.owed = [] ∧ ∀ m, stream.next b m = (none, stream, m) := by
  have fresh := Cursor.heard_nil keepMillis budget
  have follows := fresh.follows_take rfl opening
  obtain ⟨asked, all, failure, after, last, l, course, done⟩ := finishes b follows k
  refine ⟨asked, all, failure, after, (finish b { cursor := last } l).1,
    (finish b { cursor := last } l).2, last.ids, course, ?_, ?_, ?_, ?_, ?_⟩
  · have joined := join_batch fresh course.grows
    rw [List.drop_zero] at joined
    rw [Cursor.ofResponse, done.taken, follows.limit, joined]
  · have owed : last.owed = if last.ids.isEmpty then [] else [last.ids] := by
      cases none : last.ids.isEmpty <;> simp [Cursor.owed, none, done.unreleased]
    change (last.release b l).2.calls = _
    rw [Cursor.calls_release, done.calls, follows.keeps, owed]
    split <;> rfl
  · exact done.heard.ids
  · simp [finish, Cursor.release, Cursor.close, Cursor.owed]
  · intro m
    rfl

/-- Over an index with enough hits, a stream makes one call less than it has batches. -/
theorem reads_served {scrolling : Scrolling b} {index : String} {wanted : SearchRequest → Prop}
    {found : List Hit} {request : SearchRequest} (served : scrolling.Serves index wanted found)
    (asks : wanted request) (scrolls : request.scrollMillis.isSome) (positive : 1 ≤ request.size)
    (some : 1 ≤ budget) (enough : budget ≤ found.length) (keepMillis : Nat) (k : Connection σ) :
    ∃ cursor m, ∃ asked : List String, ∃ stream l ids,
      Cursor.open? b keepMillis index request budget k = (.ok cursor, m) ∧
      takeHits b none { cursor } m = ({ hits := found.take budget, ended := true }, stream, l) ∧
      l.calls = k.calls ++ [.search index request] ++ asked.map (Call.resume · keepMillis) ++
        [.release ids] ∧
      asked.length = budget ⌈/⌉ request.size - 1 := by
  obtain ⟨r, after, scrollId, answer, total, first, id, holds⟩ :=
    served.scroll k.state asks scrolls positive
  obtain ⟨m, searched, rfl, exchange, -⟩ := Connection.search_ok answer
  have opened : Cursor.open? b keepMillis index request budget k =
      (.ok (.ofResponse keepMillis r budget), m) := by
    simp [Cursor.open?, searched, total, Nat.min_eq_left enough]
  obtain ⟨asked, all, failure, _, stream, l, ids, course, taken, made, known, -⟩ :=
    reads_course b keepMillis budget r m
  have hits : Course.hits [r] = found.take request.size := by simp [Course.hits, first]
  have length : (Course.hits [r]).length = min request.size found.length := by
    rw [hits, List.length_take]
  have latest : (Course.ids [r]).getLast? = Option.some scrollId := by simp [Course.ids, id]
  have filled : Course.Full budget [r] → budget ≤ (Course.hits [r]).length := by
    rintro (used | ⟨last, is, none⟩)
    · exact used
    · obtain rfl : r = last := Option.some.inj is
      rw [first, ← List.length_eq_zero_iff, List.length_take] at none
      omega
  obtain ⟨rfl, same, count⟩ := course.served positive latest holds
    (by rw [length, List.length_drop]; omega) filled
  have member : scrollId ∈ ids := by
    obtain ⟨later, rfl⟩ := course.grows
    rw [known]
    simp [Course.ids, id]
  refine ⟨_, m, asked, stream, l, ids, opened, ?_, ?_, ?_⟩
  · rw [taken, same, hits, List.take_append_drop]
    rfl
  · rw [made, exchange.calls, if_neg]
    rw [List.isEmpty_iff]
    exact List.ne_nil_of_mem member
  · have room : budget - min request.size found.length = budget - request.size := by omega
    rw [count, Course.ceilDiv_step positive some, length, room, Nat.add_sub_cancel]

/-- A stream gives the hits of its scroll, in order and each once, until the budget is used up, a batch
is empty, there is no identifier to continue with, or a continuation fails. Each continuation asks with
the identifier that was given last. Every stream ends, and then the scroll was released by one call
with all identifiers. Where the index has enough hits, a budget takes as many continuations as it has
batches after the first. -/
theorem stream_takes_its_course (b : Backend σ) (keepMillis budget : Nat) (k : Connection σ) :
    (∀ opening : SearchResponse, ∃ asked all failure after stream l ids,
      Course b keepMillis budget [opening] k.state asked all failure after ∧
      takeHits b none { cursor := .ofResponse keepMillis opening budget } k =
        ({ hits := (Course.hits all).take budget, ended := failure.isNone, failure }, stream, l) ∧
      l.calls = k.calls ++ asked.map (Call.resume · keepMillis) ++
        (if ids.isEmpty then [] else [.release ids]) ∧
      (∀ id, id ∈ ids ↔ id ∈ Course.ids all) ∧
      stream.cursor.owed = [] ∧ ∀ m, stream.next b m = (none, stream, m)) ∧
    ∀ (scrolling : Scrolling b) (index : String) (wanted : SearchRequest → Prop) (found : List Hit)
      (request : SearchRequest), scrolling.Serves index wanted found → wanted request →
      request.scrollMillis.isSome → 1 ≤ request.size → 1 ≤ budget → budget ≤ found.length →
      ∃ cursor m, ∃ asked : List String, ∃ stream l ids,
        Cursor.open? b keepMillis index request budget k = (.ok cursor, m) ∧
        takeHits b none { cursor } m = ({ hits := found.take budget, ended := true }, stream, l) ∧
        l.calls = k.calls ++ [.search index request] ++ asked.map (Call.resume · keepMillis) ++
          [.release ids] ∧
        asked.length = budget ⌈/⌉ request.size - 1 := by
  constructor
  · intro opening
    exact reads_course b keepMillis budget opening k
  · intro scrolling index wanted found request served asks scrolls positive some enough
    exact reads_served served asks scrolls positive some enough keepMillis k

/-- Four of five hits in batches of two: one continuation, between the search and the release. -/
theorem four_hits_in_twos :
    let hit (id : String) : Hit := { id, source := .null }
    let found := [hit "a", hit "b", hit "c", hit "d", hit "e"]
    let request : SearchRequest := { query := .null, size := 2, scrollMillis := some 60000 }
    ∃ cursor m stream l,
      Cursor.open? (.listing fun _ => found) 60000 "places" request 4 { state := [] } =
        (.ok cursor, m) ∧
      takeHits (.listing fun _ => found) none { cursor } m =
        ({ hits := [hit "a", hit "b", hit "c", hit "d"], ended := true }, stream, l) ∧
      l.calls.length = 3 := by
  intro hit found request
  have serves : (Scrolling.ofListing fun _ => found).Serves "places" (fun _ => True) found :=
    Scrolling.ofListing_serves (fun _ _ => rfl) "places"
  obtain ⟨-, enough⟩ :=
    stream_takes_its_course (.listing fun _ => found) 60000 4 { state := [] }
  obtain ⟨cursor, m, asked, stream, l, ids, opened, taken, calls, count⟩ :=
    enough _ "places" (fun _ => True) found request serves trivial rfl (by decide) (by decide)
      (by decide)
  refine ⟨cursor, m, stream, l, opened, taken, ?_⟩
  have one : asked.length = 1 := by
    rw [count, Nat.ceilDiv_eq_add_pred_div]
    decide
  simp [calls, one]

end HitStream

end GeoSearch

import GeoSearch.Scroll.Cursor
import GeoSearch.Proofs.Scroll.Course
import GeoSearch.Proofs.Search.Exchange
/-!
Whole lives of cursors, at an index that may answer anything. After the response that opens its scroll,
a cursor is advanced, read and released in any order and any number of times, until its reader drops it,
which releases it as well.

The batches of a cursor hold the first hits of all responses, up to its budget. Its phase only goes
forward, and it asks for nothing once it left the first. Over its life all its identifiers are released,
together and once.
-/
namespace GeoSearch.Cursor

inductive Move where
  | advance
  | read
  | release
  deriving Repr, DecidableEq

def Phase.rank : Phase → Nat
  | .active => 0
  | .exhausted => 1
  | .closed => 2

structure Moment (σ : Type) where
  cursor : Cursor
  connection : Connection σ
  /-- the hits of all batches so far, read or not -/
  placed : List Hit

namespace Moment

def opened (keepMillis budget : Nat) (opening : SearchResponse) (k : Connection σ) : Moment σ where
  cursor := ofResponse keepMillis opening budget
  connection := k
  placed := (ofResponse keepMillis opening budget).batch

def move (b : Backend σ) (m : Moment σ) : Move → Moment σ
  | .advance =>
    match m.cursor.advance b m.connection with
    | (.ok true, c, k) => { cursor := c, connection := k, placed := m.placed ++ c.batch }
    | (_, c, k) => { m with cursor := c, connection := k }
  | .read =>
    match m.cursor.next? with
    | some (_, c) => { m with cursor := c }
    | none => m
  | .release =>
    let (c, k) := m.cursor.release b m.connection
    { m with cursor := c, connection := k }

def moves (b : Backend σ) (m : Moment σ) (made : List Move) : Moment σ := made.foldl (move b) m

def drop (b : Backend σ) (m : Moment σ) : Moment σ := m.move b .release

end Moment

end GeoSearch.Cursor

namespace GeoSearch

open Connection (Exchange)

variable {b : Backend σ}

namespace Cursor

variable {keepMillis budget : Nat} {opening : SearchResponse} {c : Cursor} {k : Connection σ}

theorem exchange_released (b : Backend σ) (c : Cursor) (k : Connection σ) :
    Exchange b k (c.release b k).2 (c.owed.map .release) := by
  unfold release owed
  split
  · exact Exchange.refl b k
  · exact k.exchange_release b c.ids

/-- The batch goes on where the hits that were taken before end. -/
theorem Heard.append_batch (h : c.Heard keepMillis budget heard) (r : SearchResponse) :
    (Course.hits heard).take budget ++ (c.take r).batch =
      (Course.hits (heard ++ [r])).take budget := by
  have room : c.budget - c.taken = budget - (Course.hits heard).length := by
    rw [h.limit, h.taken]
    omega
  have batch : (c.take r).batch = r.hits.take (c.budget - c.taken) := rfl
  rw [batch, room, Course.hits_concat, List.take_append]

theorem sorted_take (r : SearchResponse) (sorted : c.ids.Pairwise (· < ·)) :
    (c.take r).ids.Pairwise (· < ·) := by
  cases given : r.scrollId with
  | none => simpa [take, identify, given] using sorted
  | some id => simpa [take, identify, given] using Text.sorted_insertSorted id sorted

/-- A cursor that can still be continued has not been released. -/
theorem owed_of_active (active : c.phase = .active) :
    c.owed = [c.ids].filter fun ids => !ids.isEmpty :=
  owed_of_phase (by simp [active])

namespace Moment

variable {m n : Moment σ} {made more : List Call} {answers : List SearchResponse}

inductive Change (b : Backend σ) (m : Moment σ) :
    List Call → List SearchResponse → Moment σ → Prop where
  | idle : Change b m [] [] m
  | read : Change b m [] [] { m with cursor := { m.cursor with batch := m.cursor.batch.tail } }
  | unidentified (active : m.cursor.phase = .active) :
      Change b m [] []
        { m with cursor := { m.cursor with phase := .exhausted, batch := [], batchSize := 0 } }
  | failed {id : String} {k : Connection σ} (active : m.cursor.phase = .active)
      (exchange : Exchange b m.connection k [.resume id m.cursor.keepMillis])
      (answer : (b.replay [.resume id m.cursor.keepMillis] m.connection.state).1 = []) :
      Change b m [.resume id m.cursor.keepMillis] [] { m with connection := k }
  | fetched {id : String} {r : SearchResponse} {k : Connection σ} (active : m.cursor.phase = .active)
      (exchange : Exchange b m.connection k [.resume id m.cursor.keepMillis])
      (answer : (b.replay [.resume id m.cursor.keepMillis] m.connection.state).1 = [r]) :
      Change b m [.resume id m.cursor.keepMillis] [r]
        { cursor := m.cursor.take r, connection := k,
          placed := m.placed ++ (m.cursor.take r).batch }
  | released :
      Change b m (m.cursor.owed.map .release) []
        { m with
          cursor := (m.cursor.release b m.connection).1
          connection := (m.cursor.release b m.connection).2 }

theorem change_advance (b : Backend σ) (m : Moment σ) :
    ∃ made answers, Change b m made answers (m.move b .advance) := by
  cases final : m.cursor.isFinal with
  | true =>
    have idle : m.cursor.advance b m.connection = (.ok false, m.cursor, m.connection) := by
      simp [advance, final]
    refine ⟨[], [], ?_⟩
    simp only [move, idle]
    exact .idle
  | false =>
    have active : m.cursor.phase = .active := by simpa [isFinal] using final
    cases latest : m.cursor.nextId with
    | none =>
      refine ⟨[], [], ?_⟩
      simp only [move, advance_unidentified final latest]
      exact .unidentified active
    | some id =>
      have exchange := m.connection.exchange_resume b id m.cursor.keepMillis
      have answer := b.replay_resume id m.cursor.keepMillis m.connection.state
      rw [← (m.connection.resume_answer b id m.cursor.keepMillis).1] at answer
      rcases resumed : m.connection.resume b id m.cursor.keepMillis with ⟨error | r, k⟩
      · rw [resumed] at exchange answer
        refine ⟨[.resume id m.cursor.keepMillis], [], ?_⟩
        simp only [move, advance_failed final latest resumed]
        exact .failed active exchange answer
      · rw [resumed] at exchange answer
        refine ⟨[.resume id m.cursor.keepMillis], [r], ?_⟩
        simp only [move, advance_fetched final latest resumed]
        exact .fetched active (exchange.report _) answer

theorem change_move (b : Backend σ) (m : Moment σ) (next : Move) :
    ∃ made answers, Change b m made answers (m.move b next) := by
  cases next with
  | advance => exact change_advance b m
  | read =>
    refine ⟨[], [], ?_⟩
    cases batch : m.cursor.batch with
    | nil =>
      simp only [move, next?, batch]
      exact .idle
    | cons hit rest =>
      have shorter : Change b m [] [] { m with cursor := { m.cursor with batch := m.cursor.batch.tail } } :=
        .read
      simpa only [move, next?, batch, List.tail_cons] using shorter
  | release => exact ⟨_, _, .released⟩

theorem Change.exchange (change : Change b m made answers n) :
    Exchange b m.connection n.connection made ∧
      (b.replay made m.connection.state).1 = answers := by
  cases change with
  | idle => exact ⟨.refl b _, rfl⟩
  | read => exact ⟨.refl b _, rfl⟩
  | unidentified => exact ⟨.refl b _, rfl⟩
  | failed _ exchange answer => exact ⟨exchange, answer⟩
  | fetched _ exchange answer => exact ⟨exchange, answer⟩
  | released => exact ⟨exchange_released b _ _, b.replay_releases _ _⟩

/-- A phase is never left for an earlier one. -/
theorem Change.rank (change : Change b m made answers n) :
    m.cursor.phase.rank ≤ n.cursor.phase.rank := by
  cases change with
  | idle => exact Nat.le_refl _
  | read => exact Nat.le_refl _
  | unidentified active => simp [active, Phase.rank]
  | failed => exact Nat.le_refl _
  | fetched active => simp [active, Phase.rank]
  | released => cases phase : m.cursor.phase <;> simp [release, close, Phase.rank]

theorem Change.final (change : Change b m made answers n) (final : m.cursor.phase ≠ .active) :
    n.cursor.phase ≠ .active := by
  have rank := change.rank
  intro active
  cases phase : m.cursor.phase <;> simp_all [Phase.rank]

/-- Only an active cursor asks for more. -/
theorem Change.silent (change : Change b m made answers n) (final : m.cursor.phase ≠ .active)
    (id : String) (millis : Nat) : Call.resume id millis ∉ made := by
  cases change with
  | idle | read => exact List.not_mem_nil
  | unidentified active => exact absurd active final
  | failed active => exact absurd active final
  | fetched active => exact absurd active final
  | released => simp

theorem Change.hears {past : List SearchResponse} (change : Change b m made answers n)
    (h : m.cursor.Heard keepMillis budget past) :
    n.cursor.Heard keepMillis budget (past ++ answers) := by
  cases change with
  | fetched => exact h.take _
  | idle | failed => simpa using h
  | read | unidentified =>
    rw [List.append_nil]
    exact ⟨h.keeps, h.limit, h.taken, h.latest, h.ids⟩
  | released =>
    rw [List.append_nil]
    exact ⟨h.keeps, h.limit, h.taken, h.latest, h.ids⟩

theorem Change.places {past : List SearchResponse} (change : Change b m made answers n)
    (h : m.cursor.Heard keepMillis budget past)
    (placed : m.placed = (Course.hits past).take budget) :
    n.placed = (Course.hits (past ++ answers)).take budget := by
  cases change with
  | fetched => exact placed ▸ h.append_batch _
  | idle | read | unidentified | failed | released => rwa [List.append_nil]

theorem Change.sorted (change : Change b m made answers n) (sorted : m.cursor.ids.Pairwise (· < ·)) :
    n.cursor.ids.Pairwise (· < ·) := by
  cases change with
  | fetched => exact sorted_take _ sorted
  | idle | read | unidentified | failed | released => exact sorted

/-- A call that releases takes what is owed off; a new identifier is owed as well. -/
theorem Change.balance {base : List (List String)} (change : Change b m made answers n)
    (balance : m.connection.releases ++ m.cursor.owed =
      base ++ [m.cursor.ids].filter fun ids => !ids.isEmpty) :
    n.connection.releases ++ n.cursor.owed = base ++ [n.cursor.ids].filter fun ids => !ids.isEmpty := by
  cases change with
  | idle | read => exact balance
  | unidentified active =>
    rw [owed_of_active active] at balance
    rw [owed_of_phase (by simp), balance]
  | failed active exchange =>
    have kept := exchange.releases_of_resume
    rwa [kept]
  | fetched active exchange =>
    rw [owed_of_active active] at balance
    rw [exchange.releases_of_resume, owed_of_phase (phase_take _ (by simp [active]))]
    rw [List.append_cancel_right balance]
  | released =>
    have none : (m.cursor.release b m.connection).1.owed = [] := by simp [release, close, owed]
    rw [releases_release, none, List.append_nil]
    exact balance

/-- What is true of a cursor at any time, after these calls: it heard all answers to them, and what was
released and what is still owed is one set of identifiers, those that were given. -/
structure Lived (b : Backend σ) (keepMillis budget : Nat) (opening : SearchResponse)
    (start : Connection σ) (made : List Call) (m : Moment σ) : Prop where
  exchange : Exchange b start m.connection made
  heard : m.cursor.Heard keepMillis budget (opening :: (b.replay made start.state).1)
  placed : m.placed = (Course.hits (opening :: (b.replay made start.state).1)).take budget
  sorted : m.cursor.ids.Pairwise (· < ·)
  released : m.connection.releases ++ m.cursor.owed =
    start.releases ++ [m.cursor.ids].filter fun ids => !ids.isEmpty

theorem lived_opened (b : Backend σ) (keepMillis budget : Nat) (opening : SearchResponse)
    (start : Connection σ) :
    Lived b keepMillis budget opening start [] (opened keepMillis budget opening start) where
  exchange := .refl b start
  heard := (heard_nil keepMillis budget).take opening
  placed := by simp [opened, ofResponse, take, Course.hits, Backend.replay]
  sorted := sorted_take opening .nil
  released := congrArg (start.releases ++ ·) (owed_of_phase (phase_take opening (by simp)))

theorem Lived.change {start : Connection σ} (change : Change b m more answers n)
    (life : Lived b keepMillis budget opening start made m) :
    Lived b keepMillis budget opening start (made ++ more) n := by
  have responses : (b.replay (made ++ more) start.state).1 =
      (b.replay made start.state).1 ++ answers := by
    rw [Backend.replay_append, ← life.exchange.state, change.exchange.2]
  constructor
  · exact life.exchange.trans change.exchange.1
  · exact responses ▸ change.hears life.heard
  · exact responses ▸ change.places life.heard life.placed
  · exact change.sorted life.sorted
  · exact change.balance life.released

/-- Moves in a row are changes one after the other. -/
theorem lived_moves {start : Connection σ} (later : List Move)
    (life : Lived b keepMillis budget opening start made m) :
    ∃ more, Lived b keepMillis budget opening start (made ++ more) (m.moves b later) ∧
      m.cursor.phase.rank ≤ (m.moves b later).cursor.phase.rank ∧
      (m.cursor.phase ≠ .active → ∀ id millis, Call.resume id millis ∉ more) := by
  induction later generalizing m made with
  | nil => exact ⟨[], (List.append_nil made).symm ▸ life, Nat.le_refl _, by simp⟩
  | cons next later ih =>
    obtain ⟨first, answers, change⟩ := change_move b m next
    obtain ⟨rest, lived, rank, silent⟩ := ih (life.change change)
    refine ⟨first ++ rest, List.append_assoc made first rest ▸ lived, change.rank.trans rank, ?_⟩
    intro final id millis called
    rcases List.mem_append.mp called with now | later
    · exact change.silent final id millis now
    · exact silent (change.final final) id millis later

theorem drop_moves (b : Backend σ) (m : Moment σ) (made : List Move) :
    (m.moves b made).drop b = m.moves b (made ++ [.release]) := by
  simp [drop, moves]

theorem Lived.releases_of_closed {start : Connection σ}
    (life : Lived b keepMillis budget opening start made m) (closed : m.cursor.phase = .closed) :
    m.connection.releases = start.releases ++ if m.cursor.ids.isEmpty then [] else [m.cursor.ids] := by
  have balance := life.released
  have paid : m.cursor.owed = [] := by simp [owed, closed]
  rw [paid, List.append_nil] at balance
  rw [balance]
  cases none : m.cursor.ids.isEmpty <;> simp [none]

end Moment

/-- At an index that may answer anything, a cursor is advanced, read and released in any order and then
dropped. Its batches hold the first hits of all responses, as many as the budget allows. No phase is
left for an earlier one, and after an exhausted or closed one nothing is asked for. All identifiers that
were given are released by one call, each once; without any, no call is made. -/
theorem life_within_budget (b : Backend σ) (keepMillis budget : Nat) (opening : SearchResponse)
    (start : Connection σ) (before after : List Move) :
    let opened := Moment.opened keepMillis budget opening start
    let halfway := opened.moves b before
    let dropped := (halfway.moves b after).drop b
    ∃ (made later : List Call) (ids : List String),
      dropped.connection.calls = start.calls ++ made ∧
      dropped.connection.calls = halfway.connection.calls ++ later ∧
      dropped.placed = (Course.hits (opening :: (b.replay made start.state).1)).take budget ∧
      dropped.placed.length ≤ budget ∧
      halfway.cursor.phase.rank ≤ (halfway.moves b after).cursor.phase.rank ∧
      dropped.cursor.phase = .closed ∧
      (halfway.cursor.phase ≠ .active → ∀ id millis, Call.resume id millis ∉ later) ∧
      dropped.connection.releases = start.releases ++ (if ids.isEmpty then [] else [ids]) ∧
      ids.Pairwise (· < ·) ∧
      ∀ id, id ∈ ids ↔ id ∈ Course.ids (opening :: (b.replay made start.state).1) := by
  intro opened halfway dropped
  have born := Moment.lived_opened b keepMillis budget opening start
  obtain ⟨first, lived, -, -⟩ := Moment.lived_moves before born
  obtain ⟨-, -, forward, -⟩ := Moment.lived_moves after lived
  have released : dropped = halfway.moves b (after ++ [.release]) := Moment.drop_moves b halfway after
  obtain ⟨rest, gone, -, silent⟩ := Moment.lived_moves (after ++ [.release]) lived
  have closed : dropped.cursor.phase = .closed := rfl
  rw [← released] at gone
  have joined : dropped.connection.calls = halfway.connection.calls ++ rest := by
    rw [gone.exchange.calls, lived.exchange.calls]
    simp
  have within : dropped.placed.length ≤ budget := by
    rw [gone.placed]
    exact List.length_take_le _ _
  rw [List.nil_append] at gone
  exact ⟨first ++ rest, rest, dropped.cursor.ids, gone.exchange.calls, joined, gone.placed, within,
    forward, closed, silent, gone.releases_of_closed closed, gone.sorted, gone.heard.ids⟩

/-- Responses with more hits than wanted and an identifier given twice, to a cursor that is advanced
over unread hits and after its release, which the index refuses. -/
theorem life_of_three_hits :
    let hit (id : String) : Hit := { id, source := .null }
    let response (id : String) : SearchResponse :=
      { total := 9, hits := [hit "x", hit "y"], scrollId := some id }
    let b : Backend Unit :=
      { search := fun _ _ _ => (.ok (response "b"), ())
        resume := fun _ _ _ => (.ok (response "a"), ())
        release := fun _ _ => (.error (.request "refused"), ()) }
    let dropped := (((Moment.opened 60000 3 (response "b") { state := () }).moves b
      [.read, .advance]).moves b [.advance, .release, .advance]).drop b
    dropped.placed.length ≤ 3 ∧ dropped.placed = [hit "x", hit "y", hit "x"] ∧
      dropped.connection.releases = [["a", "b"]] := by
  intro hit response b dropped
  obtain ⟨made, later, ids, -, -, -, within, -⟩ :=
    life_within_budget b 60000 3 (response "b") { state := () } [.read, .advance]
      [.advance, .release, .advance]
  exact ⟨within, rfl, by decide +kernel⟩

end Cursor
end GeoSearch

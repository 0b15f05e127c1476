import GeoSearch.Proofs.Paging.Alike
import GeoSearch.Proofs.Paging.Custody
/-!
Rejected requests. A request that comes out of sequence, or after its session has expired, is
answered with an error and leaves nothing behind but a count and a line of the log.
-/
namespace GeoSearch.Paging

/-- The session has nothing to do with the query, or no more: a first page starts afresh. -/
def Slot.Yields (key : String) : Option Slot → Prop
  | none => True
  | some .expired => True
  | some (.live binding) => binding.key ≠ key
  | some (.busy _ held _) => held ≠ key

theorem Binding.verdict_eq_fresh {binding : Binding} {r : PageRequest} :
    binding.verdict r = .fresh ↔ r.start = 0 ∧ binding.key ≠ r.key := by
  unfold Binding.verdict
  split
  · next other => split <;> simp_all
  · next same =>
    have never : ¬ (r.start = 0 ∧ binding.key ≠ r.key) := fun fresh => same fresh.2
    split
    · simp [never]
    · split <;> simp [never]

theorem Slot.verdict_eq_fresh {slot : Option Slot} {r : PageRequest} :
    Slot.verdict r slot = .fresh ↔ r.start = 0 ∧ Slot.Yields r.key slot := by
  match slot with
  | none => by_cases first : r.start = 0 <;> simp [Slot.verdict, Slot.Yields, first]
  | some .expired => by_cases first : r.start = 0 <;> simp [Slot.verdict, Slot.Yields, first]
  | some (.busy _ key start) =>
    by_cases fresh : r.start = 0 ∧ key ≠ r.key
    · simp [Slot.verdict, Slot.Yields, fresh]
    · simp [Slot.verdict, Slot.Yields, fresh]
  | some (.live binding) => exact Binding.verdict_eq_fresh

namespace State

variable {b : Backend σ} {p after : State σ} {r : PageRequest}

theorem begin_eq_fresh (answer : p.begin b r = (.ok .fresh, after)) :
    r.start = 0 ∧ Slot.Yields r.key (p.slot? r.session) := by
  have reply := reply b p r
  rw [answer] at reply
  cases reply with
  | fresh verdict => exact Slot.verdict_eq_fresh.mp verdict

/-- A rejected request leaves the state alike, unless the timer of a kept cursor got there first. -/
theorem begin_error_cases {error : Error} (answer : p.begin b r = (.error error, after)) :
    after.Alike p ∨
      ∃ binding, p.slot? r.session = some (.live binding) ∧
        (p.timers.cancel binding.timer).1 = false ∧ error = .notFound r.session := by
  have reply := reply b p r
  rw [answer] at reply
  cases reply with
  | reject => exact .inl ⟨⟨rfl, rfl⟩, rfl, rfl⟩
  | lose verdict late => exact .inr ⟨_, (Slot.verdict_resume verdict).1, late, rfl⟩

theorem begin_reject {error : Error} (answer : p.begin b r = (.error error, after))
    (settled : error.isInconsistent = true ∨
      error = .notFound r.session ∧ p.slot? r.session = some .expired) : after.Alike p := by
  rcases begin_error_cases answer with same | ⟨binding, live, -, rfl⟩
  · exact same
  · rcases settled with inconsistent | ⟨-, expired⟩
    · cases inconsistent
    · rw [expired] at live
      cases live

end State

namespace Run

/-- A request that is answered with an error, and leaves the state alike, leaves the run alike. -/
theorem alike_of_reject {b : Backend σ} {r : Run σ} {q : PageRequest} {error : Error}
    {after : State σ} (answer : r.state.begin b q = (.error error, after))
    (same : after.Alike r.state) : (r.step b (.request q)).Alike r := by
  have act : r.act b (.request q) = r.setState after := by simp [Run.act, Run.request, answer]
  have held : (r.setState after).held = r.held := by
    rw [Run.held, Run.setState, same.store]
    rfl
  have gone : (r.setState after).parted r.held = [] := held ▸ parted_held (r.setState after)
  have step : r.step b (.request q) = r.setState after := by
    change { r.act b (.request q) with gone := r.gone ++ (r.act b (.request q)).parted r.held } = _
    rw [act, gone, List.append_nil]
    rfl
  rw [step]
  exact ⟨same, rfl, rfl, rfl, rfl, rfl⟩

/-- In whatever state a store is, a request that comes out of sequence, or finds its session expired,
changes no slot, cursor or timer and makes no call. Whatever follows is answered as if it had not been
made, and comes to the same but for reports and counters. A page is handed out only for exactly the
page that is next in a kept slot, and a first page is opened only where the session yields. -/
theorem rejected_request_leaves_no_trace (b : Backend σ) (r : Run σ) (q : PageRequest) :
    (∀ error after, r.state.begin b q = (.error error, after) →
      error.isInconsistent = true ∨
        error = .notFound q.session ∧ r.state.slot? q.session = some .expired →
      (after.store = r.state.store ∧ after.timers = r.state.timers ∧
        after.connection.calls = r.state.connection.calls ∧
        after.connection.state = r.state.connection.state) ∧
      (r.step b (.request q)).pages = r.pages ∧ (r.step b (.request q)).gone = r.gone ∧
      ∀ later, (r.step b (.request q)).answers b later = r.answers b later ∧
        ((r.step b (.request q)).run b later).Alike (r.run b later)) ∧
    (∀ page after, r.state.begin b q = (.ok (.resume page), after) →
      ∃ binding, r.state.slot? q.session = some (.live binding) ∧
        binding.key = q.key ∧ binding.size = q.size ∧ binding.next = q.start) ∧
    ∀ after, r.state.begin b q = (.ok .fresh, after) →
      q.start = 0 ∧ Slot.Yields q.key (r.state.slot? q.session) := by
  refine ⟨?_, ?_, ?_⟩
  · intro error after answer settled
    have same := State.begin_reject answer settled
    have alike := alike_of_reject answer same
    refine ⟨⟨same.store, same.timers, same.connection.calls, same.connection.state⟩, alike.pages,
      alike.gone, fun later => ⟨alike.answers b later, alike.run b later⟩⟩
  · intro page after answer
    obtain ⟨binding, live, key, start, size, -⟩ := State.begin_resume answer
    exact ⟨binding, live, key.symm, size.symm, start.symm⟩
  · intro after answer
    exact State.begin_eq_fresh answer

/-- A session asks for its first page twice. The next page is handed out to it all the same. -/
theorem next_page_after_repeated_first :
    let r := run endless (initial 1000 {} ()) twoReaders
    let first : PageRequest := { session := "ann", key := "all", start := 0, size := 1 }
    let next : PageRequest := { first with start := 1 }
    (∃ after, r.state.begin endless first = (.error (.index 1 0), after)) ∧
      (∃ page after, r.state.begin endless next = (.ok (.resume page), after)) ∧
      (r.step endless (.request first)).answers endless [.request next] =
        r.answers endless [.request next] := by
  intro r first next
  obtain ⟨unnoticed, -, -⟩ := rejected_request_leaves_no_trace endless r first
  obtain ⟨-, -, -, later⟩ := unnoticed (.index 1 0) _ rfl (.inl rfl)
  exact ⟨⟨_, rfl⟩, ⟨_, _, rfl⟩, (later [.request next]).1⟩

end Run

end GeoSearch.Paging

import GeoSearch.Proofs.Paging.Abreast
/-!
Sessions on their own. What a session gets from a store that it shares with others is what it would
get from one of its own.
-/
namespace GeoSearch.Paging.Run

variable {b : Backend σ} {index : σ} {session : String} {r s : Run σ}
  {uses more : List (Nat × Cursor.Use)} {pagers alarms : List (Nat × Nat)}

namespace Twins

/-- What another session does in the one run makes no difference. -/
theorem bystand (twins : Twins b index session pagers alarms r s uses more) {owner : String}
    {move : Move} (isOf : r.IsOf owner move) (apart : owner ≠ session) :
    Twins b index session pagers alarms (r.step b move) s (uses ++ r.uses b uses.length move) more := by
  obtain ⟨left, right, agree, used⟩ := twins
  have spared := spared_step left.timed left.owned left.custody b isOf apart
  have after := left.step isOf
  refine ⟨after, right, agree.of_spared spared (.refl session s), ?_⟩
  intro x member
  have others : ∀ use ∈ r.uses b uses.length move, use.1 ≠ 2 * x.1 := by
    intro use made same
    rcases uses_of left.owned b uses.length isOf made with ⟨pager, own, number⟩ | number
    · have known : x.1 ∈ (r.step b move).pagersOf session :=
        pagersOf_step b r move (agree.paired.mem_left member)
      have equal : pager = x.1 := by omega
      exact apart (after.custody.session_unique (equal ▸ own) known)
    · omega
  rw [Cursor.history_append, Cursor.history_eq_nil others, List.append_nil]
  exact used x member

theorem elapse (twins : Twins b index session pagers alarms r s uses more) (millis : Nat) :
    Twins b index session pagers alarms (r.step b (.elapse millis)) (s.step b (.elapse millis)) uses
      more := by
  obtain ⟨left, right, agree, used⟩ := twins
  exact ⟨left.elapse millis, right.elapse millis, ⟨agree.ttl, agree.granted, agree.paired,
    agree.timers.elapse millis, agree.slot, agree.pages⟩, used⟩

/-- The session sees the same in both runs, and knows the same in the end. -/
theorem outcomes (twins : Twins b index session pagers alarms r s uses more)
    (independent : b.Independent index) (events : List Event) :
    r.outcomes b session events = s.outcomes b session (events.filter (·.concerns session)) ∧
      (r.happenAll b events).state.expectedIndex session =
        (s.happenAll b (events.filter (·.concerns session))).state.expectedIndex session := by
  induction events generalizing r s uses more pagers alarms with
  | nil => exact ⟨rfl, twins.agree.slot.expectedIndex⟩
  | cons event later ih =>
    cases event with
    | elapse millis => exact ih (twins.elapse millis)
    | deed owner deed =>
      have isOf := isOf_moveOf twins.left.custody twins.left.owned owner deed
      by_cases own : owner = session
      · subst own
        have isOf' := isOf_moveOf twins.right.custody twins.right.owned owner deed
        obtain ⟨answer, pagers', alarms', agree, used⟩ := twins.step independent deed
        have next : Twins b index owner pagers' alarms' _ _ _ _ :=
          ⟨twins.left.step isOf, twins.right.step isOf', agree, used⟩
        obtain ⟨outcomes, expected⟩ := ih next
        have concerns : (Event.deed owner deed).concerns owner = true := beq_self_eq_true owner
        rw [List.filter_cons_of_pos concerns]
        refine ⟨?_, expected⟩
        simp only [Run.outcomes, if_true, answer, outcomes, agree.slot.expectedIndex]
      · have other : ¬ (Event.deed owner deed).concerns session = true := by
          simpa [Event.concerns] using own
        rw [List.filter_cons_of_neg other]
        simp only [Run.outcomes, if_neg own]
        exact ih (twins.bystand isOf own)

end Twins

theorem twins_initial (b : Backend σ) (ttlMillis : Nat) (timers : Timers Alarm) (index : σ)
    (granted : List PageRequest)
    (unset : ∀ timer ∈ timers.all, ∀ session pager, timer.action ≠ .idle session pager)
    (session : String) :
    let start : Run σ := { initial ttlMillis timers index with granted }
    Twins b index session [] [] start start [] [] := by
  intro start
  have sound : Sound b index start [] :=
    { custody := (custody_initial ttlMillis timers index).grant granted
      timed := timed_initial ttlMillis timers index granted unset
      owned := owned_initial ttlMillis timers index granted unset
      follows := follows_initial ttlMillis timers index granted b
      even := fun _ member => nomatch member
      odd := fun _ member => nomatch member }
  have none : idleTimers timers session = [] := by
    refine List.eq_nil_iff_forall_not_mem.mpr fun id member => ?_
    obtain ⟨timer, pager, set, action⟩ := mem_idleTimers.mp member
    exact action_ne_of_unset unset set session pager action
  have timed : TimedAlike session [] [] timers timers :=
    ⟨rfl, rfl, none ▸ ⟨rfl, rfl, List.nodup_nil, List.nodup_nil⟩, fun _ member => nomatch member⟩
  exact ⟨sound, sound, ⟨rfl, fun _ _ => Iff.rfl, ⟨rfl, rfl, List.nodup_nil, List.nodup_nil⟩, timed, .free,
    fun _ member => nomatch member⟩, fun _ member => nomatch member⟩

/-- Whatever several sessions and their timers do at one store, and in whatever order, each session
sees what it would see if the others had done nothing: the same answers to all it does, with the same
hits and errors, and the same place for its next page after each and at any time. The index has to
keep cursors apart, and nobody else sets timers for pagers. -/
theorem sessions_do_not_interfere (b : Backend σ) (ttlMillis : Nat) (timers : Timers Alarm) (index : σ)
    (granted : List PageRequest) (independent : b.Independent index)
    (unset : ∀ timer ∈ timers.all, ∀ session pager, timer.action ≠ .idle session pager)
    (session : String) (events : List Event) :
    let start : Run σ := { initial ttlMillis timers index with granted }
    let alone := events.filter (·.concerns session)
    start.outcomes b session events = start.outcomes b session alone ∧
      (start.happenAll b events).state.expectedIndex session =
        (start.happenAll b alone).state.expectedIndex session :=
  (twins_initial b ttlMillis timers index granted unset session).outcomes independent events

/-- Two sessions read the same query page by page. One comes back too late for its next page. -/
def sharedReading : List Event :=
  let search : Search :=
    { keepMillis := 60000, index := "places", request := { query := .null, size := 1 }, maxHits := 9 }
  [.deed "ann" (.request "all" 0 1), .deed "ben" (.request "all" 0 1),
    .deed "ben" (.start "all" 0 1 search), .deed "ann" (.start "all" 0 1 search),
    .deed "ann" (.read 0), .deed "ann" (.close 0), .elapse 400, .deed "ben" (.close 0), .elapse 700,
    .deed "ann" (.claim 0), .deed "ben" (.request "all" 1 1), .deed "ann" (.ring 0),
    .deed "ben" (.read 0), .deed "ann" (.request "all" 1 1)]

theorem late_reader_beside_another :
    (initial 1000 {} ()).outcomes endless "ann" sharedReading =
      [(.fresh, none),
        (.page { start := 0, size := 1, hits := [{ id := "first", source := .null }], isFinal := false },
          none),
        (.hit (some { id := "first", source := .null }), none), (.done, some 1), (.nothing, some 1),
        (.nothing, none), (.failed (.notFound "ann"), none)] :=
  (sessions_do_not_interfere endless 1000 {} () []
    (Backend.Steady.independent ⟨fun _ _ _ _ => rfl, fun _ _ _ _ => rfl⟩ ()) (by simp) "ann"
    sharedReading).1.trans rfl

end GeoSearch.Paging.Run

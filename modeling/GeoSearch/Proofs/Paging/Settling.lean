import GeoSearch.Proofs.Paging.Deadlines
import GeoSearch.Proofs.Paging.Fate
/-!
Timers that are never late. Between the moves of a run on a clock, each timer of a pager is finished
or still has time. Once time has run out for a kept cursor, it is not there for the next move.
-/
namespace GeoSearch.Paging

/-! ### The timers between two moves -/

structure Calm (t : Timers Alarm) : Prop where
  running : t.shutDown = false
  stage : ∀ id timer session pager, t.timer? id = some timer → timer.action = .idle session pager →
    timer.stage = .waiting ∨ timer.stage = .finished

structure Settled (t : Timers Alarm) : Prop extends Calm t where
  early : ∀ id timer session pager, t.timer? id = some timer → timer.action = .idle session pager →
    timer.stage = .waiting → t.now < timer.due

namespace Run

variable {b : Backend σ} {r : Run σ} {move : Move}

theorem Calm.step (calm : Calm r.state.timers) (b : Backend σ) (outer : move.isOuter = true) :
    Calm (r.step b move).state.timers := by
  have timing : Timing r move (r.step b move).state.timers := (effect b r move).timing
  generalize (r.step b move).state.timers = after at timing
  cases timing with
  | same => exact calm
  | cancelled _ other =>
    refine ⟨(Timers.shutDown_cancel ..).trans calm.running, ?_⟩
    intro id timer session pager set action
    rw [Timers.timer?_cancel] at set
    split at set
    · obtain ⟨before, was, rfl⟩ := Option.map_eq_some_iff.mp set
      rw [Watches.action_finish] at action
      rcases calm.stage id before session pager was action with stage | stage <;>
        simp [Timer.finish, Timer.isClaimed, stage]
    · exact calm.stage id timer session pager set action
  | scheduled =>
    refine ⟨(Timers.shutDown_schedule ..).trans calm.running, ?_⟩
    intro id timer session pager set action
    rw [Timers.timer?_schedule] at set
    split at set
    · cases set
      simp [calm.running]
    · exact calm.stage id timer session pager set action
  | elapsed => exact ⟨calm.running, calm.stage⟩
  | claimed => cases outer
  | taken => cases outer
  | stopped => cases outer

/-- Timers that are set keep their time. -/
theorem timer?_step (b : Backend σ) (outer : move.isOuter = true) {id : Nat} {timer : Timer Alarm}
    (set : r.state.timers.timer? id = some timer) :
    ∃ now, (r.step b move).state.timers.timer? id = some now ∧ now.due = timer.due := by
  have timing : Timing r move (r.step b move).state.timers := (effect b r move).timing
  generalize (r.step b move).state.timers = after at timing ⊢
  cases timing with
  | same => exact ⟨timer, set, rfl⟩
  | cancelled _ other =>
    rw [Timers.timer?_cancel, set]
    split
    · refine ⟨timer.finish, rfl, ?_⟩
      unfold Timer.finish
      split <;> rfl
    · exact ⟨timer, rfl, rfl⟩
  | scheduled =>
    have before := Timers.lt_of_timer? set
    rw [Timers.timer?_schedule, if_neg (by omega)]
    exact ⟨timer, set, rfl⟩
  | elapsed => exact ⟨timer, set, rfl⟩
  | claimed => cases outer
  | taken => cases outer
  | stopped => cases outer

/-- The clock goes on when it is told to, and with no other move. -/
theorem now_step (b : Backend σ) (r : Run σ) (outer : move.isOuter = true) :
    r.now ≤ (r.step b move).now ∧
      (r.now < (r.step b move).now → ∃ millis, move = .elapse millis) := by
  have timing : Timing r move (r.step b move).state.timers := (effect b r move).timing
  unfold now
  generalize (r.step b move).state.timers = after at timing ⊢
  cases timing with
  | same => exact ⟨Nat.le_refl _, fun later => absurd later (Nat.lt_irrefl _)⟩
  | cancelled _ other =>
    rw [Timers.now_cancel]
    exact ⟨Nat.le_refl _, fun later => absurd later (Nat.lt_irrefl _)⟩
  | scheduled =>
    rw [Timers.now_schedule]
    exact ⟨Nat.le_refl _, fun later => absurd later (Nat.lt_irrefl _)⟩
  | elapsed millis => exact ⟨Nat.le_add_right .., fun _ => ⟨millis, rfl⟩⟩
  | claimed => cases outer
  | taken => cases outer
  | stopped => cases outer

/-! ### What falls due -/

theorem state_claims (b : Backend σ) (r : Run σ) (ids : List Nat) :
    (r.run b (ids.map .claim)).state =
      { r.state with timers := ids.foldl Timers.claim r.state.timers } := by
  induction ids generalizing r with
  | nil => rfl
  | cons first rest ih => exact ih (r.step b (.claim first))

theorem timers_rings (b : Backend σ) (r : Run σ) (ids : List Nat) :
    (r.run b (ids.map .ring)).state.timers =
      ids.foldl (fun t timer => (t.take? timer).2) r.state.timers := by
  induction ids generalizing r with
  | nil => rfl
  | cons first rest ih =>
    have later := ih (r.step b (.ring first))
    have timers : (r.step b (.ring first)).state.timers = (r.state.timers.take? first).2 :=
      timers_ring b r first
    rw [timers] at later
    exact later

theorem run_append (b : Backend σ) (r : Run σ) (moves later : List Move) :
    r.run b (moves ++ later) = (r.run b moves).run b later := List.foldl_append ..

theorem mem_order {t : Timers Alarm} {id : Nat} : id ∈ t.order ↔ id < t.all.length := by
  simp only [Timers.order, List.mem_map, List.mem_mergeSort, Prod.exists, List.mem_zipIdx_iff_getElem?]
  constructor
  · rintro ⟨timer, _, found, rfl⟩
    exact (List.getElem?_eq_some_iff.mp found).1
  · exact fun inside => ⟨_, id, List.getElem?_eq_getElem inside, rfl⟩

theorem timers_settle (b : Backend σ) (r : Run σ) :
    (r.settle b).state.timers =
      r.state.timers.order.foldl (fun t timer => (t.take? timer).2)
        (r.state.timers.order.foldl Timers.claim r.state.timers) := by
  rw [settle, run_append, timers_rings, state_claims]

theorem now_claims (t : Timers Alarm) (ids : List Nat) :
    (ids.foldl Timers.claim t).now = t.now ∧ (ids.foldl Timers.claim t).shutDown = t.shutDown := by
  induction ids generalizing t with
  | nil => exact ⟨rfl, rfl⟩
  | cons first rest ih => exact ih (t.claim first)

theorem now_takes (t : Timers Alarm) (ids : List Nat) :
    (ids.foldl (fun t timer => (t.take? timer).2) t).now = t.now ∧
      (ids.foldl (fun t timer => (t.take? timer).2) t).shutDown = t.shutDown := by
  induction ids generalizing t with
  | nil => exact ⟨rfl, rfl⟩
  | cons first rest ih =>
    obtain ⟨now, shutDown⟩ := ih (t.take? first).2
    exact ⟨now.trans (t.now_take? first), shutDown.trans (t.shutDown_take? first)⟩

theorem now_settle (b : Backend σ) (r : Run σ) : (r.settle b).now = r.now := by
  rw [now, timers_settle, (now_takes _ _).1, (now_claims _ _).1, now]

/-- All that is due is run. -/
theorem timer?_settle (b : Backend σ) (r : Run σ) (id : Nat) :
    (r.settle b).state.timers.timer? id =
      (r.state.timers.timer? id).map fun timer => (timer.claimAt r.now).run := by
  rw [timers_settle, Timers.timer?_takes, Timers.timer?_claims]
  by_cases known : id ∈ r.state.timers.order
  · rw [if_pos known, if_pos known, Option.map_map]
    rfl
  · have unset : r.state.timers.timer? id = none := by
      rw [mem_order] at known
      rw [Timers.timer?, List.getElem?_eq_none (by omega)]
      rfl
    rw [if_neg known, if_neg known, unset]
    rfl

theorem action_settle (now : Nat) (timer : Timer Alarm) :
    (timer.claimAt now).run.action = timer.action ∧ (timer.claimAt now).run.due = timer.due := by
  unfold Timer.run Timer.claimAt
  split <;> split <;> exact ⟨rfl, rfl⟩

theorem settled_settle (b : Backend σ) (calm : Calm r.state.timers) :
    Settled (r.settle b).state.timers := by
  have stages (id : Nat) (timer : Timer Alarm) (session : String) (pager : Nat)
      (set : (r.settle b).state.timers.timer? id = some timer)
      (action : timer.action = .idle session pager) :
      timer.stage = .finished ∨ timer.stage = .waiting ∧ r.now < timer.due := by
    rw [timer?_settle] at set
    obtain ⟨before, was, rfl⟩ := Option.map_eq_some_iff.mp set
    rw [(action_settle r.now before).1] at action
    rcases calm.stage id before session pager was action with stage | stage
    · by_cases due : before.due ≤ r.now
      · left
        simp [Timer.claimAt, Timer.run, stage, due]
      · right
        have later : r.now < before.due := by omega
        simp [Timer.claimAt, Timer.run, stage, due, later]
    · left
      simp [Timer.claimAt, Timer.run, stage]
  refine { running := ?_, stage := ?_, early := ?_ }
  · rw [timers_settle, (now_takes _ _).2, (now_claims _ _).2]
    exact calm.running
  · intro id timer session pager set action
    rcases stages id timer session pager set action with finished | ⟨waiting, -⟩
    · exact .inr finished
    · exact .inl waiting
  · intro id timer session pager set action waiting
    change (r.settle b).now < timer.due
    rw [now_settle]
    rcases stages id timer session pager set action with finished | ⟨-, later⟩
    · cases waiting.symm.trans finished
    · exact later

/-! ### What a session holds when all that is due is run -/

variable {session : String} {binding : Binding}

/-- An alarm does nothing to a session that keeps no cursor. -/
theorem slot_ring_of_unkept (b : Backend σ) (timer : Nat)
    (unkept : ∀ binding, r.state.slot? session ≠ some (.live binding)) :
    (r.ring b timer).state.slot? session = r.state.slot? session := by
  cases (effect b r (.ring timer)).fate session with
  | same unended slot => exact slot
  | ended ends => exact ends.elim
  | rang live => exact absurd live (unkept _)
  | vacated gone =>
    obtain ⟨position, impossible | impossible⟩ := gone <;> cases impossible

theorem slot_rings_of_unkept (b : Backend σ) (ids : List Nat)
    (unkept : ∀ binding, r.state.slot? session ≠ some (.live binding)) :
    (r.run b (ids.map .ring)).state.slot? session = r.state.slot? session := by
  induction ids generalizing r with
  | nil => rfl
  | cons first rest ih =>
    have slot : (r.step b (.ring first)).state.slot? session = r.state.slot? session :=
      slot_ring_of_unkept b first unkept
    exact (ih fun binding => slot ▸ unkept binding).trans slot

/-- The cursor of a session is kept on unless its own timer claimed the action. -/
theorem slot_ring_of_live (timed : Timed r) (b : Backend σ) (timer : Nat)
    (live : r.state.slot? session = some (.live binding)) :
    (r.ring b timer).state.slot? session =
      if timer = binding.timer ∧
          ∃ own, r.state.timers.timer? timer = some own ∧ own.stage = .claimed then
        some .expired
      else some (.live binding) := by
  by_cases claims : timer = binding.timer ∧
      ∃ own, r.state.timers.timer? timer = some own ∧ own.stage = .claimed
  · rw [if_pos claims]
    obtain ⟨rfl, own, set, claimed⟩ := claims
    obtain ⟨watch, found, -, action⟩ := timed.kept session binding live
    cases set.symm.trans found
    have taken := (r.state.timers.take?_eq_some_iff binding.timer).mpr ⟨own, set, claimed, action⟩
    unfold Run.ring
    rcases taking : r.state.timers.take? binding.timer with ⟨_, timers⟩
    rw [taking] at taken
    dsimp only at taken
    subst taken
    exact State.slot_expire b (p := { r.state with timers }) live
  · rw [if_neg claims]
    cases (effect b r (.ring timer)).fate session with
    | same unended slot => exact slot.trans live
    | ended ends => exact ends.elim
    | rang kept taken =>
      cases live.symm.trans kept
      obtain ⟨own, set, claimed, -⟩ := (r.state.timers.take?_eq_some_iff timer).mp taken
      have mine := timed.timer_of_taken taken live rfl
      exact absurd ⟨mine.symm, own, set, claimed⟩ claims
    | vacated gone =>
      obtain ⟨position, impossible | impossible⟩ := gone <;> cases impossible

theorem slot_rings_of_live (timed : Timed r) (custody : Custody r) (b : Backend σ) (ids : List Nat)
    {own : Timer Alarm} (live : r.state.slot? session = some (.live binding))
    (set : r.state.timers.timer? binding.timer = some own) :
    (r.run b (ids.map .ring)).state.slot? session =
      if binding.timer ∈ ids ∧ own.stage = .claimed then some .expired
      else some (.live binding) := by
  induction ids generalizing r with
  | nil =>
    rw [if_neg (fun claims => nomatch claims.1)]
    exact live
  | cons first rest ih =>
    have slot : (r.step b (.ring first)).state.slot? session = _ :=
      slot_ring_of_live timed b first live
    have timers : (r.step b (.ring first)).state.timers = (r.state.timers.take? first).2 :=
      timers_ring b r first
    change ((r.step b (.ring first)).run b (rest.map .ring)).state.slot? session = _
    by_cases claims : first = binding.timer ∧ own.stage = .claimed
    · obtain ⟨rfl, claimed⟩ := claims
      rw [if_pos ⟨rfl, own, set, claimed⟩] at slot
      rw [slot_rings_of_unkept b rest (by simp [slot]), slot, if_pos ⟨List.mem_cons_self, claimed⟩]
    · rw [if_neg] at slot
      · have still : (r.step b (.ring first)).state.timers.timer? binding.timer = some own := by
          rw [timers, Timers.timer?_take?, set]
          split
          · next mine =>
            have unclaimed : own.stage ≠ .claimed := fun claimed => claims ⟨mine.symm, claimed⟩
            exact congrArg some (if_neg unclaimed)
          · rfl
        rw [ih (timed.step custody b _) (custody.step b _) slot still]
        by_cases claimed : own.stage = .claimed
        · have apart : binding.timer ≠ first := fun same => claims ⟨same.symm, claimed⟩
          simp [claimed, apart]
        · simp [claimed]
      · rintro ⟨rfl, other, again, claimed⟩
        cases set.symm.trans again
        exact claims ⟨rfl, claimed⟩

theorem slot_claims (b : Backend σ) (r : Run σ) (session : String) (ids : List Nat) :
    (r.run b (ids.map .claim)).state.slot? session = r.state.slot? session := by
  rw [state_claims]
  rfl

theorem slot_settle_of_unkept (b : Backend σ)
    (unkept : ∀ binding, r.state.slot? session ≠ some (.live binding)) :
    (r.settle b).state.slot? session = r.state.slot? session := by
  have claims := slot_claims b r session r.state.timers.order
  rw [settle, run_append, slot_rings_of_unkept b _ fun binding => claims ▸ unkept binding, claims]

/-- A kept cursor is there until its time has run out. -/
theorem slot_settle_of_live (timed : Timed r) (custody : Custody r) (b : Backend σ)
    {own : Timer Alarm} (live : r.state.slot? session = some (.live binding))
    (set : r.state.timers.timer? binding.timer = some own) (waiting : own.stage = .waiting) :
    (r.settle b).state.slot? session =
      if own.due ≤ r.now then some .expired else some (.live binding) := by
  have kept := (slot_claims b r session r.state.timers.order).trans live
  have known : binding.timer ∈ r.state.timers.order := mem_order.mpr (Timers.lt_of_timer? set)
  have claimed : (r.run b (r.state.timers.order.map .claim)).state.timers.timer? binding.timer =
      some (own.claimAt r.now) := by
    rw [state_claims]
    change (r.state.timers.order.foldl Timers.claim r.state.timers).timer? binding.timer = _
    rw [Timers.timer?_claims, if_pos known, set]
    rfl
  rw [settle, run_append, slot_rings_of_live (timed.run custody b _) (custody.run b _) b _ kept claimed]
  by_cases due : own.due ≤ r.now <;> simp [known, Timer.claimAt, waiting, due]

end Run

end GeoSearch.Paging

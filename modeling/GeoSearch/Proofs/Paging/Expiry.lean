import GeoSearch.Proofs.Paging.Settling
/-!
Idle expiry. On a clock whose timers are never late, a cursor that is kept is lost exactly when it
was kept for its time and nothing took it before.
-/
namespace GeoSearch.Paging

namespace Run

variable {b : Backend σ} {r : Run σ} {session : String} {binding : Binding} {move : Move}

theorem ttl_promptRun (b : Backend σ) (r : Run σ) (moves : List Move) :
    (promptRun b r moves).state.store.ttlMillis = r.state.store.ttlMillis := by
  induction moves generalizing r with
  | nil => rfl
  | cons move later ih =>
    have first : (r.prompt b move).state.store.ttlMillis = r.state.store.ttlMillis :=
      (ttl_run b (r.step b move) _).trans (effect b r move).ttl
    exact (ih (r.prompt b move)).trans first

/-! ### Between two moves -/

structure OnTime (r : Run σ) : Prop where
  custody : Custody r
  timed : Timed r
  settled : Settled r.state.timers

theorem OnTime.next (onTime : OnTime r) (b : Backend σ) (outer : move.isOuter = true) :
    OnTime (r.prompt b move) where
  custody := (onTime.custody.step b move).run b _
  timed := (onTime.timed.step onTime.custody b move).run (onTime.custody.step b move) b _
  settled := settled_settle b (Calm.step onTime.settled.toCalm b outer)

theorem OnTime.all (onTime : OnTime r) (b : Backend σ) {moves : List Move}
    (outer : ∀ move ∈ moves, move.isOuter = true) : OnTime (promptRun b r moves) := by
  induction moves generalizing r with
  | nil => exact onTime
  | cons move later ih =>
    have first := onTime.next b (outer move List.mem_cons_self)
    exact ih first fun other member => outer other (List.mem_cons_of_mem _ member)

/-- The timer of a kept cursor still has time. -/
theorem OnTime.waits (onTime : OnTime r) (live : r.state.slot? session = some (.live binding)) :
    ∃ timer, r.state.timers.timer? binding.timer = some timer ∧
      timer.action = .idle session binding.pager ∧ timer.stage = .waiting ∧ r.now < timer.due := by
  obtain ⟨timer, set, unfinished, action⟩ := onTime.timed.kept session binding live
  rcases onTime.settled.stage _ timer _ _ set action with waiting | finished
  · exact ⟨timer, set, action, waiting, onTime.settled.early _ timer _ _ set action waiting⟩
  · exact absurd finished unfinished

/-- A move takes the cursor of a session, or it is kept on. -/
theorem OnTime.step_of_live (onTime : OnTime r) (b : Backend σ) (outer : move.isOuter = true)
    (live : r.state.slot? session = some (.live binding)) :
    (¬ r.Ends b session move ∧ (r.step b move).state.slot? session = some (.live binding)) ∨
      (r.Ends b session move ∧ (r.step b move).state.slot? session ≠ some .expired ∧
        ∀ binding, (r.step b move).state.slot? session ≠ some (.live binding)) := by
  have became : Fate b r (r.step b move).state session move := (effect b r move).fate session
  cases became with
  | same unended slot => exact .inl ⟨unended, slot.trans live⟩
  | ended ends unkept unexpired => exact .inr ⟨ends, unexpired, unkept⟩
  | lost kept late =>
    cases live.symm.trans kept
    obtain ⟨timer, set, -, waiting, -⟩ := onTime.waits live
    simp [Timers.cancel_fst, set, Timer.isClaimed, waiting] at late
  | rang => cases outer
  | vacated gone busy =>
    obtain ⟨pager, key, start, busy⟩ := busy
    cases live.symm.trans busy
  | cached busy =>
    obtain ⟨pager, key, start, busy⟩ := busy
    cases live.symm.trans busy

/-- Once a cursor is not kept any more, it never will be. -/
theorem step_of_unlive (b : Backend σ) {timer : Timer Alarm}
    (set : r.state.timers.timer? binding.timer = some timer)
    (unlive : r.state.slot? session ≠ some (.live binding)) :
    (r.step b move).state.slot? session ≠ some (.live binding) := by
  have became : Fate b r (r.step b move).state session move := (effect b r move).fate session
  intro live
  cases became with
  | same unended slot => exact unlive (slot.symm.trans live)
  | ended ends unkept => exact unkept binding live
  | lost kept late slot => cases slot.symm.trans live
  | rang kept taken slot => cases slot.symm.trans live
  | vacated gone busy slot => cases slot.symm.trans live
  | cached busy page slot new =>
    cases slot.symm.trans live
    have known := Timers.lt_of_timer? set
    omega

/-- What falls due ends the keeping of a cursor, and does nothing else to a session. -/
theorem slot_settle_cases (timed : Timed r) (custody : Custody r) (calm : Calm r.state.timers)
    (b : Backend σ) (session : String) :
    (r.settle b).state.slot? session = r.state.slot? session ∨
      (r.settle b).state.slot? session = some .expired := by
  by_cases kept : ∃ binding, r.state.slot? session = some (.live binding)
  · obtain ⟨binding, live⟩ := kept
    obtain ⟨timer, set, unfinished, action⟩ := timed.kept session binding live
    have waiting := (calm.stage _ timer _ _ set action).resolve_right unfinished
    rw [slot_settle_of_live timed custody b live set waiting, live]
    split
    · exact .inr rfl
    · exact .inl rfl
  · exact .inl (slot_settle_of_unkept b fun binding live => kept ⟨binding, live⟩)

theorem timer?_prompt (b : Backend σ) (outer : move.isOuter = true) {id : Nat} {timer : Timer Alarm}
    (set : r.state.timers.timer? id = some timer) :
    ∃ now, (r.prompt b move).state.timers.timer? id = some now ∧ now.due = timer.due := by
  obtain ⟨now, found, due⟩ := timer?_step b outer set
  refine ⟨_, by rw [prompt, timer?_settle, found]; rfl, ?_⟩
  rw [(action_settle _ now).2, due]

theorem now_prompt (b : Backend σ) (r : Run σ) (outer : move.isOuter = true) :
    r.now ≤ (r.prompt b move).now ∧
      (r.now < (r.prompt b move).now → ∃ millis, move = .elapse millis) := by
  rw [prompt, now_settle]
  exact now_step b r outer

theorem now_promptRun (b : Backend σ) (r : Run σ) {moves : List Move}
    (outer : ∀ move ∈ moves, move.isOuter = true) : r.now ≤ (promptRun b r moves).now := by
  induction moves generalizing r with
  | nil => exact Nat.le_refl _
  | cons move later ih =>
    have first := (now_prompt b r (outer move List.mem_cons_self)).1
    exact Nat.le_trans first
      (ih _ fun other member => outer other (List.mem_cons_of_mem _ member))

/-- A cursor that no move takes is kept until its time has run out. -/
theorem OnTime.prompt_of_live (onTime : OnTime r) (b : Backend σ) (outer : move.isOuter = true)
    {timer : Timer Alarm} (set : r.state.timers.timer? binding.timer = some timer)
    (live : r.state.slot? session = some (.live binding)) (unended : ¬ r.Ends b session move) :
    (r.prompt b move).state.slot? session =
      if timer.due ≤ (r.prompt b move).now then some .expired else some (.live binding) := by
  have timed := onTime.timed.step onTime.custody b move
  have calm : Calm (r.step b move).state.timers := Calm.step onTime.settled.toCalm b outer
  rcases onTime.step_of_live b outer live with ⟨-, still⟩ | ⟨ends, -⟩
  · obtain ⟨now, found, due⟩ := timer?_step b outer set
    obtain ⟨own, again, unfinished, action⟩ := timed.kept session binding still
    cases found.symm.trans again
    have waiting := (calm.stage _ now _ _ found action).resolve_right unfinished
    rw [prompt, slot_settle_of_live timed (onTime.custody.step b move) b still found waiting, due,
      now_settle]
  · exact absurd ends unended

theorem OnTime.prompt_of_ended (onTime : OnTime r) (b : Backend σ) (outer : move.isOuter = true)
    (live : r.state.slot? session = some (.live binding)) (ends : r.Ends b session move) :
    (r.prompt b move).state.slot? session ≠ some .expired ∧
      (r.prompt b move).state.slot? session ≠ some (.live binding) := by
  rcases onTime.step_of_live b outer live with ⟨unended, -⟩ | ⟨-, unexpired, unkept⟩
  · exact absurd ends unended
  · rw [prompt, slot_settle_of_unkept b unkept]
    exact ⟨unexpired, unkept binding⟩

theorem OnTime.prompt_of_unlive (onTime : OnTime r) (b : Backend σ) (outer : move.isOuter = true)
    {timer : Timer Alarm} (set : r.state.timers.timer? binding.timer = some timer)
    (unlive : r.state.slot? session ≠ some (.live binding)) :
    (r.prompt b move).state.slot? session ≠ some (.live binding) := by
  have after : (r.step b move).state.slot? session ≠ some (.live binding) := step_of_unlive b set unlive
  rcases slot_settle_cases (onTime.timed.step onTime.custody b move) (onTime.custody.step b move)
    (Calm.step onTime.settled.toCalm b outer) b session with same | expired
  · rw [prompt, same]
    exact after
  · rw [prompt, expired]
    simp

/-! ### Expiry -/

/-- A cursor that is not kept does not expire. -/
theorem OnTime.not_lapses (onTime : OnTime r) {later : List Move} {last : Move}
    (outer : ∀ move ∈ later, move.isOuter = true) {timer : Timer Alarm}
    (set : r.state.timers.timer? binding.timer = some timer)
    (unlive : r.state.slot? session ≠ some (.live binding)) :
    ¬ Lapses b (promptRun b r later) last session binding := by
  induction later generalizing r timer with
  | nil => exact fun lapses => unlive lapses.1
  | cons move rest ih =>
    have first := outer move List.mem_cons_self
    obtain ⟨now, found, -⟩ := timer?_prompt b first set
    exact ih (onTime.next b first) (fun other member => outer other (List.mem_cons_of_mem _ member))
      found (onTime.prompt_of_unlive b first set unlive)

/-- A cursor expires with a move if the move takes the clock past the time of its timer. -/
theorem OnTime.lapses_iff_due (onTime : OnTime r) (outer : move.isOuter = true) {timer : Timer Alarm}
    (set : r.state.timers.timer? binding.timer = some timer)
    (held : r.now < timer.due → r.state.slot? session = some (.live binding)) :
    r.Lapses b move session binding ↔ r.now < timer.due ∧ timer.due ≤ (r.prompt b move).now := by
  constructor
  · rintro ⟨live, expired⟩
    obtain ⟨own, found, -, -, early⟩ := onTime.waits live
    cases set.symm.trans found
    refine ⟨early, ?_⟩
    by_cases ends : r.Ends b session move
    · exact absurd expired (onTime.prompt_of_ended b outer live ends).1
    · have slot := onTime.prompt_of_live b outer set live ends
      by_contra before
      rw [if_neg before] at slot
      cases slot.symm.trans expired
  · rintro ⟨early, due⟩
    obtain ⟨millis, rfl⟩ := (now_prompt b r outer).2 (Nat.lt_of_lt_of_le early due)
    have slot := onTime.prompt_of_live b outer set (held early) id
    exact ⟨held early, slot.trans (if_pos due)⟩

/-- A cursor whose timer is set expires with the move that takes the clock to the timer's time, and
only if no move before took it. -/
theorem OnTime.lapses_iff (onTime : OnTime r) {later : List Move} {last : Move}
    (outer : ∀ move ∈ later, move.isOuter = true) (lastOuter : last.isOuter = true)
    {timer : Timer Alarm} (set : r.state.timers.timer? binding.timer = some timer)
    (held : r.now < timer.due → r.state.slot? session = some (.live binding)) :
    Lapses b (promptRun b r later) last session binding ↔
      (promptRun b r later).now < timer.due ∧
        timer.due ≤ ((promptRun b r later).prompt b last).now ∧
        Never b (fun r move => r.Ends b session move) r later := by
  induction later generalizing r timer with
  | nil =>
    change Lapses b r last session binding ↔
      r.now < timer.due ∧ timer.due ≤ (r.prompt b last).now ∧ True
    rw [and_true]
    exact onTime.lapses_iff_due lastOuter set held
  | cons move rest ih =>
    have first := outer move List.mem_cons_self
    have others : ∀ other ∈ rest, other.isOuter = true := fun other member =>
      outer other (List.mem_cons_of_mem _ member)
    obtain ⟨now, found, due⟩ := timer?_prompt b first set
    change Lapses b (promptRun b (r.prompt b move) rest) last session binding ↔
      (promptRun b (r.prompt b move) rest).now < timer.due ∧
        timer.due ≤ ((promptRun b (r.prompt b move) rest).prompt b last).now ∧
        ¬ r.Ends b session move ∧ Never b (fun r move => r.Ends b session move) (r.prompt b move) rest
    by_cases live : r.state.slot? session = some (.live binding)
    · by_cases ends : r.Ends b session move
      · have gone := (onTime.prompt_of_ended b first live ends).2
        simp [ends, (onTime.next b first).not_lapses others found gone]
      · have slot := onTime.prompt_of_live b first set live ends
        have stays : (r.prompt b move).now < now.due →
            (r.prompt b move).state.slot? session = some (.live binding) := fun early =>
          slot.trans (if_neg (by omega))
        rw [ih (onTime.next b first) others found stays, due]
        simp [ends]
    · -- its time has run out before
      have late : timer.due ≤ r.now := Nat.le_of_not_lt fun early => live (held early)
      have unlive := onTime.prompt_of_unlive b first set live
      have clock := Nat.le_trans (now_prompt b r first).1 (now_promptRun b (r.prompt b move) others)
      constructor
      · exact fun lapses => absurd lapses ((onTime.next b first).not_lapses others found unlive)
      · rintro ⟨early, -⟩
        omega

/-! ### Sessions whose cursor has expired -/

theorem prompt_of_expired (b : Backend σ) (expired : r.state.slot? session = some .expired)
    (outer : move.isOuter = true) (unrenewed : ¬ r.Renews b session move) :
    (r.prompt b move).state.slot? session = some .expired := by
  have became : Fate b r (r.step b move).state session move := (effect b r move).fate session
  have after : (r.step b move).state.slot? session = some .expired := by
    cases became with
    | same unended slot => exact slot.trans expired
    | ended ends =>
      cases move with
      | request q =>
        obtain ⟨rfl, isOk⟩ := ends
        rcases answer : r.state.begin b q with ⟨e | _ | page, after⟩
        · simp [answer, Except.isOk, Except.toBool] at isOk
        · exact absurd ⟨rfl, (State.begin_fresh answer).1⟩ unrenewed
        · obtain ⟨binding, live, -⟩ := State.begin_resume answer
          cases expired.symm.trans live
      | start q s => exact absurd ends unrenewed
      | leave other => exact absurd ends unrenewed
      | _ => exact ends.elim
    | lost live => cases expired.symm.trans live
    | rang => cases outer
    | vacated gone busy =>
      obtain ⟨pager, key, start, busy⟩ := busy
      cases expired.symm.trans busy
    | cached busy =>
      obtain ⟨pager, key, start, busy⟩ := busy
      cases expired.symm.trans busy
  rw [prompt, slot_settle_of_unkept b (by simp [after]), after]

theorem promptRun_of_expired (b : Backend σ) {later : List Move}
    (expired : r.state.slot? session = some .expired)
    (outer : ∀ move ∈ later, move.isOuter = true)
    (unrenewed : Never b (fun r move => r.Renews b session move) r later) :
    (promptRun b r later).state.slot? session = some .expired := by
  induction later generalizing r with
  | nil => exact expired
  | cons move rest ih =>
    have first := prompt_of_expired b expired (outer move List.mem_cons_self) unrenewed.1
    exact ih first (fun other member => outer other (List.mem_cons_of_mem _ member)) unrenewed.2

theorem begin_of_expired (b : Backend σ) {p : State σ} {q : PageRequest}
    (expired : p.slot? q.session = some .expired) (further : q.start ≠ 0) :
    ∃ after, p.begin b q = (.error (.notFound q.session), after) := by
  simp [State.begin, State.consider, Slot.verdict, expired, further]

/-! ### Rejected requests -/

namespace Alike

variable {s : Run σ}

theorem settle (alike : r.Alike s) (b : Backend σ) : (r.settle b).Alike (s.settle b) := by
  unfold Run.settle
  rw [alike.state.timers]
  exact alike.run b _

theorem promptRun (alike : r.Alike s) (b : Backend σ) (moves : List Move) :
    (promptRun b r moves).Alike (promptRun b s moves) := by
  induction moves generalizing r s with
  | nil => exact alike
  | cons move later ih => exact ih ((alike.step b move).settle b)

end Alike

/-- A rejected request does no more than the clock does without it. -/
theorem OnTime.prompt_of_reject (onTime : OnTime r) {q : PageRequest} {error : Error}
    {after : State σ} (answer : r.state.begin b q = (.error error, after)) :
    (r.prompt b (.request q)).Alike (r.settle b) := by
  rcases State.begin_error_cases answer with same | ⟨binding, live, late, -⟩
  · exact (alike_of_reject answer same).settle b
  · obtain ⟨timer, set, -, waiting, -⟩ := onTime.waits live
    simp [Timers.cancel_fst, set, Timer.isClaimed, waiting] at late

/-! ### Any run on a clock -/

/-- Timers go on, and none of them was set for a pager yet. -/
theorem onTime_initial (ttlMillis : Nat) (timers : Timers Alarm) (index : σ)
    (granted : List PageRequest) (running : timers.shutDown = false)
    (unset : ∀ timer ∈ timers.all, ∀ session pager, timer.action ≠ .idle session pager) :
    OnTime { initial ttlMillis timers index with granted } :=
  have never (id : Nat) (timer : Timer Alarm) (session : String) (pager : Nat)
      (set : timers.timer? id = some timer) (action : timer.action = .idle session pager) : False :=
    action_ne_of_unset unset set session pager action
  { custody := (custody_initial ttlMillis timers index).grant granted
    timed := timed_initial ttlMillis timers index granted unset
    settled :=
      { running := running
        stage := fun id timer session pager set action => (never id timer session pager set action).elim
        early := fun id timer session pager set action => (never id timer session pager set action).elim } }

/-- A cursor that begins to be kept has a timer that is due after the time for which it is kept. -/
theorem OnTime.of_caches (onTime : OnTime r) (outer : move.isOuter = true)
    (caches : r.Caches b move session binding) :
    ∃ timer, (r.step b move).state.timers.timer? binding.timer = some timer ∧
      timer.stage = .waiting ∧ timer.due = r.now + r.state.store.ttlMillis ∧
      (r.step b move).now = r.now := by
  obtain ⟨unlive, live⟩ := caches
  have became : Fate b r (r.step b move).state session move := (effect b r move).fate session
  cases became with
  | same unended slot => exact absurd (slot.symm.trans live) unlive
  | ended ends unkept => exact absurd live (unkept binding)
  | lost kept late slot => cases slot.symm.trans live
  | rang kept taken slot => cases slot.symm.trans live
  | vacated gone busy slot => cases slot.symm.trans live
  | cached busy page slot new timers =>
    cases slot.symm.trans live
    refine ⟨_, by rw [timers, Timers.timer?_schedule, if_pos new], ?_, rfl, ?_⟩
    · simp [onTime.settled.running]
    · rw [now, timers, Timers.now_schedule, now]

/-- A cursor that is kept for no time expires with the move that begins to keep it. -/
theorem OnTime.slot_of_caches (onTime : OnTime r) (outer : move.isOuter = true)
    (caches : r.Caches b move session binding) :
    (r.prompt b move).state.slot? session =
      if r.state.store.ttlMillis = 0 then some .expired else some (.live binding) := by
  obtain ⟨timer, set, waiting, due, clock⟩ := onTime.of_caches outer caches
  rw [prompt, slot_settle_of_live (onTime.timed.step onTime.custody b move)
    (onTime.custody.step b move) b caches.2 set waiting, due, clock]
  by_cases zero : r.state.store.ttlMillis = 0
  · rw [if_pos zero, if_pos (by omega)]
  · rw [if_neg zero, if_neg (by omega)]

/-- A cursor expires with the move that takes the clock past the time for which cursors are kept. -/
theorem OnTime.lapses_of_caches (onTime : OnTime r) (outer : move.isOuter = true)
    (caches : r.Caches b move session binding) {later : List Move} {last : Move}
    (outerLater : ∀ move ∈ later, move.isOuter = true) (outerLast : last.isOuter = true) :
    let s := promptRun b (r.prompt b move) later
    s.Lapses b last session binding ↔
      s.now < r.now + r.state.store.ttlMillis ∧ r.now + r.state.store.ttlMillis ≤ (s.prompt b last).now ∧
        Never b (fun s move => s.Ends b session move) (r.prompt b move) later := by
  obtain ⟨timer, set, -, due, clock⟩ := onTime.of_caches outer caches
  have still : (r.prompt b move).state.timers.timer? binding.timer =
      some ((timer.claimAt (r.step b move).now).run) := by
    rw [prompt, timer?_settle, set]
    rfl
  have same := (action_settle (r.step b move).now timer).2
  rw [← due, ← same]
  refine (onTime.next b outer).lapses_iff outerLater outerLast still fun early => ?_
  have now : (r.prompt b move).now = r.now := (now_settle b _).trans clock
  rw [onTime.slot_of_caches outer caches, if_neg (by omega)]

/-- A timer that ends the keeping of a cursor is the cursor's own. -/
theorem Timed.timer_of_ends (timed : Timed r) (b : Backend σ) {timer : Nat}
    (live : r.state.slot? session = some (.live binding))
    (ends : (r.step b (.ring timer)).state.slot? session ≠ some (.live binding)) :
    timer = binding.timer := by
  have slot := slot_ring_of_live timed b timer live
  by_contra other
  rw [if_neg fun claims => other claims.1] at slot
  exact ends slot

/-- In every run of sessions and a clock whose timers are never late, a cursor that begins to be kept
at some time expires with the move that takes the clock past the time for which cursors are kept, and
with no other; and only if no move before resumed, replaced or released it. A rejected request between
changes nothing of what is to come. Once a session's cursor has expired, further pages are not found
until the session begins anew or leaves. And however late timers may be, one that ends the keeping of
a cursor is the one that was set for it, not for a page before. -/
theorem idle_expiry_is_exact (b : Backend σ) (ttlMillis : Nat) (timers : Timers Alarm) (index : σ)
    (granted : List PageRequest) (running : timers.shutDown = false)
    (unset : ∀ timer ∈ timers.all, ∀ session pager, timer.action ≠ .idle session pager) :
    let start : Run σ := { initial ttlMillis timers index with granted }
    (∀ before, (∀ move ∈ before, move.isOuter = true) →
      let r := promptRun b start before
      (∀ move session binding, move.isOuter = true → r.Caches b move session binding →
        (r.prompt b move).state.slot? session =
          (if ttlMillis = 0 then some .expired else some (.live binding)) ∧
        ∀ later last, (∀ move ∈ later, move.isOuter = true) → last.isOuter = true →
          let s := promptRun b (r.prompt b move) later
          s.Lapses b last session binding ↔
            s.now < r.now + ttlMillis ∧ r.now + ttlMillis ≤ (s.prompt b last).now ∧
              Never b (fun s move => s.Ends b session move) (r.prompt b move) later) ∧
      (∀ q error after, r.state.begin b q = (.error error, after) → ∀ later,
        (promptRun b (r.prompt b (.request q)) later).Alike (promptRun b (r.settle b) later)) ∧
      ∀ session, r.state.slot? session = some .expired →
        ∀ later, (∀ move ∈ later, move.isOuter = true) →
          Never b (fun s move => s.Renews b session move) r later →
          ∀ q : PageRequest, q.session = session → q.start ≠ 0 →
            ∃ after, (promptRun b r later).state.begin b q = (.error (.notFound session), after)) ∧
    ∀ moves session binding timer, let r := run b start moves
      r.state.slot? session = some (.live binding) →
      (r.step b (.ring timer)).state.slot? session ≠ some (.live binding) →
      timer = binding.timer := by
  intro start
  have initially : OnTime start := onTime_initial ttlMillis timers index granted running unset
  refine ⟨?_, ?_⟩
  · intro before outer r
    have onTime : OnTime r := initially.all b outer
    have ttl : r.state.store.ttlMillis = ttlMillis := ttl_promptRun b start before
    refine ⟨?_, ?_, ?_⟩
    · intro move session binding outerMove caches
      refine ⟨ttl ▸ onTime.slot_of_caches outerMove caches, ?_⟩
      intro later last outerLater outerLast
      exact ttl ▸ onTime.lapses_of_caches outerMove caches outerLater outerLast
    · exact fun q error after answer later => (onTime.prompt_of_reject answer).promptRun b later
    · rintro session expired later outerLater unrenewed q rfl further
      exact begin_of_expired b (promptRun_of_expired b expired outerLater unrenewed) further
  · intro moves session binding timer r live ends
    exact (initially.timed.run initially.custody b moves).timer_of_ends b live ends

/-- A page is closed, and the next one is not asked for. -/
theorem cursor_expires_after_a_second :
    let first : PageRequest := { session := "ann", key := "all", start := 0, size := 1 }
    let search : Search :=
      { keepMillis := 60000, index := "places", request := { query := .null, size := 1 }, maxHits := 9 }
    let start : Run Unit := { initial 1000 {} () with granted := [first] }
    let r := promptRun endless start [.start first search]
    ∃ binding, r.Caches endless (.close 0) "ann" binding ∧
      (r.prompt endless (.close 0)).Lapses endless (.elapse 1000) "ann" binding ∧
      ¬ (r.prompt endless (.close 0)).Lapses endless (.elapse 999) "ann" binding := by
  intro first search start r
  obtain ⟨exact, -⟩ := idle_expiry_is_exact endless 1000 {} () [first] rfl
    fun _ member => absurd member List.not_mem_nil
  obtain ⟨lapses, -, -⟩ := exact [.start first search] (by simp [Move.isOuter])
  have opened : r = start.step endless (.start first search) := by
    have none : (start.step endless (.start first search)).state.timers.order = [] := by
      have all : (start.step endless (.start first search)).state.timers.all = [] := rfl
      rw [Timers.order, all]
      simp
    change (start.step endless (.start first search)).settle endless = _
    rw [settle, none]
    rfl
  obtain ⟨binding, caches⟩ : ∃ binding, r.Caches endless (.close 0) "ann" binding := by
    rw [opened]
    have out : (start.step endless (.start first search)).state.slot? "ann" =
        some (.busy 0 "all" 0) := rfl
    exact ⟨_, by simp [out], rfl⟩
  obtain ⟨-, exact⟩ := lapses (.close 0) "ann" binding rfl caches
  have opening : r.now = 0 := by
    rw [opened]
    rfl
  have closed : (r.prompt endless (.close 0)).now = 0 := by
    rw [prompt, now_settle, opened]
    rfl
  have later (millis : Nat) :
      ((r.prompt endless (.close 0)).prompt endless (.elapse millis)).now = millis := by
    have passed : ((r.prompt endless (.close 0)).step endless (.elapse millis)).now =
        (r.prompt endless (.close 0)).now + millis := rfl
    rw [prompt, now_settle, passed, closed, Nat.zero_add]
  refine ⟨binding, caches,
    (exact [] (.elapse 1000) (List.forall_mem_nil _) rfl).mpr ⟨?_, ?_, trivial⟩, fun early => ?_⟩
  · change (r.prompt endless (.close 0)).now < r.now + 1000
    omega
  · change r.now + 1000 ≤ ((r.prompt endless (.close 0)).prompt endless (.elapse 1000)).now
    rw [later]
    omega
  · obtain ⟨-, due, -⟩ := (exact [] (.elapse 999) (List.forall_mem_nil _) rfl).mp early
    change r.now + 1000 ≤ ((r.prompt endless (.close 0)).prompt endless (.elapse 999)).now at due
    rw [later] at due
    omega

end Run

end GeoSearch.Paging

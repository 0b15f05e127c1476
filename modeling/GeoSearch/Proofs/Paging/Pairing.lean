import GeoSearch.Proofs.Paging.Following
/-!
What two runs hold for one session, side by side. The pagers and the timers of the session may have
other numbers in the one than in the other, and so are paired, in the order in which the session got
them.
-/
namespace GeoSearch.Paging

/-- Two lists of numbers, none of them twice, place by place. -/
structure Paired (pairs : List (Nat × Nat)) (left right : List Nat) : Prop where
  first : pairs.map (·.1) = left
  second : pairs.map (·.2) = right
  nodupLeft : left.Nodup
  nodupRight : right.Nodup

namespace Paired

variable {pairs : List (Nat × Nat)} {left right : List Nat} {x y : Nat × Nat}

theorem eq_iff (paired : Paired pairs left right) (own : x ∈ pairs) (other : y ∈ pairs) :
    x.1 = y.1 ↔ x.2 = y.2 := by
  have nodupLeft : (pairs.map (·.1)).Nodup := paired.first ▸ paired.nodupLeft
  have nodupRight : (pairs.map (·.2)).Nodup := paired.second ▸ paired.nodupRight
  constructor
  · intro same
    rw [List.inj_on_of_nodup_map nodupLeft own other same]
  · intro same
    rw [List.inj_on_of_nodup_map nodupRight own other same]

theorem mem_left (paired : Paired pairs left right) (member : x ∈ pairs) : x.1 ∈ left :=
  paired.first ▸ List.mem_map_of_mem member

theorem mem_right (paired : Paired pairs left right) (member : x ∈ pairs) : x.2 ∈ right :=
  paired.second ▸ List.mem_map_of_mem member

theorem getElem?_left (paired : Paired pairs left right) (place : Nat) :
    left[place]? = pairs[place]?.map (·.1) := by
  rw [← paired.first, List.getElem?_map]

theorem getElem?_right (paired : Paired pairs left right) (place : Nat) :
    right[place]? = pairs[place]?.map (·.2) := by
  rw [← paired.second, List.getElem?_map]

theorem concat (paired : Paired pairs left right) {p q : Nat} (newLeft : p ∉ left)
    (newRight : q ∉ right) : Paired (pairs ++ [(p, q)]) (left ++ [p]) (right ++ [q]) where
  first := by simp [paired.first]
  second := by simp [paired.second]
  nodupLeft := List.concat_eq_append ▸ paired.nodupLeft.concat newLeft
  nodupRight := List.concat_eq_append ▸ paired.nodupRight.concat newRight

end Paired

/-! ### Cursors -/

def UsedAlike (pagers : List (Nat × Nat)) (uses more : List (Nat × Cursor.Use)) : Prop :=
  ∀ x ∈ pagers, Cursor.history uses (2 * x.1) = Cursor.history more (2 * x.2)

theorem UsedAlike.append {pagers : List (Nat × Nat)} {left right : List Nat}
    {uses more : List (Nat × Cursor.Use)} (alike : UsedAlike pagers uses more)
    (paired : Paired pagers left right) {x : Nat × Nat} (own : x ∈ pagers) (later : List Cursor.Use) :
    UsedAlike pagers (uses ++ later.map fun use => (2 * x.1, use))
      (more ++ later.map fun use => (2 * x.2, use)) := by
  intro y member
  rw [Cursor.history_append, Cursor.history_append, alike y member]
  congr 1
  have same := paired.eq_iff own member
  induction later with
  | nil => rfl
  | cons use rest ih =>
    simp only [List.map_cons]
    by_cases equal : x.1 = y.1
    · have equal' := same.mp equal
      rw [equal, equal'] at ih ⊢
      rw [Cursor.history_cons_self, Cursor.history_cons_self, ih]
    · have apart : x.2 ≠ y.2 := fun equal' => equal (same.mpr equal')
      rw [Cursor.history_cons_of_ne use (by omega), Cursor.history_cons_of_ne use (by omega), ih]

/-! ### Timers of a session -/

section

variable {t after : Timers Alarm} {id : Nat} {session : String}

theorem Alarm.isFor_iff {alarm : Alarm} :
    alarm.isFor session = true ↔ ∃ pager, alarm = .idle session pager := by
  cases alarm <;> simp [isFor]

theorem idleTimers_eq (t : Timers Alarm) (session : String) :
    idleTimers t session = (List.range t.all.length).filter fun id =>
      (t.timer? id).any fun timer => timer.action.isFor session := by
  refine List.filter_congr fun id _ => ?_
  unfold Timers.timer?
  cases t.all[id]? <;> rfl

theorem mem_idleTimers :
    id ∈ idleTimers t session ↔
      ∃ timer pager, t.timer? id = some timer ∧ timer.action = .idle session pager := by
  simp only [idleTimers_eq, List.mem_filter, List.mem_range, Option.any_eq_true, Alarm.isFor_iff]
  constructor
  · rintro ⟨-, timer, set, pager, action⟩
    exact ⟨timer, pager, set, action⟩
  · rintro ⟨timer, pager, set, action⟩
    exact ⟨Timers.lt_of_timer? set, timer, set, pager, action⟩

/-- There is no timer after the last one. -/
theorem length_notMem_idleTimers (t : Timers Alarm) (session : String) :
    t.all.length ∉ idleTimers t session := by
  intro member
  obtain ⟨timer, -, set, -⟩ := mem_idleTimers.mp member
  exact Nat.lt_irrefl _ (Timers.lt_of_timer? set)

theorem idleTimers_schedule (t : Timers Alarm) (delay : Nat) (alarm : Alarm) (session : String) :
    idleTimers (t.schedule delay alarm).2 session =
      idleTimers t session ++ if alarm.isFor session then [t.all.length] else [] := by
  simp only [idleTimers_eq, Timers.length_schedule, List.range_succ, List.filter_append]
  congr 1
  · refine List.filter_congr fun id member => ?_
    have before : id ≠ t.all.length := Nat.ne_of_lt (List.mem_range.mp member)
    rw [Timers.timer?_schedule, if_neg before]
  · rw [List.filter_singleton, Timers.timer?_schedule, if_pos rfl, Option.any_some]
    cases alarm.isFor session <;> rfl

theorem idleTimers_modified {f : Timer Alarm → Timer Alarm} (modified : t.Modified after id f)
    (action : ∀ x, (f x).action = x.action) : idleTimers after session = idleTimers t session := by
  simp only [idleTimers_eq, modified.length]
  refine List.filter_congr fun other _ => ?_
  rw [modified.timer?]
  split
  · cases t.timer? other <;> simp [action]
  · rfl

structure Untouched (session : String) (t after : Timers Alarm) : Prop where
  now : after.now = t.now
  shutDown : after.shutDown = t.shutDown
  idle : idleTimers after session = idleTimers t session
  timer : ∀ id ∈ idleTimers t session, after.timer? id = t.timer? id

namespace Untouched

theorem refl (session : String) (t : Timers Alarm) : Untouched session t t :=
  ⟨rfl, rfl, rfl, fun _ _ => rfl⟩

theorem of_modified {f : Timer Alarm → Timer Alarm} (modified : t.Modified after id f)
    (action : ∀ x, (f x).action = x.action) (apart : id ∉ idleTimers t session) :
    Untouched session t after where
  now := modified.now
  shutDown := modified.shutDown
  idle := idleTimers_modified modified action
  timer other own := by
    rw [modified.timer?, if_neg]
    rintro rfl
    exact apart own

theorem schedule (t : Timers Alarm) (delay : Nat) {alarm : Alarm}
    (apart : alarm.isFor session = false) : Untouched session t (t.schedule delay alarm).2 where
  now := t.now_schedule delay alarm
  shutDown := t.shutDown_schedule delay alarm
  idle := by simp [idleTimers_schedule, apart]
  timer id own := by
    obtain ⟨timer, -, set, -⟩ := mem_idleTimers.mp own
    rw [Timers.timer?_schedule, if_neg (Nat.ne_of_lt (Timers.lt_of_timer? set))]

end Untouched

end

/-! ### Timers side by side -/

structure TimedAlike (session : String) (pagers timers : List (Nat × Nat)) (t u : Timers Alarm) :
    Prop where
  now : t.now = u.now
  shutDown : t.shutDown = u.shutDown
  paired : Paired timers (idleTimers t session) (idleTimers u session)
  timer : ∀ y ∈ timers, ∃ x ∈ pagers, ∃ timer : Timer Alarm,
    t.timer? y.1 = some { timer with action := .idle session x.1 } ∧
      u.timer? y.2 = some { timer with action := .idle session x.2 }

namespace TimedAlike

variable {session : String} {pagers timers : List (Nat × Nat)} {t u after after' : Timers Alarm}
  {y : Nat × Nat}

theorem mono (alike : TimedAlike session pagers timers t u) {more : List (Nat × Nat)}
    (fewer : pagers ⊆ more) : TimedAlike session more timers t u where
  now := alike.now
  shutDown := alike.shutDown
  paired := alike.paired
  timer y member := by
    obtain ⟨x, own, timer, left, right⟩ := alike.timer y member
    exact ⟨x, fewer own, timer, left, right⟩

theorem of_untouched (alike : TimedAlike session pagers timers t u)
    (left : Untouched session t after) (right : Untouched session u after') :
    TimedAlike session pagers timers after after' where
  now := left.now.trans (alike.now.trans right.now.symm)
  shutDown := left.shutDown.trans (alike.shutDown.trans right.shutDown.symm)
  paired := by
    rw [left.idle, right.idle]
    exact alike.paired
  timer y member := by
    rw [left.timer y.1 (alike.paired.mem_left member), right.timer y.2 (alike.paired.mem_right member)]
    exact alike.timer y member

/-- What a timer does has no part in what becomes of it. -/
def Blind (f : Timer Alarm → Timer Alarm) : Prop :=
  ∀ (timer : Timer Alarm) (action : Alarm),
    f { timer with action } = { f timer with action }

theorem Blind.action {f : Timer Alarm → Timer Alarm} (blind : Blind f) (x : Timer Alarm) :
    (f x).action = x.action := (congrArg Timer.action (blind x x.action) :)

theorem blind_finish : Blind Timer.finish := by
  intro timer action
  by_cases claimed : timer.isClaimed = true
  · rw [Timer.finish, Timer.finish, if_pos claimed]
    exact if_pos claimed
  · rw [Timer.finish, Timer.finish, if_neg claimed]
    exact if_neg claimed

theorem blind_run : Blind Timer.run := by
  intro timer action
  by_cases claimed : timer.stage = .claimed <;> simp [Timer.run, claimed]

theorem blind_claimAt (now : Nat) : Blind (Timer.claimAt now) := by
  intro timer action
  by_cases due : timer.stage = .waiting ∧ timer.due ≤ now <;> simp [Timer.claimAt, due]

theorem modify (alike : TimedAlike session pagers timers t u) (own : y ∈ timers)
    {f : Timer Alarm → Timer Alarm} (blind : Blind f) (left : t.Modified after y.1 f)
    (right : u.Modified after' y.2 f) : TimedAlike session pagers timers after after' where
  now := left.now.trans (alike.now.trans right.now.symm)
  shutDown := left.shutDown.trans (alike.shutDown.trans right.shutDown.symm)
  paired := by
    rw [idleTimers_modified left blind.action, idleTimers_modified right blind.action]
    exact alike.paired
  timer z member := by
    obtain ⟨x, pager, timer, isLeft, isRight⟩ := alike.timer z member
    have same := alike.paired.eq_iff member own
    rw [left.timer?, right.timer?]
    by_cases equal : z.1 = y.1
    · refine ⟨x, pager, f timer, ?_, ?_⟩
      · rw [if_pos equal, isLeft, Option.map_some, blind]
      · rw [if_pos (same.mp equal), isRight, Option.map_some, blind]
    · refine ⟨x, pager, timer, ?_, ?_⟩
      · rw [if_neg equal, isLeft]
      · rw [if_neg fun equal' => equal (same.mpr equal'), isRight]

theorem cancel (alike : TimedAlike session pagers timers t u) (own : y ∈ timers) :
    (t.cancel y.1).1 = (u.cancel y.2).1 ∧
      TimedAlike session pagers timers (t.cancel y.1).2 (u.cancel y.2).2 := by
  refine ⟨?_, alike.modify own blind_finish (t.modified_cancel y.1) (u.modified_cancel y.2)⟩
  obtain ⟨x, -, timer, left, right⟩ := alike.timer y own
  rw [Timers.cancel_fst, Timers.cancel_fst, left, right]
  rfl

theorem claim (alike : TimedAlike session pagers timers t u) (own : y ∈ timers) :
    TimedAlike session pagers timers (t.claim y.1) (u.claim y.2) :=
  alike.modify own (blind_claimAt t.now) (t.modified_claim y.1) (alike.now ▸ u.modified_claim y.2)

/-- The actions that are taken are for paired pagers. -/
theorem take? (alike : TimedAlike session pagers timers t u) (own : y ∈ timers) :
    ((t.take? y.1).1 = none ∧ (u.take? y.2).1 = none ∨
      ∃ x ∈ pagers, (t.take? y.1).1 = some (.idle session x.1) ∧
        (u.take? y.2).1 = some (.idle session x.2)) ∧
      TimedAlike session pagers timers (t.take? y.1).2 (u.take? y.2).2 := by
  refine ⟨?_, alike.modify own blind_run (t.modified_take? y.1) (u.modified_take? y.2)⟩
  obtain ⟨x, pager, timer, left, right⟩ := alike.timer y own
  by_cases claimed : timer.stage = .claimed
  · refine .inr ⟨x, pager, ?_, ?_⟩
    · exact (t.take?_eq_some_iff y.1).mpr ⟨_, left, claimed, rfl⟩
    · exact (u.take?_eq_some_iff y.2).mpr ⟨_, right, claimed, rfl⟩
  · have none (v : Timers Alarm) (id : Nat) (action : Alarm)
        (set : v.timer? id = some { timer with action }) : (v.take? id).1 = none := by
      refine Option.eq_none_iff_forall_ne_some.mpr fun taken is => ?_
      obtain ⟨found, again, does, -⟩ := (v.take?_eq_some_iff id).mp is
      cases set.symm.trans again
      exact claimed does
    exact .inl ⟨none t y.1 _ left, none u y.2 _ right⟩

theorem schedule (alike : TimedAlike session pagers timers t u) (delay : Nat) {x : Nat × Nat}
    (pager : x ∈ pagers) :
    TimedAlike session pagers (timers ++ [(t.all.length, u.all.length)])
      (t.schedule delay (.idle session x.1)).2 (u.schedule delay (.idle session x.2)).2 where
  now := by simpa using alike.now
  shutDown := by simpa using alike.shutDown
  paired := by
    simp only [idleTimers_schedule, Alarm.isFor, beq_self_eq_true, if_true]
    exact alike.paired.concat (length_notMem_idleTimers t session)
      (length_notMem_idleTimers u session)
  timer z member := by
    rcases List.mem_append.mp member with old | last
    · obtain ⟨w, own, timer, left, right⟩ := alike.timer z old
      refine ⟨w, own, timer, ?_, ?_⟩
      · rw [Timers.timer?_schedule, if_neg (Nat.ne_of_lt (Timers.lt_of_timer? left)), left]
      · rw [Timers.timer?_schedule, if_neg (Nat.ne_of_lt (Timers.lt_of_timer? right)), right]
    · cases List.mem_singleton.mp last
      let new : Timer Alarm :=
        { due := t.now + delay, action := .idle session x.1, listed := false,
          stage := if t.shutDown then .stopped else .waiting }
      refine ⟨x, pager, new, ?_, ?_⟩
      · rw [Timers.timer?_schedule, if_pos rfl]
      · rw [Timers.timer?_schedule, if_pos rfl, ← alike.now, ← alike.shutDown]

theorem elapse (alike : TimedAlike session pagers timers t u) (millis : Nat) :
    TimedAlike session pagers timers (t.elapse millis) (u.elapse millis) where
  now := congrArg (· + millis) alike.now
  shutDown := alike.shutDown
  paired := alike.paired
  timer := alike.timer

end TimedAlike

end GeoSearch.Paging

import GeoSearch.Paging.Sessions
import GeoSearch.Proofs.Paging.Deadlines
import GeoSearch.Proofs.Paging.Fate
/-!
What belongs to a session: its pagers, and with them pages, kept cursors and timers. Whatever has a
pager of a session is that session's own.
-/
namespace GeoSearch.Paging.Run

variable {b : Backend σ} {r after : Run σ} {session : String} {pager : Nat}

theorem mem_pagersOf :
    pager ∈ r.pagersOf session ↔ ∃ first ∈ r.firsts, first.session = session ∧ first.pager = pager := by
  simp [pagersOf, and_assoc]

theorem pagersOf_append {pages : List Page} (firsts : after.firsts = r.firsts ++ pages)
    (session : String) :
    after.pagersOf session =
      r.pagersOf session ++ (pages.filter fun page => page.session == session).map (·.pager) := by
  simp [pagersOf, firsts]

theorem Custody.nodup_firsts (custody : Custody r) : (r.firsts.map (·.pager)).Nodup := by
  rw [custody.started]
  exact List.nodup_range

theorem Custody.lt_of_mem_pagersOf (custody : Custody r) (own : pager ∈ r.pagersOf session) :
    pager < r.state.store.issued := by
  obtain ⟨first, member, -, rfl⟩ := mem_pagersOf.mp own
  have started : first.pager ∈ r.firsts.map (·.pager) := List.mem_map_of_mem member
  rw [custody.started] at started
  exact List.mem_range.mp started

/-- A pager has one session. -/
theorem Custody.session_unique (custody : Custody r) {other : String}
    (own : pager ∈ r.pagersOf session) (too : pager ∈ r.pagersOf other) : session = other := by
  obtain ⟨first, member, rfl, rfl⟩ := mem_pagersOf.mp own
  obtain ⟨second, again, rfl, same⟩ := mem_pagersOf.mp too
  rw [List.inj_on_of_nodup_map custody.nodup_firsts again member same]

/-! ### What a move adds -/

structure HandsOut (r after : Run σ) : Prop where
  firsts : ∃ pages, after.firsts = r.firsts ++ pages
  origin : ∀ page ∈ after.pages,
    (∃ old ∈ r.pages, old.pager = page.pager ∧ old.session = page.session) ∨
    (∃ binding, r.state.slot? page.session = some (.live binding) ∧ binding.pager = page.pager) ∨
    page ∈ after.firsts

namespace HandsOut

theorem of_same (firsts : after.firsts = r.firsts)
    (same : ∀ page ∈ after.pages, ∃ old ∈ r.pages, old.pager = page.pager ∧ old.session = page.session) :
    HandsOut r after :=
  ⟨⟨[], firsts.trans (List.append_nil _).symm⟩, fun page member => .inl (same page member)⟩

theorem of_subset (firsts : after.firsts = r.firsts) (fewer : after.pages ⊆ r.pages) :
    HandsOut r after :=
  of_same firsts fun page member => ⟨page, fewer member, rfl, rfl⟩

end HandsOut

theorem Effect.handsOut {move : Move} (effect : Effect b r move after) : HandsOut r after := by
  cases effect with
  | resumed answer =>
    refine ⟨⟨[], (List.append_nil _).symm⟩, fun other member => ?_⟩
    rcases List.mem_cons.mp member with rfl | before
    · obtain ⟨binding, live, -, -, -, rfl, -⟩ := State.begin_resume answer
      exact .inr (.inl ⟨binding, live, rfl⟩)
    · exact .inl ⟨other, before, rfl, rfl⟩
  | started =>
    refine ⟨⟨_, rfl⟩, fun page member => ?_⟩
    rcases List.mem_cons.mp member with rfl | before
    · exact .inr (.inr (List.mem_append_right _ (List.mem_singleton_self _)))
    · exact .inl ⟨page, before, rfl, rfl⟩
  | @read position page hit cursor found next =>
    refine .of_same rfl fun other member => ?_
    rcases List.mem_or_eq_of_mem_set member with before | rfl
    · exact ⟨other, before, rfl, rfl⟩
    · exact ⟨page, List.mem_of_getElem? found, rfl, rfl⟩
  | closed | dropped => exact .of_subset rfl List.eraseIdx_subset
  | _ => exact .of_subset rfl (List.Subset.refl _)

theorem pagersOf_step (b : Backend σ) (r : Run σ) (move : Move) (own : pager ∈ r.pagersOf session) :
    pager ∈ (r.step b move).pagersOf session := by
  obtain ⟨pages, firsts⟩ := (effect b r move).handsOut.firsts
  change pager ∈ (r.act b move).pagersOf session
  rw [pagersOf_append firsts]
  exact List.mem_append_left _ own

def Keeps (t after : Timers Alarm) : Prop :=
  ∀ id timer, after.timer? id = some timer →
    ∃ before, t.timer? id = some before ∧ before.action = timer.action

theorem Keeps.of_modified {t now : Timers Alarm} {id : Nat} {f : Timer Alarm → Timer Alarm}
    (modified : t.Modified now id f) (action : ∀ x, (f x).action = x.action) : Keeps t now := by
  intro other timer set
  rw [modified.timer?] at set
  split at set
  · obtain ⟨before, was, rfl⟩ := Option.map_eq_some_iff.mp set
    exact ⟨before, was, (action before).symm⟩
  · exact ⟨timer, set, rfl⟩

/-- A timer that is new was set for a page that is closed. -/
theorem timers_act (b : Backend σ) (r : Run σ) (move : Move) :
    Keeps r.state.timers (r.act b move).state.timers ∨
      ∃ page ∈ r.pages, (r.act b move).state.timers =
        (r.state.timers.schedule r.state.store.ttlMillis (.idle page.session page.pager)).2 := by
  have timing := (effect b r move).timing
  generalize (r.act b move).state.timers = after at timing ⊢
  cases timing with
  | same => exact .inl fun _ timer set => ⟨timer, set, rfl⟩
  | cancelled _ id =>
    exact .inl (.of_modified (r.state.timers.modified_cancel id) Watches.action_finish)
  | scheduled _ out => exact .inr ⟨_, out, rfl⟩
  | elapsed millis => exact .inl fun _ timer set => ⟨timer, set, rfl⟩
  | claimed timer =>
    refine .inl (.of_modified (r.state.timers.modified_claim timer) fun x => ?_)
    unfold Timer.claimAt
    split <;> rfl
  | taken timer => exact .inl (.of_modified (r.state.timers.modified_take? timer) Watches.action_run)
  | stopped =>
    refine .inl fun id timer set => ?_
    rw [Timers.timer?_stop] at set
    split at set
    · exact ⟨timer, set, rfl⟩
    · obtain ⟨before, was, rfl⟩ := Option.map_eq_some_iff.mp set
      exact ⟨before, was, rfl⟩

structure Owned (r : Run σ) : Prop where
  page : ∀ page ∈ r.pages, page.pager ∈ r.pagersOf page.session
  kept : ∀ session binding, r.state.slot? session = some (.live binding) →
    binding.pager ∈ r.pagersOf session
  timer : ∀ id timer session pager, r.state.timers.timer? id = some timer →
    timer.action = .idle session pager → pager ∈ r.pagersOf session

theorem owned_initial (ttlMillis : Nat) (timers : Timers Alarm) (index : σ)
    (granted : List PageRequest)
    (unset : ∀ timer ∈ timers.all, ∀ session pager, timer.action ≠ .idle session pager) :
    Owned { initial ttlMillis timers index with granted } where
  page _ member := nomatch member
  kept _ _ found := nomatch found
  timer _ _ session pager set action := absurd action (action_ne_of_unset unset set session pager)

theorem Owned.step (owned : Owned r) (b : Backend σ) (move : Move) : Owned (r.step b move) := by
  refine ⟨?_, ?_, ?_⟩
  · intro page member
    rcases (effect b r move).handsOut.origin page member with ⟨old, was, pager, own⟩ | ⟨binding, live, pager⟩ | first
    · exact pagersOf_step b r _ (pager ▸ own ▸ owned.page old was)
    · exact pagersOf_step b r _ (pager ▸ owned.kept page.session binding live)
    · exact mem_pagersOf.mpr ⟨page, first, rfl, rfl⟩
  · intro session binding live
    have became : Fate b r (r.step b move).state session move := (effect b r move).fate session
    cases became with
    | same unended slot => exact pagersOf_step b r _ (owned.kept session binding (slot.symm.trans live))
    | ended ends unkept => exact absurd live (unkept binding)
    | lost kept late slot => cases slot.symm.trans live
    | rang kept taken slot => cases slot.symm.trans live
    | vacated gone busy slot => cases slot.symm.trans live
    | cached busy page slot =>
      cases slot.symm.trans live
      obtain ⟨page, member, rfl, pager⟩ := page
      exact pagersOf_step b r _ (pager ▸ owned.page page member)
  · intro id timer session pager set action
    rcases timers_act b r move with keeps | ⟨page, member, timers⟩
    · obtain ⟨before, was, same⟩ := keeps id timer set
      exact pagersOf_step b r _ (owned.timer id before session pager was (same.trans action))
    · change (r.act b move).state.timers.timer? id = some timer at set
      rw [timers, Timers.timer?_schedule] at set
      split at set
      · cases set
        cases action
        exact pagersOf_step b r _ (owned.page page member)
      · exact pagersOf_step b r _ (owned.timer id timer session pager set action)

end GeoSearch.Paging.Run

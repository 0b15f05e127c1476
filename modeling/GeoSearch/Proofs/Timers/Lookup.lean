import GeoSearch.Timers
import Mathlib.Data.List.Basic
/-!
Timers one by one. Each operation changes the timer that it is about and lets the others alone, apart
from what is listed.
-/
namespace GeoSearch

namespace Timer

variable {α : Type} (t : Timer α)

def finish : Timer α := if t.isClaimed then t else { t with stage := .finished }

def unlist : Timer α := { t with listed := false }

@[simp] theorem stage_unlist : t.unlist.stage = t.stage := rfl

@[simp] theorem action_unlist : t.unlist.action = t.action := rfl

@[simp] theorem isClaimed_unlist : t.unlist.isClaimed = t.isClaimed := rfl

@[simp] theorem unlist_purge : t.purge.unlist = t.unlist := rfl

theorem unlist_claimAt (now : Nat) : (t.claimAt now).unlist = t.unlist.claimAt now := by
  unfold claimAt unlist
  split <;> simp_all

theorem unlist_finish : t.finish.unlist = t.unlist.finish := by
  unfold finish
  rw [isClaimed_unlist]
  split <;> rfl

theorem unlist_run : t.run.unlist = t.unlist.run := by
  unfold run
  rw [stage_unlist]
  split <;> rfl

theorem unlist_stop : t.stop.unlist = t.unlist.stop := rfl

theorem claimAt_claimAt (now : Nat) : (t.claimAt now).claimAt now = t.claimAt now := by
  by_cases due : t.stage = .waiting ∧ t.due ≤ now <;> simp [claimAt, due]

theorem run_run : t.run.run = t.run := by
  by_cases claimed : t.stage = .claimed <;> simp [run, claimed]

end Timer

namespace Timers

variable {α : Type} (t : Timers α) (id other : Nat)

/-- A timer, whether listed or not. -/
def timer? : Option (Timer α) := t.all[id]?.map Timer.unlist

theorem lt_of_timer? {t : Timers α} {id : Nat} {timer : Timer α} (set : t.timer? id = some timer) :
    id < t.all.length := by
  obtain ⟨entry, found, -⟩ := Option.map_eq_some_iff.mp set
  exact (List.getElem?_eq_some_iff.mp found).1

@[simp] theorem timer?_elapse (millis : Nat) : (t.elapse millis).timer? id = t.timer? id := rfl

theorem getElem?_concat_of_ne {β : Type} (entries : List β) (last : β)
    (apart : id ≠ entries.length) : (entries ++ [last])[id]? = entries[id]? := by
  rcases Nat.lt_or_ge id entries.length with before | after
  · exact List.getElem?_append_left before
  · rw [List.getElem?_eq_none after, List.getElem?_eq_none]
    rw [List.length_append, List.length_singleton]
    omega

@[simp] theorem id_schedule (delay : Nat) (action : α) :
    (t.schedule delay action).1 = t.all.length := by
  unfold schedule
  split <;> rfl

theorem timer?_schedule (delay : Nat) (action : α) :
    (t.schedule delay action).2.timer? id =
      if id = t.all.length then
        some { due := t.now + delay, action, listed := false,
               stage := if t.shutDown then .stopped else .waiting }
      else t.timer? id := by
  unfold schedule timer?
  by_cases last : id = t.all.length
  · subst last
    split <;> simp [Timer.unlist, Timer.stop, *]
  · rw [if_neg last]
    split
    · exact congrArg (Option.map _) (getElem?_concat_of_ne id t.all _ last)
    · have apart : id ≠ (t.all.map Timer.purge).length := by rwa [List.length_map]
      dsimp only
      rw [getElem?_concat_of_ne id _ _ apart, List.getElem?_map, Option.map_map]
      rfl

theorem timer?_claim :
    (t.claim other).timer? id =
      if id = other then (t.timer? id).map (Timer.claimAt t.now) else t.timer? id := by
  by_cases own : id = other
  · subst own
    simp [timer?, claim, Function.comp_def, Timer.unlist_claimAt]
  · simp [timer?, claim, List.getElem?_modify_ne, own, Ne.symm own]

theorem timer?_set {timer new : Timer α} (found : t.all[other]? = some timer) :
    ({ t with all := t.all.set other new } : Timers α).timer? id =
      if id = other then some new.unlist else t.timer? id := by
  obtain ⟨inside, -⟩ := List.getElem?_eq_some_iff.mp found
  by_cases own : id = other
  · subst own
    simp [timer?, List.getElem?_set_self inside]
  · simp [timer?, List.getElem?_set_ne (Ne.symm own), own]

theorem timer?_cancel :
    (t.cancel other).2.timer? id =
      if id = other then (t.timer? id).map Timer.finish else t.timer? id := by
  unfold cancel
  cases found : t.all[other]? with
  | none => by_cases own : id = other <;> simp [timer?, own, found]
  | some timer =>
    by_cases claimed : timer.isClaimed = true
    · have same : timer.unlist.finish = timer.unlist := if_pos claimed
      by_cases own : id = other <;> simp [timer?, own, found, claimed, same]
    · have finished : timer.finish = { timer with stage := .finished } := if_neg claimed
      simp only [claimed, Bool.false_eq_true, if_false]
      rw [timer?_set t id other found, ← finished, Timer.unlist_finish]
      by_cases own : id = other <;> simp [timer?, own, found]

/-- Cancelling comes in time for a timer that nobody has claimed. -/
theorem cancel_fst : (t.cancel other).1 = (t.timer? other).any fun timer => !timer.isClaimed := by
  unfold cancel timer?
  cases t.all[other]? with
  | none => rfl
  | some timer => by_cases claimed : timer.isClaimed = true <;> simp [claimed]

theorem timer?_take? :
    (t.take? other).2.timer? id =
      if id = other then (t.timer? id).map Timer.run else t.timer? id := by
  unfold take?
  cases found : t.all[other]? with
  | none => by_cases own : id = other <;> simp [timer?, own, found]
  | some timer =>
    by_cases claimed : timer.stage = .claimed
    · simp only [claimed, if_true]
      rw [timer?_set t id other found, Timer.unlist_run]
      by_cases own : id = other <;> simp [timer?, own, found]
    · have same : timer.unlist.run = timer.unlist := if_neg claimed
      by_cases own : id = other <;> simp [timer?, own, found, claimed, same]

/-- An action is taken from a timer that has claimed it. -/
theorem take?_eq_some_iff {action : α} :
    (t.take? other).1 = some action ↔
      ∃ timer, t.timer? other = some timer ∧ timer.stage = .claimed ∧ timer.action = action := by
  unfold take? timer?
  cases t.all[other]? with
  | none => simp
  | some timer => by_cases claimed : timer.stage = .claimed <;> simp [claimed]

theorem timer?_stop :
    t.stop.2.timer? id = if t.shutDown then t.timer? id else (t.timer? id).map Timer.stop := by
  unfold stop
  split
  · rfl
  · simp [timer?, Function.comp_def, Timer.unlist_stop]

/-! The clock. -/

@[simp] theorem now_schedule (delay : Nat) (action : α) :
    (t.schedule delay action).2.now = t.now := by
  unfold schedule
  split <;> rfl

@[simp] theorem now_cancel : (t.cancel other).2.now = t.now := by
  unfold cancel
  split
  · rfl
  · split <;> rfl

@[simp] theorem now_take? : (t.take? other).2.now = t.now := by
  unfold take?
  split
  · rfl
  · split <;> rfl

@[simp] theorem now_claim : (t.claim other).now = t.now := rfl

@[simp] theorem shutDown_schedule (delay : Nat) (action : α) :
    (t.schedule delay action).2.shutDown = t.shutDown := by
  unfold schedule
  split <;> rfl

@[simp] theorem shutDown_cancel : (t.cancel other).2.shutDown = t.shutDown := by
  unfold cancel
  split
  · rfl
  · split <;> rfl

@[simp] theorem shutDown_take? : (t.take? other).2.shutDown = t.shutDown := by
  unfold take?
  split
  · rfl
  · split <;> rfl

@[simp] theorem length_cancel : (t.cancel other).2.all.length = t.all.length := by
  unfold cancel
  split
  · rfl
  · split <;> simp

@[simp] theorem length_take? : (t.take? other).2.all.length = t.all.length := by
  unfold take?
  split
  · rfl
  · split <;> simp

@[simp] theorem length_claim : (t.claim other).all.length = t.all.length := by simp [claim]

@[simp] theorem length_schedule (delay : Nat) (action : α) :
    (t.schedule delay action).2.all.length = t.all.length + 1 := by
  unfold schedule
  split <;> simp

structure Modified (t after : Timers α) (id : Nat) (f : Timer α → Timer α) : Prop where
  length : after.all.length = t.all.length
  now : after.now = t.now
  shutDown : after.shutDown = t.shutDown
  timer? : ∀ other, after.timer? other = if other = id then (t.timer? other).map f else t.timer? other

theorem modified_cancel : t.Modified (t.cancel id).2 id Timer.finish :=
  ⟨t.length_cancel id, t.now_cancel id, t.shutDown_cancel id, fun other => t.timer?_cancel other id⟩

theorem modified_take? : t.Modified (t.take? id).2 id Timer.run :=
  ⟨t.length_take? id, t.now_take? id, t.shutDown_take? id, fun other => t.timer?_take? other id⟩

theorem modified_claim : t.Modified (t.claim id) id (Timer.claimAt t.now) :=
  ⟨t.length_claim id, rfl, rfl, fun other => t.timer?_claim other id⟩

/-! Many timers in a row. -/

theorem timer?_claims (ids : List Nat) :
    (ids.foldl claim t).timer? id =
      if id ∈ ids then (t.timer? id).map (Timer.claimAt t.now) else t.timer? id := by
  induction ids generalizing t with
  | nil => rfl
  | cons first rest ih =>
    rw [List.foldl_cons, ih, now_claim, timer?_claim]
    by_cases own : id = first
    · subst own
      by_cases again : id ∈ rest <;> simp [again, Function.comp_def, Timer.claimAt_claimAt]
    · by_cases later : id ∈ rest <;> simp [own, later]

theorem timer?_takes (ids : List Nat) :
    (ids.foldl (fun t other => (t.take? other).2) t).timer? id =
      if id ∈ ids then (t.timer? id).map Timer.run else t.timer? id := by
  induction ids generalizing t with
  | nil => rfl
  | cons first rest ih =>
    rw [List.foldl_cons, ih, timer?_take?]
    by_cases own : id = first
    · subst own
      by_cases again : id ∈ rest <;> simp [again, Function.comp_def, Timer.run_run]
    · by_cases later : id ∈ rest <;> simp [own, later]

end Timers

end GeoSearch

/-!
Timers on a clock that is set by hand. A timer that falls due claims its action; a timer that is
cancelled before never runs it. Exactly one side gets the action: once it is claimed, cancelling
fails.

Claimed actions run at once, unless actions are held back; then they wait until they are let go.
-/
namespace GeoSearch

inductive Timer.Stage where
  /-- not yet due -/
  | waiting
  /-- claimed, and its action is to be run -/
  | claimed
  /-- the action was run, or the timer was cancelled -/
  | finished
  /-- will never fall due, but can still be cancelled -/
  | stopped
  deriving Repr, DecidableEq

structure Timer (α : Type) where
  due : Nat
  action : α
  stage : Timer.Stage := .waiting
  /-- counted among the tasks of its scheduler -/
  listed : Bool := true

namespace Timer

/-- Someone has the action: the clock, or whoever cancelled. -/
def isClaimed (t : Timer α) : Bool := t.stage = .claimed || t.stage = .finished

def isPending (t : Timer α) : Bool := t.listed && (t.stage = .waiting || t.stage = .claimed)

/-- Claims the action of a timer that is due. -/
def claimAt (now : Nat) (t : Timer α) : Timer α :=
  if t.stage = .waiting && t.due ≤ now then { t with stage := .claimed } else t

/-- Finished tasks leave the list of their scheduler. -/
def purge (t : Timer α) : Timer α := { t with listed := t.listed && t.stage != .finished }

def run (t : Timer α) : Timer α := if t.stage = .claimed then { t with stage := .finished } else t

def stop (t : Timer α) : Timer α :=
  { t with listed := false, stage := if t.stage = .waiting then .stopped else t.stage }

end Timer

/-- A timer is known by its position. -/
structure Timers (α : Type) where
  /-- milliseconds since the start -/
  now : Nat := 0
  all : List (Timer α) := []
  /-- actions are held back -/
  held : Bool := false
  /-- no timer will fall due any more -/
  shutDown : Bool := false

namespace Timers

/-- Sets a timer. One that is set after the shutdown never falls due. -/
def schedule (t : Timers α) (delay : Nat) (action : α) : Nat × Timers α :=
  let timer : Timer α := { due := t.now + delay, action }
  if t.shutDown then (t.all.length, { t with all := t.all ++ [timer.stop] })
  else (t.all.length, { t with all := t.all.map Timer.purge ++ [timer] })

def isClaimed (t : Timers α) (id : Nat) : Bool :=
  match t.all[id]? with
  | some timer => timer.isClaimed
  | none => false

/-- Takes the action of a timer away, unless it was claimed before. Whether that was so. -/
def cancel (t : Timers α) (id : Nat) : Bool × Timers α :=
  match t.all[id]? with
  | none => (false, t)
  | some timer =>
    if timer.isClaimed then (false, t)
    else (true, { t with all := t.all.set id { timer with stage := .finished } })

def pending (t : Timers α) : Nat := t.all.countP Timer.isPending

def claimDue (t : Timers α) : Timers α := { t with all := t.all.map (Timer.claimAt t.now) }

def elapse (t : Timers α) (millis : Nat) : Timers α := { t with now := t.now + millis }

/-- The claimed actions in the order in which they fell due. -/
def claimed (t : Timers α) : List α :=
  ((t.all.filter fun timer => timer.stage = .claimed).mergeSort fun a b => a.due ≤ b.due).map
    (·.action)

/-- The actions to be run now, after which none is left to run. -/
def takeClaimed (t : Timers α) : List α × Timers α :=
  if t.held then ([], t) else (t.claimed, { t with all := t.all.map Timer.run })

/-- One timer claims its action, if it is due. -/
def claim (t : Timers α) (id : Nat) : Timers α :=
  { t with all := t.all.modify id (Timer.claimAt t.now) }

/-- The action of one timer, to be run now, if it was claimed and not run before. -/
def take? (t : Timers α) (id : Nat) : Option α × Timers α :=
  match t.all[id]? with
  | none => (none, t)
  | some timer =>
    if timer.stage = .claimed then (some timer.action, { t with all := t.all.set id timer.run })
    else (none, t)

/-- Stops all timers. Actions that are claimed may still be run. The answer is the number of tasks
that were listed, the first time. -/
def stop (t : Timers α) : Option Nat × Timers α :=
  if t.shutDown then (none, t)
  else
    (some (t.all.countP (·.listed)),
      { t with shutDown := true, all := t.all.map Timer.stop })

/-- Some time passes, and timers fall due. -/
def wait (millis : Nat) (t : Timers α) : Timers α := (t.elapse millis).claimDue

/-- What happens to timers that is too short for one that was just set with this delay: it can still
be cancelled. -/
def Spares (delay : Nat) (pause : Timers α → Timers α) : Prop :=
  ∀ (t : Timers α) (action : α),
    ((pause (t.schedule delay action).2).cancel (t.schedule delay action).1).1 = true

theorem spares_wait {millis delay : Nat} (short : millis < delay) :
    Spares delay (wait millis : Timers α → Timers α) := by
  intro t action
  let timer : Timer α := { due := t.now + delay, action }
  have early : ¬ timer.due ≤ t.now + millis := by
    change ¬ t.now + delay ≤ t.now + millis
    omega
  unfold schedule
  split
  · simp [wait, elapse, claimDue, cancel, Timer.claimAt, Timer.stop, Timer.isClaimed]
  · simp [wait, elapse, claimDue, cancel, Timer.claimAt, Timer.isClaimed, early, timer]

end Timers

end GeoSearch

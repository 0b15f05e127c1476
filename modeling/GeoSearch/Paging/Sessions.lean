import GeoSearch.Paging.Answer
/-!
Runs by session. What a session does is told in its own terms: it knows its pagers and its timers in
the order in which it got them, and nothing of those of other sessions.
-/
namespace GeoSearch.Paging

def Alarm.isFor (session : String) : Alarm → Bool
  | .idle owner _ => owner == session
  | .named _ => false

def idleTimers (t : Timers Alarm) (session : String) : List Nat :=
  (List.range t.all.length).filter fun id => t.all[id]?.any fun timer => timer.action.isFor session

/-- What a session does, and what its timers do. Pages are known by their pagers. -/
inductive Deed where
  | request (key : String) (start size : Nat)
  | start (key : String) (start size : Nat) (search : Search)
  | read (pager : Nat)
  | close (pager : Nat)
  | drop (pager : Nat)
  | leave
  | claim (timer : Nat)
  | ring (timer : Nat)

inductive Event where
  | deed (session : String) (deed : Deed)
  | elapse (millis : Nat)

/-- Time passes for all sessions. -/
def Event.concerns (session : String) : Event → Bool
  | .deed owner _ => owner == session
  | .elapse _ => true

namespace Run

def pagersOf (r : Run σ) (session : String) : List Nat :=
  (r.firsts.filter fun page => page.session == session).map (·.pager)

def place (r : Run σ) (session : String) (pager : Nat) : Nat :=
  match (r.pagersOf session)[pager]? with
  | some holder => r.pages.findIdx fun page => page.pager == holder
  | none => r.pages.length

def timerId (r : Run σ) (session : String) (timer : Nat) : Nat :=
  ((idleTimers r.state.timers session)[timer]?).getD r.state.timers.all.length

def moveOf (r : Run σ) (session : String) : Deed → Move
  | .request key start size => .request { session, key, start, size }
  | .start key start size search => .start { session, key, start, size } search
  | .read pager => .read (r.place session pager)
  | .close pager => .close (r.place session pager)
  | .drop pager => .drop (r.place session pager)
  | .leave => .leave session
  | .claim timer => .claim (r.timerId session timer)
  | .ring timer => .ring (r.timerId session timer)

def happen (b : Backend σ) (r : Run σ) : Event → Run σ
  | .deed session deed => r.step b (r.moveOf session deed)
  | .elapse millis => r.step b (.elapse millis)

def happenAll (b : Backend σ) (r : Run σ) (events : List Event) : Run σ := events.foldl (happen b) r

/-- What a session sees: the answers to what it does, each with where its next page starts then. -/
def outcomes (b : Backend σ) (session : String) (r : Run σ) :
    List Event → List (Answer × Option Nat)
  | [] => []
  | .elapse millis :: later => outcomes b session (r.step b (.elapse millis)) later
  | .deed owner deed :: later =>
    let after := r.step b (r.moveOf owner deed)
    if owner = session then
      (r.answer b (r.moveOf owner deed), after.state.expectedIndex session) ::
        outcomes b session after later
    else outcomes b session after later

end Run

end GeoSearch.Paging

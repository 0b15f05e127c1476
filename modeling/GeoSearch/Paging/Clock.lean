import GeoSearch.Paging.Run
/-!
Runs on a clock. Time passes only when it is told to, and timers are never late: whatever falls due
with a move claims its action and is run before the next move.
-/
namespace GeoSearch

/-- All timers, in the order in which they fall due. -/
def Timers.order (t : Timers α) : List Nat :=
  (t.all.zipIdx.mergeSort fun a b => a.1.due ≤ b.1.due).map (·.2)

namespace Paging

/-- The move of a session, or of the clock. All others are up to the timers. -/
def Move.isOuter : Move → Bool
  | .claim _ => false
  | .ring _ => false
  | .stop => false
  | _ => true

namespace Run

def now (r : Run σ) : Nat := r.state.timers.now

/-- Timers that are due claim their actions, and the claimed actions are run. -/
def settle (b : Backend σ) (r : Run σ) : Run σ :=
  r.run b (r.state.timers.order.map .claim ++ r.state.timers.order.map .ring)

def prompt (b : Backend σ) (r : Run σ) (move : Move) : Run σ := (r.step b move).settle b

def promptRun (b : Backend σ) (r : Run σ) (moves : List Move) : Run σ := moves.foldl (prompt b) r

/-- A pager is started, if the request was granted and the cursor can be opened. -/
def Starts (b : Backend σ) (r : Run σ) (q : PageRequest) (s : Search) : Prop :=
  q ∈ r.granted ∧
    (Cursor.open? b s.keepMillis s.index s.request s.maxHits r.state.connection).1.isOk = true

/-- With the move the cursor that is kept for a session is resumed, replaced or released. -/
def Ends (b : Backend σ) (r : Run σ) (session : String) : Move → Prop
  | .request q => q.session = session ∧ (r.state.begin b q).1.isOk = true
  | .start q s => q.session = session ∧ r.Starts b q s
  | .leave other => other = session
  | _ => False

/-- With the move a session whose cursor has expired begins anew, or leaves. -/
def Renews (b : Backend σ) (r : Run σ) (session : String) : Move → Prop
  | .request q => q.session = session ∧ q.start = 0
  | .start q s => q.session = session ∧ r.Starts b q s
  | .leave other => other = session
  | _ => False

def Never (b : Backend σ) (kind : Run σ → Move → Prop) (r : Run σ) : List Move → Prop
  | [] => True
  | move :: later => ¬ kind r move ∧ Never b kind (r.prompt b move) later

/-- The move leaves a cursor to be kept for the session that was not kept before. -/
def Caches (b : Backend σ) (r : Run σ) (move : Move) (session : String) (binding : Binding) : Prop :=
  r.state.slot? session ≠ some (.live binding) ∧
    (r.step b move).state.slot? session = some (.live binding)

/-- With the move, or with what falls due then, a cursor that was kept for the session expires. -/
def Lapses (b : Backend σ) (r : Run σ) (move : Move) (session : String) (binding : Binding) : Prop :=
  r.state.slot? session = some (.live binding) ∧
    (r.prompt b move).state.slot? session = some .expired

end Run

end Paging

end GeoSearch

import GeoSearch.Proofs.Paging.Pairing
/-!
Two runs that agree about a session: it holds the same in both, but for the numbers of its pagers and
timers, and for cursors that were used alike.
-/
namespace GeoSearch.Paging

/-! ### Slots -/

structure BindingAlike (pagers timers : List (Nat × Nat)) (held too : Binding) : Prop where
  pager : (held.pager, too.pager) ∈ pagers
  timer : (held.timer, too.timer) ∈ timers
  key : held.key = too.key
  next : held.next = too.next
  size : held.size = too.size

inductive SlotAlike (pagers timers : List (Nat × Nat)) : Option Slot → Option Slot → Prop
  | free : SlotAlike pagers timers none none
  | expired : SlotAlike pagers timers (some .expired) (some .expired)
  | busy {pager too : Nat} (paired : (pager, too) ∈ pagers) (key : String) (start : Nat) :
    SlotAlike pagers timers (some (.busy pager key start)) (some (.busy too key start))
  | live {held too : Binding} (alike : BindingAlike pagers timers held too) :
    SlotAlike pagers timers (some (.live held)) (some (.live too))

inductive VerdictAlike (pagers timers : List (Nat × Nat)) : Verdict → Verdict → Prop
  | fresh : VerdictAlike pagers timers .fresh .fresh
  | reject (e : Error) : VerdictAlike pagers timers (.reject e) (.reject e)
  | resume {held too : Binding} (alike : BindingAlike pagers timers held too) :
    VerdictAlike pagers timers (.resume held) (.resume too)

section

variable {pagers timers : List (Nat × Nat)} {slot too : Option Slot}

theorem BindingAlike.verdict {held other : Binding} (alike : BindingAlike pagers timers held other)
    (q : PageRequest) : VerdictAlike pagers timers (held.verdict q) (other.verdict q) := by
  unfold Binding.verdict
  rw [← alike.key, ← alike.next, ← alike.size]
  split
  · split
    · exact .fresh
    · exact .reject _
  · split
    · exact .reject _
    · split
      · exact .reject _
      · exact .resume alike

/-- Slots that are alike decide alike about requests. -/
theorem SlotAlike.verdict (alike : SlotAlike pagers timers slot too) (q : PageRequest) :
    VerdictAlike pagers timers (Slot.verdict q slot) (Slot.verdict q too) := by
  cases alike with
  | free =>
    simp only [Slot.verdict]
    split
    · exact .fresh
    · exact .reject _
  | expired =>
    simp only [Slot.verdict]
    split
    · exact .fresh
    · exact .reject _
  | busy _ key start =>
    simp only [Slot.verdict]
    split
    · exact .fresh
    · exact .reject _
  | live alike => exact alike.verdict q

theorem SlotAlike.live_right {held : Binding}
    (alike : SlotAlike pagers timers (some (.live held)) too) :
    ∃ other, too = some (.live other) ∧ BindingAlike pagers timers held other := by
  cases alike with
  | live alike => exact ⟨_, rfl, alike⟩

theorem SlotAlike.live_left {other : Binding}
    (alike : SlotAlike pagers timers slot (some (.live other))) :
    ∃ held, slot = some (.live held) ∧ BindingAlike pagers timers held other := by
  cases alike with
  | live alike => exact ⟨_, rfl, alike⟩

theorem SlotAlike.expectedIndex {session : String} {p q : State σ}
    (alike : SlotAlike pagers timers (p.slot? session) (q.slot? session)) :
    p.expectedIndex session = q.expectedIndex session := by
  unfold State.expectedIndex
  generalize p.slot? session = left at alike
  generalize q.slot? session = right at alike
  cases alike with
  | free => rfl
  | expired => rfl
  | busy own key start => rfl
  | live alike => exact congrArg some alike.next

theorem SlotAlike.mono (alike : SlotAlike pagers timers slot too) {more later : List (Nat × Nat)}
    (fewer : pagers ⊆ more) (earlier : timers ⊆ later) : SlotAlike more later slot too := by
  cases alike with
  | free => exact .free
  | expired => exact .expired
  | busy paired key start => exact .busy (fewer paired) key start
  | live alike =>
    exact .live ⟨fewer alike.pager, earlier alike.timer, alike.key, alike.next, alike.size⟩

end

/-! What is done with slots that are alike. -/

section

variable {pagers alarms : List (Nat × Nat)} {uses more : List (Nat × Cursor.Use)}

theorem UsedAlike.same (used : UsedAlike pagers uses more) :
    UsedAlike pagers (uses ++ []) (more ++ []) := by
  rwa [List.append_nil, List.append_nil]

/-- A cursor that could not be opened belongs to no pager. -/
theorem UsedAlike.aside (used : UsedAlike pagers uses more) (m n : Nat) (use : Cursor.Use) :
    UsedAlike pagers (uses ++ [(2 * m + 1, use)]) (more ++ [(2 * n + 1, use)]) := by
  intro x member
  rw [Cursor.history_append, Cursor.history_append, Cursor.history_cons_of_ne use (by omega),
    Cursor.history_cons_of_ne use (by omega), used x member]
  rfl

theorem UsedAlike.releases {lefts rights : List Nat} {slot too : Option Slot}
    (used : UsedAlike pagers uses more) (paired : Paired pagers lefts rights)
    (alike : SlotAlike pagers alarms slot too) :
    UsedAlike pagers (uses ++ releases (Slot.kept slot))
      (more ++ releases (Slot.kept too)) := by
  cases alike with
  | free => exact used.same
  | expired => exact used.same
  | busy own key start => exact used.same
  | live alike => exact used.append paired alike.pager [.release]

theorem TimedAlike.unset {session : String} {p q : State σ}
    (timers : TimedAlike session pagers alarms p.timers q.timers)
    (slot : SlotAlike pagers alarms (p.slot? session) (q.slot? session)) :
    TimedAlike session pagers alarms (p.unset session) (q.unset session) := by
  unfold State.unset
  generalize p.slot? session = left at slot
  generalize q.slot? session = right at slot
  cases slot with
  | free => exact timers
  | expired => exact timers
  | busy own key start => exact timers
  | live alike => exact (timers.cancel alike.timer).2

end

/-! ### Pages -/

def Page.heading (page : Page) : String × Nat × Nat := (page.key, page.start, page.size)

theorem BindingAlike.heading {pagers alarms : List (Nat × Nat)} {held too : Binding}
    (alike : BindingAlike pagers alarms held too) (session : String) :
    (held.page session).heading = (too.page session).heading := by
  simp [Page.heading, Binding.page, alike.key, alike.next, alike.size]

/-- A page is seen by what it is and how its cursor is seen. -/
theorem Page.face_eq {page too : Page} (heading : page.heading = too.heading)
    (face : page.cursor.face = too.cursor.face) : page.face = too.face := by
  simp only [Page.heading, Prod.mk.injEq] at heading
  simp only [Cursor.face, Cursor.Face.mk.injEq] at face
  simp only [Page.face, heading, face]

def pageOf (pages : List Page) (pager : Nat) : Option Page :=
  pages.find? fun page => page.pager == pager

section

variable {pages : List Page} {page : Page} {position pager : Nat}

theorem pageOf_cons (page : Page) (pages : List Page) (pager : Nat) :
    pageOf (page :: pages) pager = if page.pager = pager then some page else pageOf pages pager := by
  by_cases own : page.pager = pager <;> simp [pageOf, own]

theorem pageOf_some (found : pageOf pages pager = some page) : page ∈ pages ∧ page.pager = pager :=
  ⟨List.mem_of_find?_eq_some found, by simpa using List.find?_some found⟩

theorem pageOf_eraseIdx_of_ne (found : pages[position]? = some page) (apart : page.pager ≠ pager) :
    pageOf (pages.eraseIdx position) pager = pageOf pages pager := by
  induction pages generalizing position with
  | nil => rfl
  | cons first rest ih =>
    cases position with
    | zero =>
      cases found
      rw [pageOf_cons, if_neg apart]
      rfl
    | succ position =>
      rw [List.eraseIdx_cons_succ, pageOf_cons, pageOf_cons, ih found]

theorem pageOf_set_of_ne (found : pages[position]? = some page) (cursor : Cursor)
    (apart : page.pager ≠ pager) :
    pageOf (pages.set position { page with cursor }) pager = pageOf pages pager := by
  induction pages generalizing position with
  | nil => rfl
  | cons first rest ih =>
    cases position with
    | zero =>
      cases found
      rw [List.set_cons_zero, pageOf_cons, if_neg apart, pageOf_cons, if_neg apart]
    | succ position => rw [List.set_cons_succ, pageOf_cons, pageOf_cons, ih found]

/-- Another cursor in a page makes no difference to what else the page is. -/
theorem heading_set (found : pages[position]? = some page) (cursor : Cursor) (pager : Nat) :
    (pageOf (pages.set position { page with cursor }) pager).map Page.heading =
      (pageOf pages pager).map Page.heading := by
  induction pages generalizing position with
  | nil => rfl
  | cons first rest ih =>
    cases position with
    | zero =>
      cases found
      rw [List.set_cons_zero, pageOf_cons, pageOf_cons]
      split <;> rfl
    | succ position =>
      rw [List.set_cons_succ, pageOf_cons, pageOf_cons]
      split
      · rfl
      · exact ih found

end

def PagesAlike (pagers : List (Nat × Nat)) (pages more : List Page) : Prop :=
  ∀ x ∈ pagers, (pageOf pages x.1).map Page.heading = (pageOf more x.2).map Page.heading

namespace PagesAlike

variable {pagers : List (Nat × Nat)} {left right : List Nat} {pages more : List Page} {page too : Page}
  {position place : Nat}

theorem cons (alike : PagesAlike pagers pages more) (paired : Paired pagers left right)
    (own : (page.pager, too.pager) ∈ pagers) (same : page.heading = too.heading) :
    PagesAlike pagers (page :: pages) (too :: more) := by
  intro x member
  have iff := paired.eq_iff own member
  rw [pageOf_cons, pageOf_cons]
  by_cases equal : page.pager = x.1
  · rw [if_pos equal, if_pos (iff.mp equal)]
    exact congrArg some same
  · rw [if_neg equal, if_neg fun equal' => equal (iff.mpr equal')]
    exact alike x member

theorem set (alike : PagesAlike pagers pages more) (found : pages[position]? = some page)
    (found' : more[place]? = some too) (c d : Cursor) :
    PagesAlike pagers (pages.set position { page with cursor := c })
      (more.set place { too with cursor := d }) := by
  intro x member
  rw [heading_set found, heading_set found']
  exact alike x member

theorem eraseIdx (alike : PagesAlike pagers pages more) (paired : Paired pagers left right)
    (found : pages[position]? = some page) (found' : more[place]? = some too)
    (own : (page.pager, too.pager) ∈ pagers)
    (only : ∀ other ∈ pages.eraseIdx position, other.pager ≠ page.pager)
    (only' : ∀ other ∈ more.eraseIdx place, other.pager ≠ too.pager) :
    PagesAlike pagers (pages.eraseIdx position) (more.eraseIdx place) := by
  have none {pages : List Page} {pager : Nat} (only : ∀ other ∈ pages, other.pager ≠ pager) :
      pageOf pages pager = none :=
    List.find?_eq_none.mpr fun other member => by simpa using only other member
  intro x member
  have iff := paired.eq_iff own member
  by_cases equal : page.pager = x.1
  · rw [← equal, ← iff.mp equal, none only, none only']
  · rw [pageOf_eraseIdx_of_ne found equal,
      pageOf_eraseIdx_of_ne found' fun equal' => equal (iff.mpr equal')]
    exact alike x member

end PagesAlike

structure PageAlike (session : String) (pagers : List (Nat × Nat)) (page too : Page) : Prop where
  left : page.session = session
  right : too.session = session
  pager : (page.pager, too.pager) ∈ pagers
  heading : page.heading = too.heading

section

variable {session : String} {pagers alarms : List (Nat × Nat)} {lefts rights : List Nat}
  {page too : Page} {p q : State σ}

/-- A page has the place of its session, or has lost it, in both. -/
theorem PageAlike.isBusyWith (pages : PageAlike session pagers page too)
    (paired : Paired pagers lefts rights)
    (slot : SlotAlike pagers alarms (p.slot? session) (q.slot? session)) :
    p.isBusyWith page.session page.pager = q.isBusyWith too.session too.pager := by
  unfold State.isBusyWith
  rw [pages.left, pages.right]
  generalize p.slot? session = left at slot
  generalize q.slot? session = right at slot
  cases slot with
  | free => rfl
  | expired => rfl
  | busy own key start => exact Bool.eq_iff_iff.mpr (by simpa using paired.eq_iff own pages.pager)
  | live alike => rfl

theorem PageAlike.vacate (pages : PageAlike session pagers page too)
    (paired : Paired pagers lefts rights)
    (slot : SlotAlike pagers alarms (p.slot? session) (q.slot? session)) :
    SlotAlike pagers alarms ((p.vacate page).slot? session) ((q.vacate too).slot? session) := by
  have left : (p.vacate page).slot? session = p.vacated page := by
    rw [← pages.left]
    exact (State.change_vacate p page).own
  have right : (q.vacate too).slot? session = q.vacated too := by
    rw [← pages.right]
    exact (State.change_vacate q too).own
  have same := pages.isBusyWith paired slot
  rw [left, right, State.vacated, State.vacated, ← same, pages.left, pages.right]
  split
  · exact .free
  · exact slot

end

/-! ### Runs -/

namespace Run

structure Agree (session : String) (pagers alarms : List (Nat × Nat)) (r s : Run σ) : Prop where
  ttl : r.state.store.ttlMillis = s.state.store.ttlMillis
  granted : ∀ q, q.session = session → (q ∈ r.granted ↔ q ∈ s.granted)
  paired : Paired pagers (r.pagersOf session) (s.pagersOf session)
  timers : TimedAlike session pagers alarms r.state.timers s.state.timers
  slot : SlotAlike pagers alarms (r.state.slot? session) (s.state.slot? session)
  pages : PagesAlike pagers r.pages s.pages

structure Spared (session : String) (r after : Run σ) : Prop where
  ttl : after.state.store.ttlMillis = r.state.store.ttlMillis
  granted : ∀ q, q.session = session → (q ∈ after.granted ↔ q ∈ r.granted)
  pagers : after.pagersOf session = r.pagersOf session
  timers : Untouched session r.state.timers after.state.timers
  slot : after.state.slot? session = r.state.slot? session
  pages : ∀ pager ∈ r.pagersOf session, pageOf after.pages pager = pageOf r.pages pager

variable {session : String} {pagers alarms : List (Nat × Nat)} {r s after later : Run σ}

theorem Spared.refl (session : String) (r : Run σ) : Spared session r r :=
  ⟨rfl, fun _ _ => Iff.rfl, rfl, .refl session _, rfl, fun _ _ => rfl⟩

theorem Agree.of_spared (agree : Agree session pagers alarms r s) (left : Spared session r after)
    (right : Spared session s later) : Agree session pagers alarms after later where
  ttl := left.ttl.trans (agree.ttl.trans right.ttl.symm)
  granted q own := (left.granted q own).trans ((agree.granted q own).trans (right.granted q own).symm)
  paired := by
    rw [left.pagers, right.pagers]
    exact agree.paired
  timers := agree.timers.of_untouched left.timers right.timers
  slot := by
    rw [left.slot, right.slot]
    exact agree.slot
  pages x member := by
    rw [left.pages x.1 (agree.paired.mem_left member), right.pages x.2 (agree.paired.mem_right member)]
    exact agree.pages x member

/-- Reports and counters make no difference. -/
theorem Agree.of_alike (agree : Agree session pagers alarms after later) (left : r.Alike after)
    (right : s.Alike later) : Agree session pagers alarms r s where
  ttl := by
    rw [left.state.store, right.state.store]
    exact agree.ttl
  granted q own := by
    rw [left.granted, right.granted]
    exact agree.granted q own
  paired := by
    rw [Run.pagersOf, Run.pagersOf, left.firsts, right.firsts]
    exact agree.paired
  timers := by
    rw [left.state.timers, right.state.timers]
    exact agree.timers
  slot := by
    rw [left.state.slot? session, right.state.slot? session]
    exact agree.slot
  pages := by
    rw [left.pages, right.pages]
    exact agree.pages

theorem Spared.of_alike (spared : Spared session r after) (alike : later.Alike after) :
    Spared session r later where
  ttl := by
    rw [alike.state.store]
    exact spared.ttl
  granted q own := by
    rw [alike.granted]
    exact spared.granted q own
  pagers := by
    rw [Run.pagersOf, alike.firsts]
    exact spared.pagers
  timers := by
    rw [alike.state.timers]
    exact spared.timers
  slot := (alike.state.slot? session).trans spared.slot
  pages := by
    rw [alike.pages]
    exact spared.pages

/-- The place of a pager's page is that of the first page with the pager. -/
theorem getElem?_place {pager holder : Nat} (own : (r.pagersOf session)[pager]? = some holder) :
    r.pages[r.place session pager]? = pageOf r.pages holder := by
  unfold Run.place pageOf
  rw [own, List.find?_eq_getElem?_findIdx]

theorem getElem?_place_none {pager : Nat} (absent : (r.pagersOf session)[pager]? = none) :
    r.pages[r.place session pager]? = none := by
  unfold Run.place
  rw [absent]
  exact List.getElem?_eq_none (Nat.le_refl _)

end Run

end GeoSearch.Paging

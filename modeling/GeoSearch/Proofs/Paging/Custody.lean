import GeoSearch.Proofs.Paging.Effects
import Mathlib.Data.List.Perm.Basic
/-!
Custody of cursors. At any moment of a run every cursor that was opened is in one place: kept in the
slot of a session, in one page that is out, or released.
-/
namespace GeoSearch.Paging.Run

open scoped List

/-- The cursor is the one that its pager was started with. It was not released before, and kept all
identifiers. -/
def Genuine (r : Run σ) (cursor : Nat × Cursor) : Prop :=
  cursor.2.phase ≠ .closed ∧
    ∃ first ∈ r.firsts, first.pager = cursor.1 ∧ first.cursor.ids ⊆ cursor.2.ids

/-- Every pager has its cursor in one place. A slot that is taken is taken by a page that is out, and
the calls that release scrolls are those for the cursors that are gone. -/
structure Custody (r : Run σ) : Prop where
  distinct : r.state.store.slots.Distinct
  started : r.firsts.map (·.pager) = List.range r.state.store.issued
  placed : (r.held ++ r.gone).map (·.1) ~ List.range r.state.store.issued
  genuine : ∀ cursor ∈ r.held ++ r.gone, r.Genuine cursor
  releases : r.state.connection.releases = r.gone.flatMap fun cursor => cursor.2.owed
  busy : ∀ session slot, r.state.slot? session = some slot → slot.isBusy = true →
    ∃ page ∈ r.pages, page.session = session ∧ page.slot = slot

theorem custody_initial (ttlMillis : Nat) (timers : Timers Alarm) (index : σ) :
    Custody (initial ttlMillis timers index) where
  distinct := List.nodup_nil
  started := rfl
  placed := .refl _
  genuine cursor member := by cases member
  releases := rfl
  busy session slot found := by cases found

theorem holds_iff {r : Run σ} {pager : Nat} :
    r.holds pager = true ↔ pager ∈ r.held.map (·.1) := by
  simp [holds]

theorem parted_held (r : Run σ) : r.parted r.held = [] := by
  refine List.filter_eq_nil_iff.mpr fun cursor member => ?_
  simp [holds_iff.mpr (List.mem_map_of_mem member)]

/-- Where the pagers of cursors differ, those that nobody holds are the released ones. -/
theorem parted_eq {after : Run σ} {found opened released : List (Nat × Cursor)}
    (balance : found ++ opened ~ after.held ++ released)
    (apart : ((after.held ++ released).map (·.1)).Nodup) (short : released.length ≤ 1)
    (inHand : ∀ cursor ∈ opened, cursor ∈ after.held) : after.parted found = released := by
  rw [List.map_append, List.nodup_append] at apart
  have own : after.parted after.held = [] := parted_held after
  have new : after.parted opened = [] := by
    refine List.filter_eq_nil_iff.mpr fun cursor member => ?_
    simp [holds_iff.mpr (List.mem_map_of_mem (inHand cursor member))]
  have gone : after.parted released = released := by
    refine List.filter_eq_self.mpr fun cursor member => ?_
    have unheld : ¬ after.holds cursor.1 = true := fun held =>
      apart.2.2 _ (holds_iff.mp held) _ (List.mem_map_of_mem member) rfl
    simp [unheld]
  have parted : after.parted found ~ released := by
    have filtered := balance.filter fun cursor => !after.holds cursor.1
    rw [List.filter_append, List.filter_append] at filtered
    change after.parted found ++ after.parted opened ~
      after.parted after.held ++ after.parted released at filtered
    rwa [new, own, gone, List.append_nil, List.nil_append] at filtered
  match released, short with
  | [], _ => exact parted.eq_nil
  | [cursor], _ => exact List.perm_singleton.mp parted

/-- What a move does to the cursors, by the slot of one session: of the cursor kept there, those in
the pages as they were found and the opened ones, each is in the slot or in a page afterwards, or is
released. -/
structure Transfer (r after : Run σ) (session : String) (slot : Option Slot)
    (out opened released : List (Nat × Cursor)) : Prop where
  change : Change r.state after.state opened.length session slot released
  short : released.length ≤ 1
  gone : after.gone = r.gone
  samePagers : out.map (·.1) = r.out.map (·.1)
  nextPagers : opened.map (·.1) = List.range' r.state.store.issued opened.length
  started : ∃ pages, after.firsts = r.firsts ++ pages ∧ pages.map (·.pager) = opened.map (·.1)
  exchange : Slot.kept (r.state.slot? session) ++ out ++ opened ~ Slot.kept slot ++ after.out ++ released
  inHand : ∀ cursor ∈ opened, cursor ∈ after.out
  genuine : ∀ cursor ∈ out ++ opened, after.Genuine cursor
  others : ∀ page ∈ r.pages, page.session ≠ session →
    ∃ now ∈ after.pages, now.session = page.session ∧ now.slot = page.slot
  busy : ∀ taken, slot = some taken → taken.isBusy = true →
    ∃ page ∈ after.pages, page.session = session ∧ page.slot = taken

variable {r after : Run σ} {session : String} {slot : Option Slot}
  {out opened released : List (Nat × Cursor)}

theorem Genuine.later {cursor : Nat × Cursor} (genuine : r.Genuine cursor) {pages : List Page}
    (firsts : after.firsts = r.firsts ++ pages) : after.Genuine cursor := by
  obtain ⟨unreleased, first, member, agrees⟩ := genuine
  exact ⟨unreleased, first, firsts ▸ List.mem_append_left _ member, agrees⟩

namespace Transfer

/-- No cursor is lost and none is made up. -/
theorem balance (transfer : Transfer r after session slot out opened released)
    (distinct : r.state.store.slots.Distinct) :
    r.state.store.slots.kept ++ out ++ opened ~ after.held ++ released := by
  classical
  have kept := Slots.kept_change distinct (transfer.change.distinct distinct) transfer.change.others
  have own : after.state.store.slots.get? session = slot := transfer.change.own
  rw [own] at kept
  refine List.perm_iff_count.mpr fun cursor => ?_
  have before := kept.count_eq cursor
  have exchange := transfer.exchange.count_eq cursor
  simp only [held, State.slot?, List.count_append] at before exchange ⊢
  omega

theorem issued (transfer : Transfer r after session slot out opened released) :
    List.range after.state.store.issued =
      List.range r.state.store.issued ++ opened.map (·.1) := by
  have joined : List.range' 0 r.state.store.issued ++
      List.range' (0 + r.state.store.issued) opened.length =
      List.range' 0 (r.state.store.issued + opened.length) := List.range'_append_1
  rw [transfer.nextPagers, transfer.change.issued, List.range_eq_range', List.range_eq_range',
    ← joined, Nat.zero_add]

theorem pagers (transfer : Transfer r after session slot out opened released)
    (custody : Custody r) :
    (after.held ++ released ++ r.gone).map (·.1) ~ List.range after.state.store.issued := by
  have found : (r.state.store.slots.kept ++ out).map (·.1) = r.held.map (·.1) := by
    simp [held, transfer.samePagers]
  refine List.perm_iff_count.mpr fun pager => ?_
  have balance := ((transfer.balance custody.distinct).map (·.1)).count_eq pager
  have placed := custody.placed.count_eq pager
  rw [List.map_append, found] at balance
  rw [transfer.issued]
  simp only [List.map_append, List.count_append] at balance placed ⊢
  omega

theorem keeps_genuine (transfer : Transfer r after session slot out opened released)
    {cursor : Nat × Cursor} (genuine : r.Genuine cursor) : after.Genuine cursor := by
  obtain ⟨pages, firsts, -⟩ := transfer.started
  exact genuine.later firsts

end Transfer

/-- A transfer leaves custody as it was. -/
theorem Custody.transfer (custody : Custody r)
    (transfer : Transfer r after session slot out opened released) :
    Custody { after with gone := r.gone ++ after.parted (r.state.store.slots.kept ++ out) } := by
  have balance := transfer.balance custody.distinct
  have pagers := transfer.pagers custody
  have apart : ((after.held ++ released).map (·.1)).Nodup := by
    have all := pagers.nodup_iff.mpr List.nodup_range
    rw [List.map_append] at all
    exact all.of_append_left
  have parted := parted_eq balance apart transfer.short fun cursor member =>
    List.mem_append_right _ (transfer.inHand cursor member)
  rw [parted]
  have whole : after.held ++ (r.gone ++ released) ~ after.held ++ released ++ r.gone := by
    rw [List.append_assoc]
    exact List.perm_append_comm.append_left _
  have own : ∀ cursor ∈ r.state.store.slots.kept ++ out ++ opened, after.Genuine cursor := by
    intro cursor member
    rw [List.append_assoc, List.mem_append] at member
    rcases member with kept | found
    · exact transfer.keeps_genuine
        (custody.genuine cursor (List.mem_append_left _ (List.mem_append_left _ kept)))
    · exact transfer.genuine cursor found
  refine ⟨transfer.change.distinct custody.distinct, ?_, (whole.map _).trans pagers, ?_, ?_, ?_⟩
  · obtain ⟨pages, firsts, opens⟩ := transfer.started
    rw [transfer.issued, ← custody.started, ← opens, ← List.map_append, ← firsts]
  · intro cursor member
    rcases List.mem_append.mp (whole.mem_iff.mp member) with now | before
    · exact own cursor (balance.mem_iff.mpr now)
    · exact transfer.keeps_genuine (custody.genuine cursor (List.mem_append_right _ before))
  · rw [List.flatMap_append, ← custody.releases]
    exact transfer.change.releases
  · intro other taken found busy
    rcases transfer.change.held_cases found with ⟨rfl, put⟩ | ⟨apart, before⟩
    · exact transfer.busy taken put busy
    · obtain ⟨page, member, rfl, rfl⟩ := custody.busy other taken before busy
      exact transfer.others page member apart

/-! ### The moves -/

variable {b : Backend σ}

theorem Custody.step_of (custody : Custody r) {move : Move} (act : r.act b move = after)
    (found : r.found b move = r.state.store.slots.kept ++ out)
    (transfer : Transfer r after session slot out opened released) : Custody (r.step b move) := by
  subst act
  have kept := custody.transfer transfer
  rw [← found] at kept
  exact kept

theorem length_kept_le (slot : Option Slot) : (Slot.kept slot).length ≤ 1 := by
  unfold Slot.kept
  split <;> simp

theorem Custody.genuine_out (custody : Custody r) : ∀ cursor ∈ r.out, r.Genuine cursor :=
  fun cursor member =>
    custody.genuine cursor (List.mem_append_left _ (List.mem_append_right _ member))

/-- A move that opens no cursor. -/
theorem Transfer.unopened (change : Change r.state after.state 0 session slot released)
    (short : released.length ≤ 1) (gone : after.gone = r.gone) (firsts : after.firsts = r.firsts)
    (samePagers : out.map (·.1) = r.out.map (·.1))
    (exchange : Slot.kept (r.state.slot? session) ++ out ~ Slot.kept slot ++ after.out ++ released)
    (genuine : ∀ cursor ∈ out, after.Genuine cursor)
    (others : ∀ page ∈ r.pages, page.session ≠ session →
      ∃ now ∈ after.pages, now.session = page.session ∧ now.slot = page.slot)
    (busy : ∀ taken, slot = some taken → taken.isBusy = true →
      ∃ page ∈ after.pages, page.session = session ∧ page.slot = taken) :
    Transfer r after session slot out [] released where
  change := change
  short := short
  gone := gone
  samePagers := samePagers
  nextPagers := rfl
  started := ⟨[], firsts.trans (List.append_nil _).symm, rfl⟩
  exchange := by
    rw [List.append_nil]
    exact exchange
  inHand _ member := nomatch member
  genuine := by
    rw [List.append_nil]
    exact genuine
  others := others
  busy := busy

/-- A move that leaves the pages as they are changes at most what one slot keeps. -/
theorem Custody.settle (custody : Custody r)
    (change : Change r.state after.state 0 session slot released)
    (pages : after.pages = r.pages) (firsts : after.firsts = r.firsts) (gone : after.gone = r.gone)
    (exchange : Slot.kept (r.state.slot? session) = Slot.kept slot ++ released)
    (busy : ∀ taken, slot = some taken → taken.isBusy = true →
      r.state.slot? session = some taken) :
    Transfer r after session slot r.out [] released := by
  have short : released.length ≤ 1 := by
    have all := length_kept_le (r.state.slot? session)
    rw [exchange, List.length_append] at all
    omega
  have out : after.out = r.out := by rw [Run.out, pages, Run.out]
  refine .unopened change short gone firsts rfl ?_ ?_ ?_ ?_
  · rw [exchange, out, List.append_assoc, List.append_assoc]
    exact List.perm_append_comm.append_left _
  · exact fun cursor member =>
      (custody.genuine_out cursor member).later (firsts.trans (List.append_nil _).symm)
  · exact fun page member _ => ⟨page, pages ▸ member, rfl, rfl⟩
  · intro taken is isBusy
    rw [pages]
    exact custody.busy session taken (busy taken is isBusy) isBusy

/-- So does one that leaves the store alone. -/
theorem Custody.idle (custody : Custody r) (store : after.state.store = r.state.store)
    (releases : after.state.connection.releases = r.state.connection.releases)
    (pages : after.pages = r.pages) (firsts : after.firsts = r.firsts)
    (gone : after.gone = r.gone) : Transfer r after "" (r.state.slot? "") r.out [] [] :=
  custody.settle ((Change.refl r.state "").aside store releases) pages firsts gone (by simp)
    fun _ same _ => same

theorem Custody.lapse (custody : Custody r) {state : State σ}
    (lapse : Lapse r.state state session) :
    ∃ slot released, Transfer r (r.setState state) session slot r.out [] released := by
  cases lapse with
  | kept change =>
    exact ⟨_, _, custody.settle change rfl rfl rfl (by simp) fun _ same _ => same⟩
  | expired live change =>
    refine ⟨_, _, custody.settle change rfl rfl rfl (by simp [live, Slot.kept]) ?_⟩
    rintro taken ⟨⟩ ⟨⟩

/-- A slot is emptied. -/
theorem Custody.clear (custody : Custody r)
    (change : Change r.state after.state 0 session none (Slot.kept (r.state.slot? session)))
    (pages : after.pages = r.pages) (firsts : after.firsts = r.firsts) (gone : after.gone = r.gone) :
    Transfer r after session none r.out [] (Slot.kept (r.state.slot? session)) := by
  refine custody.settle change pages firsts gone (by simp [Slot.kept]) ?_
  rintro taken ⟨⟩

/-- A page handed out for a cursor, kept before or just opened, takes the slot. -/
theorem Custody.handOut (custody : Custody r) (page : Page) (opened : List (Nat × Cursor))
    (change : Change r.state after.state opened.length page.session (some page.slot) released)
    (short : released.length ≤ 1) (pages : after.pages = page :: r.pages)
    (gone : after.gone = r.gone)
    (nextPagers : opened.map (·.1) = List.range' r.state.store.issued opened.length)
    (exchange : Slot.kept (r.state.slot? page.session) ++ opened =
      released ++ [(page.pager, page.cursor)])
    (inHand : ∀ cursor ∈ opened, cursor = (page.pager, page.cursor))
    (started : ∃ pages, after.firsts = r.firsts ++ pages ∧ pages.map (·.pager) = opened.map (·.1))
    (genuine : after.Genuine (page.pager, page.cursor)) :
    Transfer r after page.session (some page.slot) r.out opened released where
  change := change
  short := short
  gone := gone
  samePagers := rfl
  nextPagers := nextPagers
  started := started
  exchange := by
    have out : after.out = (page.pager, page.cursor) :: r.out := by rw [Run.out, pages]; rfl
    rw [out]
    calc Slot.kept (r.state.slot? page.session) ++ r.out ++ opened
      _ ~ r.out ++ Slot.kept (r.state.slot? page.session) ++ opened :=
          List.perm_append_comm.append_right _
      _ = r.out ++ released ++ [(page.pager, page.cursor)] := by
          rw [List.append_assoc, exchange, List.append_assoc]
      _ ~ (page.pager, page.cursor) :: (r.out ++ released) := List.perm_append_singleton _ _
  inHand cursor member := by
    rw [Run.out, pages, inHand cursor member]
    exact List.mem_cons_self
  genuine cursor member := by
    obtain ⟨pages, firsts, -⟩ := started
    rcases List.mem_append.mp member with before | new
    · exact (custody.genuine_out cursor before).later firsts
    · rw [inHand cursor new]
      exact genuine
  others other member _ := ⟨other, pages ▸ List.mem_cons_of_mem _ member, rfl, rfl⟩
  busy := by
    rintro taken ⟨⟩ _
    exact ⟨page, pages ▸ List.mem_cons_self, rfl, rfl⟩

theorem Custody.kept_of_live (custody : Custody r) {binding : Binding}
    (live : r.state.slot? session = some (.live binding)) :
    (binding.pager, binding.cursor) ∈ r.state.store.slots.kept := by
  have inSlot : (binding.pager, binding.cursor) ∈ Slot.kept (r.state.slot? session) := by
    simp [live, Slot.kept]
  exact (Slots.kept_split custody.distinct session).mem_iff.mpr (List.mem_append_left _ inSlot)

theorem Custody.genuine_kept (custody : Custody r) {binding : Binding}
    (live : r.state.slot? session = some (.live binding)) :
    r.Genuine (binding.pager, binding.cursor) :=
  custody.genuine _ (List.mem_append_left _ (List.mem_append_left _ (custody.kept_of_live live)))

theorem Custody.resume (custody : Custody r) {q : PageRequest} {page : Page} {state : State σ}
    (answer : r.state.begin b q = (.ok (.resume page), state)) :
    Transfer r { r with state, pages := page :: r.pages } page.session (some page.slot) r.out [] [] := by
  obtain ⟨binding, live, -, -, -, rfl, change⟩ := State.begin_resume answer
  have kept : Slot.kept (r.state.slot? q.session) = [(binding.pager, binding.cursor)] := by
    rw [live]
    rfl
  exact custody.handOut (binding.page q.session) [] change (Nat.zero_le _) rfl rfl rfl
    ((List.append_nil _).trans kept) (fun _ member => nomatch member)
    ⟨[], (List.append_nil _).symm, rfl⟩ ((custody.genuine_kept live).later (List.append_nil _).symm)

theorem Custody.start (custody : Custody r) {q : PageRequest} {s : Search} {cursor : Cursor}
    {connection : Connection σ}
    (opening : Cursor.open? b s.keepMillis s.index s.request s.maxHits r.state.connection =
      (.ok cursor, connection)) :
    let first := q.firstPage r.state.store.issued cursor
    Transfer r
      { r with state := (State.start b { r.state with connection } q cursor).2
               pages := first :: r.pages, firsts := r.firsts ++ [first] }
      q.session (some first.slot) r.out [(r.state.store.issued, cursor)]
      (Slot.kept (r.state.slot? q.session)) := by
  intro first
  exact custody.handOut first [(r.state.store.issued, cursor)] (State.change_opened opening q)
    (length_kept_le _) rfl rfl rfl rfl (fun _ member => List.mem_singleton.mp member)
    ⟨[first], rfl, rfl⟩
    ⟨(Cursor.open?_ok opening).1, first, by simp, rfl, List.Subset.refl _⟩

/-! Pages by their position. -/

section

variable {position : Nat} {page other : Page}

theorem setCursor_self (found : r.pages[position]? = some page) :
    r.setCursor position page page.cursor = r := by
  obtain ⟨inside, rfl⟩ := List.getElem?_eq_some_iff.mp found
  rw [setCursor, List.set_getElem_self]

theorem out_setCursor (found : r.pages[position]? = some page) (cursor : Cursor) :
    (r.setCursor position page cursor).out ~
      (r.pages.eraseIdx position).map (fun page => (page.pager, page.cursor)) ++
        [(page.pager, cursor)] := by
  obtain ⟨inside, -⟩ := List.getElem?_eq_some_iff.mp found
  have first := (List.set_perm_cons_eraseIdx inside { page with cursor }).map
    fun page => (page.pager, page.cursor)
  exact first.trans (List.perm_append_singleton _ _).symm

theorem pagers_setCursor (found : r.pages[position]? = some page) (cursor : Cursor) :
    (r.setCursor position page cursor).out.map (·.1) = r.out.map (·.1) := by
  have pagers : ∀ pages : List Page,
      (pages.map fun page => (page.pager, page.cursor)).map (·.1) = pages.map (·.pager) := by
    simp
  rw [out, out, pagers, pagers, setCursor, List.map_set]
  refine List.ext_getElem? fun i => ?_
  obtain ⟨inside, rfl⟩ := List.getElem?_eq_some_iff.mp found
  by_cases same : position = i
  · subst same
    simp [inside]
  · simp [same]

/-- A page stays out when another one is taken away. -/
theorem mem_eraseIdx_of_ne (found : r.pages[position]? = some page) (member : other ∈ r.pages)
    (distinct : other ≠ page) : other ∈ r.pages.eraseIdx position := by
  obtain ⟨inside, rfl⟩ := List.getElem?_eq_some_iff.mp found
  have split := (List.getElem_cons_eraseIdx_perm inside).mem_iff.mpr member
  exact (List.mem_cons.mp split).resolve_left distinct

theorem mem_eraseIdx_of_session (found : r.pages[position]? = some page) :
    ∀ other ∈ r.pages, other.session ≠ page.session →
      ∃ now ∈ r.pages.eraseIdx position, now.session = other.session ∧ now.slot = other.slot :=
  fun other member apart =>
    ⟨other, mem_eraseIdx_of_ne found member fun same => apart (same ▸ rfl), rfl, rfl⟩

/-- A page keeps its place when a page gets another cursor. -/
theorem mem_setCursor (found : r.pages[position]? = some page) (cursor : Cursor)
    (member : other ∈ r.pages) :
    ∃ now ∈ (r.setCursor position page cursor).pages,
      now.session = other.session ∧ now.slot = other.slot := by
  obtain ⟨inside, -⟩ := List.getElem?_eq_some_iff.mp found
  have set := List.set_perm_cons_eraseIdx inside { page with cursor }
  by_cases same : other = page
  · subst same
    exact ⟨{ other with cursor }, set.mem_iff.mpr List.mem_cons_self, rfl, rfl⟩
  · have kept := mem_eraseIdx_of_ne found member same
    exact ⟨other, set.mem_iff.mpr (List.mem_cons_of_mem _ kept), rfl, rfl⟩

theorem Custody.genuine_page (custody : Custody r) (found : r.pages[position]? = some page) :
    r.Genuine (page.pager, page.cursor) :=
  custody.genuine_out (page.pager, page.cursor)
    (List.mem_map.mpr ⟨page, List.mem_of_getElem? found, rfl⟩)

/-- The cursor of a page moves on. -/
theorem Custody.genuine_setCursor (custody : Custody r) (found : r.pages[position]? = some page)
    {cursor : Cursor} (phase : page.cursor.phase ≠ .closed → cursor.phase ≠ .closed)
    (ids : page.cursor.ids ⊆ cursor.ids) (firsts : after.firsts = r.firsts) :
    ∀ other ∈ (r.setCursor position page cursor).out, after.Genuine other := by
  intro other member
  have same : after.firsts = r.firsts ++ [] := firsts.trans (List.append_nil _).symm
  obtain ⟨now, inside, rfl⟩ := List.mem_map.mp member
  rcases List.mem_or_eq_of_mem_set inside with before | rfl
  · exact (custody.genuine_out _ (List.mem_map.mpr ⟨now, before, rfl⟩)).later same
  · obtain ⟨unreleased, first, member, own, kept⟩ := (custody.genuine_page found).later same
    exact ⟨phase unreleased, first, member, own, fun id given => ids (kept given)⟩

/-- A page that is given up leaves the slot of its session to what else is there. -/
theorem Custody.busy_vacated (custody : Custody r) (found : r.pages[position]? = some page)
    {taken : Slot} (left : r.state.vacated page = some taken) (isBusy : taken.isBusy = true) :
    ∃ other ∈ r.pages.eraseIdx position, other.session = page.session ∧ other.slot = taken := by
  obtain ⟨still, distinct⟩ := State.vacated_eq_some left
  obtain ⟨other, member, own, slot⟩ := custody.busy page.session taken still isBusy
  have apart : other ≠ page := fun same => distinct (same ▸ slot.symm)
  exact ⟨other, mem_eraseIdx_of_ne found member apart, own, slot⟩

theorem Custody.read (custody : Custody r) (found : r.pages[position]? = some page) {hit : Hit}
    {cursor : Cursor} (next : page.cursor.next? = some (hit, cursor)) :
    Transfer r (r.setCursor position page cursor) page.session (r.state.slot? page.session)
      (r.setCursor position page cursor).out [] [] := by
  obtain ⟨phase, ids, -⟩ := Cursor.next?_some next
  refine .unopened (Change.refl r.state page.session) (Nat.zero_le _) rfl rfl
    (pagers_setCursor found cursor) ?_ ?_ ?_ ?_
  · rw [List.append_nil]
  · exact custody.genuine_setCursor found (phase ▸ id) (ids ▸ List.Subset.refl _) rfl
  · exact fun other member _ => mem_setCursor found cursor member
  · intro taken is isBusy
    obtain ⟨other, member, own, slot⟩ := custody.busy page.session taken is isBusy
    rw [← own, ← slot]
    exact mem_setCursor found cursor member

/-- A page is taken away and its cursor, which may have moved on, released. -/
theorem Custody.takeAway (custody : Custody r) (found : r.pages[position]? = some page)
    {state : State σ} {cursor : Cursor} (closed : List (Nat × Connection σ))
    (change : Change r.state state 0 page.session (r.state.vacated page) [(page.pager, cursor)])
    (phase : page.cursor.phase ≠ .closed → cursor.phase ≠ .closed)
    (ids : page.cursor.ids ⊆ cursor.ids) :
    Transfer r { r with state, pages := r.pages.eraseIdx position, closed } page.session
      (r.state.vacated page) (r.setCursor position page cursor).out [] [(page.pager, cursor)] := by
  refine .unopened change (Nat.le_refl _) rfl rfl (pagers_setCursor found cursor) ?_
    (custody.genuine_setCursor found phase ids rfl) (mem_eraseIdx_of_session found)
    fun taken left isBusy => custody.busy_vacated found left isBusy
  rw [State.kept_vacated, List.append_assoc]
  exact (out_setCursor found cursor).append_left _

/-- A page is closed, and its advanced cursor kept or released. -/
theorem Custody.close (custody : Custody r) (b : Backend σ) (found : r.pages[position]? = some page)
    (closed : List (Nat × Connection σ)) :
    ∃ slot released,
      Transfer r
        { r with state := (r.state.closePage b page).2, pages := r.pages.eraseIdx position, closed }
        page.session slot
        (r.setCursor position page (page.cursor.advance b r.state.connection).2.1).out [] released := by
  have phase := Cursor.phase_advance (c := page.cursor) b r.state.connection
  have ids := Cursor.ids_advance b page.cursor r.state.connection
  rcases State.change_closePage b r.state page with
    ⟨fetched, cursor, connection, timer, holds, -, advanced, change⟩ | change
  · obtain ⟨key, start, busy⟩ := State.busy_of_isBusyWith holds
    rw [advanced] at phase ids ⊢
    refine ⟨_, _, .unopened change (Nat.zero_le _) rfl rfl (pagers_setCursor found cursor) ?_
      (custody.genuine_setCursor found phase ids rfl) (mem_eraseIdx_of_session found) ?_⟩
    · rw [busy, List.append_nil]
      exact (out_setCursor found cursor).trans (List.perm_append_singleton _ _)
    · rintro taken ⟨⟩ ⟨⟩
  · exact ⟨_, _, custody.takeAway found closed change phase ids⟩

end

/-- Custody survives every move. -/
theorem Custody.step (custody : Custody r) (b : Backend σ) (move : Move) :
    Custody (r.step b move) := by
  have effect := effect b r move
  generalize act : r.act b move = after at effect
  cases effect with
  | rejected answer =>
    obtain ⟨slot, released, transfer⟩ := custody.lapse (State.begin_error answer)
    exact custody.step_of act rfl transfer
  | granted answer =>
    exact custody.step_of act rfl (custody.clear (State.begin_fresh answer).2 rfl rfl rfl)
  | resumed answer => exact custody.step_of act rfl (custody.resume answer)
  | ungranted => exact custody.step_of act rfl (custody.idle rfl rfl rfl rfl rfl)
  | unopened granted opening =>
    exact custody.step_of act rfl (custody.idle rfl (Cursor.open?_error opening) rfl rfl rfl)
  | started granted opening => exact custody.step_of act rfl (custody.start opening)
  | unread => exact custody.step_of act (congrArg held act) (custody.idle rfl rfl rfl rfl rfl)
  | @read position page hit cursor found next =>
    have whole : r.found b (.read position) = (r.setCursor position page cursor).held :=
      congrArg held act
    exact custody.step_of act whole (custody.read found next)
  | unclosed absent =>
    exact custody.step_of act (by simp [Run.found, absent, Run.held]) (custody.idle rfl rfl rfl rfl rfl)
  | @closed position page found =>
    obtain ⟨slot, released, transfer⟩ :=
      custody.close b found (r.closed ++ [(page.pager, r.state.connection)])
    exact custody.step_of act (by simp [Run.found, found, Run.held, Run.setCursor]) transfer
  | undropped => exact custody.step_of act rfl (custody.idle rfl rfl rfl rfl rfl)
  | @dropped position page found =>
    have whole : r.found b (.drop position) =
        r.state.store.slots.kept ++ (r.setCursor position page page.cursor).out := by
      rw [setCursor_self found]
      rfl
    exact custody.step_of act whole (custody.takeAway found r.closed
      (State.change_dropPage b r.state page) id (List.Subset.refl _))
  | left session =>
    exact custody.step_of act rfl (custody.clear (State.change_clear b r.state session) rfl rfl rfl)
  | rang taken =>
    obtain ⟨slot, released, transfer⟩ := custody.lapse (State.change_expire b r.state ..)
    exact custody.step_of act rfl transfer
  | elapsed | claimed | silent | stopped =>
    exact custody.step_of act rfl (custody.idle rfl rfl rfl rfl rfl)

theorem Custody.run (custody : Custody r) (b : Backend σ) (moves : List Move) :
    Custody (r.run b moves) := by
  induction moves generalizing r with
  | nil => exact custody
  | cons move later ih => exact ih (custody.step b move)

/-! ### Any run -/

theorem Custody.nodup_held (custody : Custody r) : (r.held.map (·.1)).Nodup := by
  have all := custody.placed.nodup_iff.mpr List.nodup_range
  rw [List.map_append] at all
  exact all.of_append_left

theorem Custody.nodup_pages (custody : Custody r) : (r.pages.map (·.pager)).Nodup := by
  have held := custody.nodup_held
  rw [Run.held, List.map_append, out, List.map_map] at held
  exact held.of_append_right

theorem Custody.page_unique (custody : Custody r) {page other : Page} (member : page ∈ r.pages)
    (too : other ∈ r.pages) (same : page.pager = other.pager) : page = other :=
  List.inj_on_of_nodup_map custody.nodup_pages member too same

/-- What is kept is not in a page. -/
theorem Custody.pager_ne_of_live (custody : Custody r) {binding : Binding} {page : Page}
    (live : r.state.slot? session = some (.live binding)) (member : page ∈ r.pages) :
    binding.pager ≠ page.pager := by
  have held := custody.nodup_held
  rw [Run.held, List.map_append, List.nodup_append] at held
  exact held.2.2 _ (List.mem_map_of_mem (custody.kept_of_live live)) _
    (List.mem_map_of_mem (List.mem_map_of_mem member))

theorem Custody.busy_unique (custody : Custody r) {taken : Slot}
    (found : r.state.slot? session = some taken) (isBusy : taken.isBusy = true) :
    ∃! page, page ∈ r.pages ∧ page.session = session ∧ page.slot = taken := by
  obtain ⟨page, member, own, slot⟩ := custody.busy session taken found isBusy
  refine ⟨page, ⟨member, own, slot⟩, ?_⟩
  rintro other ⟨too, -, same⟩
  have pager : other.slot = page.slot := same.trans slot.symm
  injection pager with pager
  exact custody.page_unique too member pager

theorem flatMap_owed {cursors : List (Nat × Cursor)}
    (unreleased : ∀ cursor ∈ cursors, cursor.2.phase ≠ .closed) :
    (cursors.flatMap fun cursor => cursor.2.owed) =
      (cursors.map fun cursor => cursor.2.ids).filter fun ids => !ids.isEmpty := by
  induction cursors with
  | nil => rfl
  | cons cursor rest ih =>
    have later := ih fun other member => unreleased other (List.mem_cons_of_mem _ member)
    rw [List.flatMap_cons, List.map_cons, later,
      Cursor.owed_of_phase (unreleased cursor List.mem_cons_self), ← List.filter_append]
    rfl

/-- Whatever the index answers and the sessions do, every cursor that was opened is held in one place,
the slot of a session or a page, or is gone. A slot that is taken has its one page. Each cursor that
is gone had its scrolls released by one call, with all the identifiers it was given, and there were no
other such calls. With no page out and no cursor kept, all are gone. -/
theorem every_cursor_is_held_once_or_released (b : Backend σ) (ttlMillis : Nat)
    (timers : Timers Alarm) (index : σ) (moves : List Move) :
    let r := run b (initial ttlMillis timers index) moves
    (r.firsts.map (·.pager)).Nodup ∧
    (r.held ++ r.gone).map (·.1) ~ r.firsts.map (·.pager) ∧
    (∀ cursor ∈ r.held ++ r.gone,
      ∃ first ∈ r.firsts, first.pager = cursor.1 ∧ first.cursor.ids ⊆ cursor.2.ids) ∧
    (∀ session slot, r.state.slot? session = some slot → slot.isBusy = true →
      ∃! page, page ∈ r.pages ∧ page.session = session ∧ page.slot = slot) ∧
    (r.held.map (·.1)).Nodup ∧
    r.state.connection.releases =
      (r.gone.map fun cursor => cursor.2.ids).filter (fun ids => !ids.isEmpty) ∧
    (r.pages = [] → r.state.store.slots.bindings = [] →
      r.gone.map (·.1) ~ r.firsts.map (·.pager)) := by
  intro r
  have custody : Custody r := (custody_initial ttlMillis timers index).run b moves
  have placed : (r.held ++ r.gone).map (·.1) ~ r.firsts.map (·.pager) :=
    custody.started ▸ custody.placed
  refine ⟨custody.started ▸ List.nodup_range, placed, ?_, ?_, custody.nodup_held, ?_, ?_⟩
  · exact fun cursor member => (custody.genuine cursor member).2
  · exact fun session slot taken isBusy => custody.busy_unique taken isBusy
  · rw [custody.releases]
    exact flatMap_owed fun cursor member =>
      (custody.genuine cursor (List.mem_append_right _ member)).1
  · intro noPage noBinding
    have none : r.held = [] := by simp [held, Slots.kept, out, noPage, noBinding]
    rwa [none, List.nil_append] at placed

def endless : Backend Unit where
  search _ _ _ :=
    (.ok { total := 9, hits := [{ id := "first", source := .null }], scrollId := some "scroll" }, ())
  resume _ _ _ :=
    (.ok { total := 9, hits := [{ id := "next", source := .null }], scrollId := some "scroll" }, ())
  release _ _ := (.ok (), ())

def twoReaders : List Move :=
  let first (session : String) : PageRequest := { session, key := "all", start := 0, size := 1 }
  let search : Search :=
    { keepMillis := 60000, index := "places", request := { query := .null, size := 1 }, maxHits := 9 }
  [.request (first "ann"), .start (first "ann") search,
    .request (first "ben"), .start (first "ben") search, .read 1, .close 1]

/-- One session leaves with its cursor kept, the other drops its page. -/
theorem all_released_when_readers_leave :
    let r := run endless (initial 1000 {} ()) (twoReaders ++ [.leave "ann", .drop 0])
    r.gone.map (·.1) ~ r.firsts.map (·.pager) ∧
      r.state.connection.releases = [["scroll"], ["scroll"]] := by
  obtain ⟨-, -, -, -, -, releases, all⟩ := every_cursor_is_held_once_or_released endless 1000 {} ()
    (twoReaders ++ [.leave "ann", .drop 0])
  exact ⟨all rfl rfl, releases⟩

end GeoSearch.Paging.Run

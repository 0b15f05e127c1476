import GeoSearch.Paging.Run
import Mathlib.Data.List.Nodup
/-!
Slots by session. An operation that changes the slot of one session changes the kept cursors by what
that slot kept before and keeps after.
-/
namespace GeoSearch.Paging

open scoped List

def Slot.kept : Option Slot → List (Nat × Cursor)
  | some (.live binding) => [(binding.pager, binding.cursor)]
  | _ => []

namespace Slots

variable {slots after : Slots} {session other : String} {slot : Slot}

theorem get?_cons_self (slots : Slots) (session : String) (slot : Slot) :
    get? ((session, slot) :: slots) session = some slot := by
  simp [get?]

theorem get?_cons_of_ne (slots : Slots) (slot : Slot) (distinct : other ≠ session) :
    get? ((session, slot) :: slots) other = slots.get? other := by
  have unlike : (other == session) = false := by simp [distinct]
  simp [get?, List.lookup_cons, unlike]

@[simp] theorem get?_erase_self (slots : Slots) (session : String) :
    (slots.erase session).get? session = none := by
  refine List.lookup_eq_none_iff.mpr fun entry member => ?_
  have unlike := (List.mem_filter.mp member).2
  rwa [bne_comm] at unlike

theorem get?_erase_of_ne (slots : Slots) (distinct : other ≠ session) :
    (slots.erase session).get? other = slots.get? other := by
  induction slots with
  | nil => rfl
  | cons entry rest ih =>
    obtain ⟨owner, slot⟩ := entry
    by_cases own : owner = session
    · subst own
      rw [get?_cons_of_ne rest slot distinct, ← ih]
      simp [erase]
    · have kept : erase ((owner, slot) :: rest) session = (owner, slot) :: erase rest session := by
        simp [erase, own]
      rw [kept]
      by_cases same : other = owner
      · rw [same, get?_cons_self, get?_cons_self]
      · rw [get?_cons_of_ne _ _ same, get?_cons_of_ne _ _ same, ih]

@[simp] theorem get?_put_self (slots : Slots) (session : String) (slot : Slot) :
    (slots.put session slot).get? session = some slot :=
  get?_cons_self _ session slot

theorem get?_put_of_ne (slots : Slots) (slot : Slot) (distinct : other ≠ session) :
    (slots.put session slot).get? other = slots.get? other :=
  (get?_cons_of_ne _ slot distinct).trans (get?_erase_of_ne slots distinct)

def Distinct (slots : Slots) : Prop := (slots.map (·.1)).Nodup

theorem distinct_erase (distinct : slots.Distinct) (session : String) :
    (slots.erase session).Distinct :=
  List.Nodup.sublist (List.filter_sublist.map _) distinct

theorem distinct_put (distinct : slots.Distinct) (session : String) (slot : Slot) :
    (slots.put session slot).Distinct := by
  refine List.nodup_cons.mpr ⟨?_, distinct_erase distinct session⟩
  simp [erase]

theorem erase_of_get?_eq_none (absent : slots.get? session = none) :
    slots.erase session = slots := by
  refine List.filter_eq_self.mpr fun entry member => ?_
  have unlike := List.lookup_eq_none_iff.mp absent entry member
  rwa [bne_comm] at unlike

theorem get?_eq_none_of_distinct (distinct : Distinct ((session, slot) :: slots)) :
    slots.get? session = none := by
  refine List.lookup_eq_none_iff.mpr fun entry member => ?_
  have apart := (List.nodup_cons.mp distinct).1
  have unlike : session ≠ entry.1 := by
    rintro rfl
    exact apart (List.mem_map.mpr ⟨entry, member, rfl⟩)
  simp [unlike]

theorem mem_iff_get? (distinct : slots.Distinct) :
    (session, slot) ∈ slots ↔ slots.get? session = some slot := by
  induction slots with
  | nil => simp [get?]
  | cons entry rest ih =>
    obtain ⟨owner, first⟩ := entry
    have later := ih (List.nodup_cons.mp distinct).2
    by_cases own : session = owner
    · subst own
      have absent : (session, slot) ∉ rest := by
        rw [later, get?_eq_none_of_distinct distinct]
        exact fun impossible => nomatch impossible
      simp [get?_cons_self, absent, eq_comm]
    · simp [get?_cons_of_ne _ _ own, later, own]

theorem kept_cons (owner : String) (slot : Slot) (rest : Slots) :
    kept ((owner, slot) :: rest) = Slot.kept (some slot) ++ kept rest := by
  unfold kept bindings
  cases slot <;> rfl

/-- What is kept is kept in the slot of the session or in the others. -/
theorem kept_split (distinct : slots.Distinct) (session : String) :
    slots.kept.Perm (Slot.kept (slots.get? session) ++ (slots.erase session).kept) := by
  induction slots with
  | nil => exact .refl _
  | cons entry rest ih =>
    obtain ⟨owner, slot⟩ := entry
    by_cases own : owner = session
    · subst own
      have erased : erase ((owner, slot) :: rest) owner = rest := by
        have others := erase_of_get?_eq_none (get?_eq_none_of_distinct distinct)
        simpa [erase] using others
      rw [get?_cons_self, erased, kept_cons]
    · have erased : erase ((owner, slot) :: rest) session = (owner, slot) :: erase rest session := by
        simp [erase, own]
      rw [get?_cons_of_ne _ _ (Ne.symm own), erased, kept_cons, kept_cons]
      have later := (ih (List.nodup_cons.mp distinct).2).append_left (Slot.kept (some slot))
      exact later.trans (List.perm_append_comm_assoc ..)

theorem nodup_of_distinct (distinct : slots.Distinct) : slots.Nodup := List.Nodup.of_map _ distinct

theorem erase_perm (before : slots.Distinct) (later : after.Distinct)
    (others : ∀ other, other ≠ session → after.get? other = slots.get? other) :
    (slots.erase session).Perm (after.erase session) := by
  have left := distinct_erase before session
  have right := distinct_erase later session
  refine (List.perm_ext_iff_of_nodup (nodup_of_distinct left) (nodup_of_distinct right)).mpr ?_
  rintro ⟨other, slot⟩
  rw [mem_iff_get? left, mem_iff_get? right]
  by_cases own : other = session
  · rw [own, get?_erase_self, get?_erase_self]
  · rw [get?_erase_of_ne _ own, get?_erase_of_ne _ own, others other own]

/-- Where only the slot of one session changes, the kept cursors change by what is in it. -/
theorem kept_change (before : slots.Distinct) (later : after.Distinct)
    (others : ∀ other, other ≠ session → after.get? other = slots.get? other) :
    slots.kept ++ Slot.kept (after.get? session) ~ after.kept ++ Slot.kept (slots.get? session) := by
  have same : (slots.erase session).kept ~ (after.erase session).kept :=
    ((erase_perm before later others).filterMap _).map _
  have old := kept_split before session
  have new := kept_split later session
  generalize Slot.kept (slots.get? session) = given at old ⊢
  generalize Slot.kept (after.get? session) = taken at new ⊢
  calc slots.kept ++ taken
    _ ~ given ++ (slots.erase session).kept ++ taken := old.append_right _
    _ ~ taken ++ (given ++ (slots.erase session).kept) := List.perm_append_comm
    _ ~ taken ++ ((slots.erase session).kept ++ given) := List.perm_append_comm.append_left _
    _ = taken ++ (slots.erase session).kept ++ given := (List.append_assoc ..).symm
    _ ~ taken ++ (after.erase session).kept ++ given := (same.append_left _).append_right _
    _ ~ after.kept ++ given := new.symm.append_right _

end Slots

end GeoSearch.Paging

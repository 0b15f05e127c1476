/-!
Sets of texts, kept as sorted lists.
-/
namespace GeoSearch.Text

/-- The texts of a list in order, each once. -/
def sortedSet (texts : List String) : List String :=
  (texts.mergeSort fun a b => a ≤ b).eraseReps

theorem mem_eraseReps_loop {text last : String} {texts taken : List String} :
    text ∈ List.eraseRepsBy.loop (· == ·) last texts taken ↔
      text = last ∨ text ∈ texts ∨ text ∈ taken := by
  induction texts generalizing last taken with
  | nil => simp [List.eraseRepsBy.loop, or_comm]
  | cons next texts ih =>
    rw [List.eraseRepsBy.loop]
    by_cases same : last = next
    · simp [same, ih, or_assoc]
    · simp [beq_eq_false_iff_ne.mpr same, ih, or_left_comm, or_assoc]

theorem mem_sortedSet {text : String} {texts : List String} :
    text ∈ sortedSet texts ↔ text ∈ texts := by
  have mem_eraseReps (texts : List String) : text ∈ texts.eraseReps ↔ text ∈ texts := by
    cases texts with
    | nil => rfl
    | cons first rest =>
      refine mem_eraseReps_loop.trans ?_
      simp
  rw [sortedSet, mem_eraseReps, List.mem_mergeSort]

/-- Adds a text to a sorted list that holds each text once. -/
def insertSorted (text : String) : List String → List String
  | [] => [text]
  | t :: rest =>
    if text = t then t :: rest
    else if text < t then text :: t :: rest
    else t :: insertSorted text rest

theorem mem_insertSorted {text other : String} {texts : List String} :
    other ∈ insertSorted text texts ↔ other = text ∨ other ∈ texts := by
  induction texts with
  | nil => simp [insertSorted]
  | cons t rest ih =>
    rw [insertSorted]
    by_cases same : text = t
    · rw [if_pos same, same]
      simp
    · rw [if_neg same]
      by_cases before : text < t
      · rw [if_pos before, List.mem_cons]
      · rw [if_neg before, List.mem_cons, List.mem_cons, ih]
        exact or_left_comm

theorem sorted_insertSorted (text : String) {texts : List String}
    (sorted : texts.Pairwise (· < ·)) : (insertSorted text texts).Pairwise (· < ·) := by
  induction sorted with
  | nil => exact List.pairwise_singleton _ _
  | @cons t rest first later ih =>
    rw [insertSorted]
    by_cases same : text = t
    · rw [if_pos same]
      exact .cons first later
    rw [if_neg same]
    by_cases before : text < t
    · rw [if_pos before]
      refine .cons (fun other known => ?_) (.cons first later)
      rcases List.mem_cons.mp known with rfl | known
      · exact before
      · exact String.lt_trans before (first other known)
    · rw [if_neg before]
      refine .cons (fun other known => ?_) ih
      rcases mem_insertSorted.mp known with rfl | known
      · exact Std.lt_of_le_of_ne (String.not_lt.mp before) (Ne.symm same)
      · exact first other known

end GeoSearch.Text

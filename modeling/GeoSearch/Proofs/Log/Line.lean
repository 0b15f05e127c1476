import GeoSearch.Log.Line
import GeoSearch.Proofs.Json.Reading
import GeoSearch.Proofs.Text.Bytes
import Mathlib.Data.List.Induction
import Mathlib.Data.List.Nodup
/-!
Log lines, read back. A line is one document on a line of its own: it begins with the event and the
severity that were given, and each other key follows with the value listed last for it.
-/
namespace GeoSearch.Log.Line

open Json (Members texts)

variable {fields : List (String × String)} {key value : String}

/-- The value of a key; of several, the one listed last. -/
def lastValue? (fields : List (String × String)) (key : String) : Option String :=
  (fields.filter fun f => f.1 == key).getLast?.map Prod.snd

theorem lastValue?_concat (fields : List (String × String)) (field : String × String) (key : String) :
    lastValue? (fields ++ [field]) key = if field.1 = key then some field.2 else lastValue? fields key := by
  by_cases same : field.1 = key <;> simp [lastValue?, same]

theorem mem_of_lastValue? (last : lastValue? fields key = some value) : (key, value) ∈ fields := by
  obtain ⟨⟨other, text⟩, found, rfl⟩ := Option.map_eq_some_iff.mp last
  obtain ⟨member, same⟩ := List.mem_filter.mp (List.mem_of_getLast? found)
  obtain rfl : other = key := by simpa using same
  exact member

/-! ### The order of the fields -/

theorem keys_trans (a b c : String × String) (first : decide (a.1 ≤ b.1) = true)
    (second : decide (b.1 ≤ c.1) = true) : decide (a.1 ≤ c.1) = true :=
  decide_eq_true (String.le_trans (of_decide_eq_true first) (of_decide_eq_true second))

theorem keys_total (a b : String × String) : (decide (a.1 ≤ b.1) || decide (b.1 ≤ a.1)) = true := by
  simpa using String.le_total a.1 b.1

theorem sorted_ordered (fields : List (String × String)) : (ordered fields).Pairwise fun a b => a.1 ≤ b.1 :=
  (List.pairwise_mergeSort keys_trans keys_total _).imp of_decide_eq_true

theorem mem_ordered {field : String × String} :
    field ∈ ordered fields ↔ field ∈ fields ∧ reserved field.1 = false := by
  rw [ordered, List.mem_mergeSort, List.mem_filter, Bool.not_eq_true']

/-- The fields of one key keep the order in which they are listed. -/
theorem filter_ordered (fields : List (String × String)) (free : reserved key = false) :
    ((ordered fields).filter fun f => f.1 == key) = fields.filter fun f => f.1 == key := by
  have unreserved : ((fields.filter fun f => !reserved f.1).filter fun f => f.1 == key) =
      fields.filter fun f => f.1 == key := by
    rw [List.filter_filter]
    refine List.filter_congr fun f _ => ?_
    by_cases same : f.1 = key <;> simp [same, free]
  have level : (fields.filter fun f => f.1 == key).Pairwise fun a b => decide (a.1 ≤ b.1) = true := by
    refine List.pairwise_of_forall_mem_list fun a first b second => ?_
    have left : a.1 = key := by simpa using (List.mem_filter.mp first).2
    have right : b.1 = key := by simpa using (List.mem_filter.mp second).2
    rw [left, right]
    exact decide_eq_true (String.le_refl key)
  have within : (fields.filter fun f => f.1 == key).Sublist (fields.filter fun f => !reserved f.1) :=
    unreserved ▸ List.filter_sublist
  have kept := (List.sublist_mergeSort keys_trans keys_total level within).filter fun f => f.1 == key
  simp only [List.filter_filter, Bool.and_self] at kept
  refine (kept.eq_of_length ?_).symm
  rw [((List.mergeSort_perm _ _).filter _).length_eq, unreserved]

theorem lastValue?_ordered (fields : List (String × String)) (key : String) :
    lastValue? (ordered fields) key = if reserved key then none else lastValue? fields key := by
  cases free : reserved key with
  | false => rw [lastValue?, filter_ordered fields free]; rfl
  | true =>
    cases last : lastValue? (ordered fields) key with
    | none => rfl
    | some value =>
      have member := (mem_ordered.mp (mem_of_lastValue? last)).2
      exact absurd (free.symm.trans member) Bool.noConfusion

/-- The order of fields with different keys does not count. -/
theorem ordered_of_perm {others : List (String × String)} (same : others.Perm fields)
    (distinct : (fields.map Prod.fst).Nodup) : ordered others = ordered fields := by
  have perm : (ordered others).Perm (ordered fields) :=
    (List.mergeSort_perm _ _).trans ((same.filter _).trans (List.mergeSort_perm _ _).symm)
  refine List.Perm.eq_of_pairwise (fun a b first second below above => ?_) (sorted_ordered others)
    (sorted_ordered fields) perm
  have left := (mem_ordered.mp (perm.mem_iff.mp first)).1
  exact List.inj_on_of_nodup_map distinct left (mem_ordered.mp second).1 (String.le_antisymm below above)

/-! ### The members -/

/-- Of ascending keys that are at most a last one, only the last can be that one. -/
theorem exists_below {rest : List (String × String)} (ascending : rest.Pairwise fun a b => a.1 < b.1)
    (bounded : ∀ f ∈ rest, f.1 ≤ key) :
    ∃ front, (∀ f ∈ front, f.1 < key) ∧ (rest = front ∨ ∃ value, rest = front ++ [(key, value)]) := by
  rcases List.eq_nil_or_concat' rest with rfl | ⟨front, ⟨other, value⟩, rfl⟩
  · exact ⟨[], by simp, .inl rfl⟩
  · obtain ⟨-, -, before⟩ := List.pairwise_append.mp ascending
    by_cases same : other = key
    · subst same
      exact ⟨front, fun f member => before f member _ List.mem_cons_self, .inr ⟨value, rfl⟩⟩
    · have less : other < key :=
        Std.lt_of_le_of_ne (bounded (other, value) (by simp)) same
      refine ⟨front ++ [(other, value)], fun f member => ?_, .inl rfl⟩
      rcases List.mem_append.mp member with member | member
      · exact String.lt_trans (before f member _ List.mem_cons_self) less
      · rw [List.mem_singleton.mp member]
        exact less

structure Settles (fields rest : List (String × String)) : Prop where
  ascending : rest.Pairwise fun a b => a.1 < b.1
  last : ∀ key value, (key, value) ∈ rest ↔ lastValue? fields key = some value

/-- One more field, of a key that is not below the others: it takes the place of the last one if that
has its key, and comes after it if not. -/
theorem Settles.concat {rest : List (String × String)} (settles : Settles fields rest)
    (bounded : ∀ f ∈ fields, f.1 ≤ key) (value : String) :
    ∃ front, (∀ f ∈ front, f.1 < key) ∧ (rest = front ∨ ∃ old, rest = front ++ [(key, old)]) ∧
      Settles (fields ++ [(key, value)]) (front ++ [(key, value)]) := by
  have limited : ∀ f ∈ rest, f.1 ≤ key := fun f member =>
    bounded f (mem_of_lastValue? ((settles.last f.1 f.2).mp member))
  obtain ⟨front, below, shape⟩ := exists_below settles.ascending limited
  have inside : front.Sublist rest := by
    rcases shape with rfl | ⟨old, rfl⟩
    · exact .refl _
    · exact List.sublist_append_left front _
  refine ⟨front, below, shape, ?_, fun other text => ?_⟩
  · refine List.pairwise_append.mpr
      ⟨settles.ascending.sublist inside, List.pairwise_singleton _ _, fun f member g last => ?_⟩
    rw [List.mem_singleton.mp last]
    exact below f member
  · rw [lastValue?_concat]
    by_cases same : key = other
    · subst same
      have apart : (key, text) ∉ front := fun member => String.lt_irrefl _ (below _ member)
      simp [apart, eq_comm]
    · rw [if_neg same, ← settles.last]
      have moved : (other, text) ∈ rest ↔ (other, text) ∈ front := by
        rcases shape with rfl | ⟨old, rfl⟩
        · rfl
        · simp [Ne.symm same]
      simp [moved, Ne.symm same]

/-- Sorted fields, put behind members of other keys. -/
theorem foldl_put_texts (head : List (String × String)) (sorted : fields.Pairwise fun a b => a.1 ≤ b.1)
    (apart : ∀ f ∈ fields, f.1 ∉ head.map Prod.fst) :
    ∃ rest, Settles fields rest ∧
      fields.foldl (fun ms f => Members.put ms f.1 (.string f.2)) (texts head) = texts (head ++ rest) := by
  -- By the field put last, which has the greatest key: what was put before it is settled.
  induction fields using List.reverseRecOn with
  | nil => exact ⟨[], ⟨.nil, fun key value => by simp [lastValue?]⟩, by rw [List.append_nil]; rfl⟩
  | append_singleton fields field ih =>
    obtain ⟨key, value⟩ := field
    obtain ⟨before, -, bounded⟩ := List.pairwise_append.mp sorted
    obtain ⟨rest, settles, folded⟩ := ih before fun f member => apart f (List.mem_append_left _ member)
    obtain ⟨front, below, shape, further⟩ :=
      settles.concat (fun f member => bounded f member _ List.mem_cons_self) value
    refine ⟨front ++ [(key, value)], further, ?_⟩
    have absent : key ∉ (texts (head ++ front)).map Prod.fst := by
      rw [Json.keys_texts, List.map_append, List.mem_append]
      rintro (member | member)
      · exact apart (key, value) (by simp) member
      · obtain ⟨f, member, same⟩ := List.mem_map.mp member
        exact String.lt_irrefl key (same ▸ below f member)
    have put (tail : Members) : Members.put (texts (head ++ front) ++ tail) key (.string value) =
        texts (head ++ front) ++ Members.put tail key (.string value) :=
      Members.put_append_of_notMem absent tail _
    have replaced : Members.put (texts (head ++ rest)) key (.string value) =
        texts (head ++ front) ++ [(key, .string value)] := by
      rcases shape with rfl | ⟨old, rfl⟩
      · have whole := put []
        rwa [List.append_nil] at whole
      · rw [← List.append_assoc, Json.texts_append, put]
        simp [texts, Members.put]
    rw [List.foldl_append, folded, ← List.append_assoc, Json.texts_append (head ++ front)]
    exact replaced

example : (⟨.warn, "TEST", [("b", "1"), ("event", "FAKE"), ("a", "2"), ("b", "3")]⟩ : Line).members =
    texts [("event", "TEST"), ("severity", "WARN"), ("a", "2"), ("b", "3")] := by cbv

theorem Settles.keys_nodup {head rest : List (String × String)} (settles : Settles fields rest)
    (distinct : (head.map Prod.fst).Nodup) (apart : ∀ f ∈ fields, f.1 ∉ head.map Prod.fst) :
    ((head ++ rest).map Prod.fst).Nodup := by
  rw [List.map_append, List.nodup_append]
  refine ⟨distinct, ?_, ?_⟩
  · refine List.pairwise_map.mpr (settles.ascending.imp fun {a b} less same => ?_)
    exact String.lt_irrefl b.1 (same ▸ less)
  · rintro key member other listed rfl
    obtain ⟨f, inside, rfl⟩ := List.mem_map.mp listed
    exact apart f (mem_of_lastValue? ((settles.last f.1 f.2).mp inside)) member

/-! ### Lines -/

def heading (l : Line) : List (String × String) := [("event", l.event), ("severity", l.severity.text)]

/-- A document that tells of a line: the event and the severity, and then the other keys in the order of
their bytes, each once and with its last value. -/
def Tells (l : Line) (document : Json) : Prop :=
  ∃ rest : List (String × String), document = .object (texts (l.heading ++ rest)) ∧
    (rest.Pairwise fun a b => Text.bytes a.1 < Text.bytes b.1) ∧
    ∀ key value, (key, value) ∈ rest ↔
      key ≠ "event" ∧ key ≠ "severity" ∧ lastValue? l.fields key = some value

theorem reserved_eq_false_iff : reserved key = false ↔ key ≠ "event" ∧ key ≠ "severity" := by
  simp [reserved]

theorem ordered_apart (l : Line) : ∀ f ∈ ordered l.fields, f.1 ∉ l.heading.map Prod.fst := by
  intro f member
  have free := reserved_eq_false_iff.mp (mem_ordered.mp member).2
  simp [heading, free.1, free.2]

theorem tells_settled {l : Line} {rest : List (String × String)} (settles : Settles (ordered l.fields) rest) :
    l.Tells (.object (texts (l.heading ++ rest))) := by
  refine ⟨rest, rfl, settles.ascending.imp Text.bytes_lt_iff.mpr, fun key value => ?_⟩
  rw [settles.last, lastValue?_ordered]
  cases free : reserved key with
  | false =>
    obtain ⟨event, severity⟩ := reserved_eq_false_iff.mp free
    simp [event, severity]
  | true =>
    have taken : ¬ (key ≠ "event" ∧ key ≠ "severity") := by
      rw [← reserved_eq_false_iff, free]
      exact Bool.noConfusion
    simpa using fun event severity => absurd ⟨event, severity⟩ taken

theorem exists_parsed (l : Line) : ∃ document, Json.parse? l.written = some document ∧ l.Tells document := by
  obtain ⟨rest, settles, members⟩ := foldl_put_texts l.heading (sorted_ordered l.fields) l.ordered_apart
  refine ⟨_, ?_, tells_settled settles⟩
  have listed : l.members = texts (l.heading ++ rest) := members
  rw [written, text, listed]
  exact Json.parse?_texts (settles.keys_nodup (by simp [heading]) l.ordered_apart) (by simp [Json.Reader.isSpace])

theorem newline_notMem_text (l : Line) : '\n' ∉ l.text.toList := by
  rw [text, Json.text, String.toList_ofList]
  intro member
  exact absurd (Json.visible_chars _ _ member) (by decide)

theorem written_of_perm {l : Line} {others : List (String × String)} (same : others.Perm l.fields)
    (distinct : (l.fields.map Prod.fst).Nodup) : ({ l with fields := others } : Line).written = l.written := by
  simp only [written, text, members, ordered_of_perm same distinct]

/-- A line can be neither split nor forged: it ends in its only newline, it is read as a document that
tells of its own event and severity, and of its fields, and the order of different fields does not show. -/
theorem line_tells_of_itself (l : Line) :
    (∃ front, l.written.toList = front ++ ['\n'] ∧ '\n' ∉ front) ∧
    (∃ document, Json.parse? l.written = some document ∧ l.Tells document) ∧
    ∀ fields : List (String × String), fields.Perm l.fields → (l.fields.map Prod.fst).Nodup →
      ({ l with fields := fields } : Line).written = l.written :=
  ⟨⟨l.text.toList, String.toList_append, l.newline_notMem_text⟩, l.exists_parsed,
    fun _ same distinct => written_of_perm same distinct⟩

/-- Two fields in either order, one of them with a quote, a newline and a control character. -/
theorem line_of_two_fields :
    (["reason", "index"] : List String).Nodup ∧
    (⟨.warn, "TEST", [("index", "roads"), ("reason", "bad \"pattern\"\nline2\x01")]⟩ : Line).written =
      (⟨.warn, "TEST", [("reason", "bad \"pattern\"\nline2\x01"), ("index", "roads")]⟩ : Line).written := by
  have distinct : (["reason", "index"] : List String).Nodup := by decide
  exact ⟨distinct, (line_tells_of_itself
    ⟨.warn, "TEST", [("reason", "bad \"pattern\"\nline2\x01"), ("index", "roads")]⟩).2.2 _ (.swap ..) distinct⟩

end GeoSearch.Log.Line

import GeoSearch.Proofs.Document.Nested
import GeoSearch.Proofs.Query.Comparison
import GeoSearch.Proofs.Query.Temporal
import GeoSearch.Query.Values
/-!
Bounds of dates. A clause states a date in the pattern of its attribute, which may drop a part of it, and
the index reads another instant back. Whether the clause loses a match depends on the side on which that
instant lies: lower bounds may only fall, upper bounds may only rise, and equality bears neither.
-/
namespace GeoSearch

open Time (Instant)

/-! ### Instants -/

namespace Time.Instant

variable {i j : Instant}

theorem before_iff : i.before j = true ↔
    i.seconds < j.seconds ∨ i.seconds = j.seconds ∧ i.nanos < j.nanos := by
  simp [before, compare, Ordering.then_eq_lt, Nat.compare_eq_lt, Int.compare_eq_lt]

theorem not_before_iff : i.before j = false ↔
    j.seconds < i.seconds ∨ j.seconds = i.seconds ∧ j.nanos ≤ i.nanos := by
  rw [← Bool.not_eq_true, before_iff]
  omega

theorem compare_eq : i.compare j = .eq ↔ i = j := by
  rw [compare, Ordering.then_eq_eq, Int.compare_eq_eq, Nat.compare_eq_eq, Instant.mk.injEq]

theorem compare_gt : i.compare j = .gt ↔ j.before i = true := by
  rw [before, compare_swap i j, beq_iff_eq]
  cases i.compare j <;> simp

end Time.Instant

namespace Comparison

variable {relation : Comparison} {i j bound : Instant} {dates : List Instant}

theorem holds_compare_iff : relation.holds (j.compare i) = true ↔
    match relation with
    | equal => j = i
    | unequal => j ≠ i
    | greater => i.before j = true
    | greaterOrEqual => ¬ j.before i = true
    | less => j.before i = true
    | lessOrEqual => ¬ i.before j = true := by
  have gt := Instant.compare_gt (i := j) (j := i)
  have eq := Instant.compare_eq (i := j) (j := i)
  have lt : j.before i = (j.compare i == .lt) := rfl
  cases relation <;> simp [holds, ← gt, ← eq, lt]

/-- What stands in the relation to the instant stands in it to the bound. -/
def keeps (relation : Comparison) (i bound : Instant) : Bool :=
  match relation with
  | equal | unequal => bound = i
  | greater | greaterOrEqual => !i.before bound
  | less | lessOrEqual => !bound.before i

/-- Whether one of the dates stands in the relation to an instant; all have to differ from it. -/
def amongDates (relation : Comparison) (dates : List Instant) (i : Instant) : Bool :=
  if relation = unequal then !dates.any (·.compare i == .eq)
  else dates.any fun j => relation.holds (j.compare i)

theorem amongDates_single : relation.amongDates [j] i = relation.holds (j.compare i) := by
  cases relation <;> simp [amongDates, holds, bne]

theorem holds_of_keeps (kept : relation.keeps i bound = true)
    (holds : relation.holds (j.compare i) = true) : relation.holds (j.compare bound) = true := by
  rw [holds_compare_iff] at holds ⊢
  cases relation
  case equal | unequal =>
    obtain rfl : bound = i := of_decide_eq_true kept
    exact holds
  all_goals
    simp only [keeps, Bool.not_eq_true', Instant.before_iff, Instant.not_before_iff]
      at kept holds ⊢
    omega

theorem amongDates_of_keeps (kept : relation.keeps i bound = true)
    (among : relation.amongDates dates i = true) : relation.amongDates dates bound = true := by
  by_cases different : relation = unequal
  · subst different
    rwa [of_decide_eq_true kept]
  · rw [amongDates, if_neg different, List.any_eq_true] at among ⊢
    exact among.imp fun j found => ⟨found.1, holds_of_keeps kept found.2⟩

/-- The instant and the bound themselves show what a bound loses. -/
theorem keeps_of_holds (here : relation.holds (i.compare i) = true → relation.holds (i.compare bound) = true)
    (there : relation.holds (bound.compare i) = true → relation.holds (bound.compare bound) = true) :
    relation.keeps i bound = true := by
  simp only [holds_compare_iff] at here there
  cases relation
  case equal => simpa [keeps, eq_comm] using here
  case unequal => simpa [keeps] using there
  all_goals
    simp only [keeps, Bool.not_eq_true', Instant.before_iff, Instant.not_before_iff]
      at here there ⊢
    omega

end Comparison

/-! ### Stored dates -/

namespace Attribute

variable {a : Attribute} {value : Json} {i j bound : Instant}

theorem dateOrder?_of_read (read : a.readDate? value = some bound) (v : Json) :
    a.dateOrder? v value = (a.readDate? v).map (·.compare bound) := by
  cases stored : a.readDate? v <;> simp [dateOrder?, read, stored]

theorem dateOrder?_of_unread (unread : a.readDate? value = none) (v : Json) :
    a.dateOrder? v value = none := by
  cases stored : a.readDate? v <;> simp [dateOrder?, unread, stored]

theorem order?_instant (v : Json) :
    Datum.order? (some a) (.value v) (.instant i) = (a.readDate? v).map (·.compare i) := by
  cases stored : a.readDate? v <;> simp [Datum.order?, Datum.instant?, stored]

/-- What a test asks of stored values, it asks of the dates that they are read as. -/
theorem any_dates (source : Json) (test : Instant → Bool) :
    ((Document.lookup source a.field).any fun v => (a.readDate? v).any test) =
      (a.dates source).any test :=
  a.any_readDate? fun _ _ => rfl

/-- Every date that can be stored is the only one of some document. -/
theorem dates_alone {v : Json} (read : a.readDate? v = some j) :
    a.dates (Document.alone v a.field) = [j] ∧
      ∀ w ∈ Document.lookup (Document.alone v a.field) a.field, (a.readDate? w).isSome = true := by
  obtain ⟨text, rfl⟩ : ∃ text, v = .string text := by
    cases v with
    | string text => exact ⟨text, rfl⟩
    | _ => simp [readDate?, Json.asString?] at read
  have stored : Document.lookup (Document.alone (.string text) a.field) a.field = [.string text] :=
    Document.lookup_alone (.string text) a.field
  rw [dates, stored]
  simp [read]

end Attribute

namespace Comparison

variable {relation : Comparison} {a : Attribute} {source value : Json} {i bound : Instant}

theorem compareData_instant : Predicate.compareData relation (some a)
    ((Document.lookup source a.field).map .value) [.instant i] =
      relation.amongDates (a.dates source) i := by
  simp [Predicate.compareData, amongDates, List.any_map, Function.comp_def, Attribute.order?_instant,
    Option.any_map, a.any_dates, holds]

/-- A clause on a bound that is read selects by the instant that it is read as. -/
theorem selectsDated_clause (read : a.readDate? value = some bound) :
    (relation.clause a.field value).selectsDated a source =
      relation.amongDates (a.dates source) bound := by
  have order := Attribute.dateOrder?_of_read read
  have equal (v : Json) : ((a.readDate? v).map (·.compare bound) == some .eq) =
      (a.readDate? v).any (·.compare bound == .eq) := by
    cases a.readDate? v <;> simp
  rw [Clause.selectsDated, selectsBy_clause]
  simp [amongDates, equal, order, Option.any_map, a.any_dates]

theorem selectsDated_clause_unread (unread : a.readDate? value = none) :
    (relation.clause a.field value).selectsDated a source = decide (relation = unequal) := by
  have order := Attribute.dateOrder?_of_unread unread
  cases relation <;> simp [clause, limit?, Clause.negatedIf, order]

end Comparison

namespace Time.Instant

variable {start stop low high j : Instant}

def between (start stop j : Instant) : Bool :=
  Comparison.greaterOrEqual.holds (j.compare start) && Comparison.lessOrEqual.holds (j.compare stop)

theorem between_iff : between start stop j = true ↔ j.before start = false ∧ stop.before j = false := by
  rw [between, Bool.and_eq_true, Comparison.holds_compare_iff, Comparison.holds_compare_iff]
  simp

/-- Ends with a date between them are in order. -/
theorem not_before_of_between (inside : between start stop j = true) : stop.before start = false := by
  simp only [between_iff, not_before_iff] at inside ⊢
  omega

theorem between_ends (order : stop.before start = false) :
    between start stop start = true ∧ between start stop stop = true := by
  have same (i : Instant) : i.before i = false := by simp [not_before_iff]
  exact ⟨between_iff.mpr ⟨same start, order⟩, between_iff.mpr ⟨order, same stop⟩⟩

/-- Two bounds keep a range if each of them keeps its side of it. -/
theorem between_of_keeps (first : Comparison.greaterOrEqual.keeps start low = true)
    (second : Comparison.lessOrEqual.keeps stop high = true) (inside : between start stop j = true) :
    between low high j = true := by
  rw [between, Bool.and_eq_true] at inside ⊢
  exact ⟨Comparison.holds_of_keeps first inside.1, Comparison.holds_of_keeps second inside.2⟩

theorem keeps_of_between (here : between low high start = true) (there : between low high stop = true) :
    Comparison.greaterOrEqual.keeps start low = true ∧ Comparison.lessOrEqual.keeps stop high = true := by
  rw [Comparison.keeps, Comparison.keeps, (between_iff.mp here).1, (between_iff.mp there).2]
  exact ⟨rfl, rfl⟩

end Time.Instant

namespace Predicate

/-! ### Leaves on dates -/

section

variable {type : FeatureType} {a : Attribute} {leaf : Predicate} {j : Instant}
  (asks selects : List Instant → Bool)
  (holds_eq : ∀ id source, holds type id source leaf = asks (a.dates source))
  (selects_eq : ∀ source,
    (compile type leaf).clause.selectsDated a source = selects (a.dates source))

include holds_eq selects_eq

theorem losesNoDate_of_imp (each : ∀ dates, asks dates = true → selects dates = true) :
    leaf.LosesNoDate type a := by
  intro id source _ held
  rw [holds_eq] at held
  rw [selects_eq]
  exact each _ held

/-- A leaf that loses nothing selects each date that it holds of, alone. -/
theorem LosesNoDate.single (kept : leaf.LosesNoDate type a) (stored : a.Stores j)
    (asked : asks [j] = true) : selects [j] = true := by
  obtain ⟨v, read⟩ := stored
  obtain ⟨dates, readable⟩ := a.dates_alone read
  have selected := kept "" _ readable
  rw [holds_eq, selects_eq, dates] at selected
  exact selected asked

end

variable {type : FeatureType} {a : Attribute} {name : String} {relation : Comparison}
  {left right : Operand} {i bound lower upper low high : Instant} {swapped : Bool}

theorem holds_compare_instant (named : type.resolve name = a)
    (paired : pairing? left right = some ⟨name, .instant i, swapped⟩) (id : String) (source : Json) :
    holds type id source (.compare relation left right) =
      (if swapped then relation.mirror else relation).amongDates (a.dates source) i := by
  subst named
  rw [holds_compare id source paired rfl]
  exact Comparison.compareData_instant

theorem compile_compare_instant (named : type.resolve name = a) (flat : a.nested = false)
    (paired : pairing? left right = some ⟨name, .instant i, swapped⟩) :
    compile type (.compare relation left right) =
      { clause := (if swapped then relation.mirror else relation).clause a.field (a.dateValue i) } := by
  simp [compile, compareClause, paired, named, Attribute.clauseValue?, Attribute.enclose_flat flat,
    Compilation.ofExcept]

theorem holds_between_instants (named : type.resolve name = a) (id : String) (source : Json) :
    holds type id source
        (between (.property name) (.literal (.instant lower)) (.literal (.instant upper))) =
      (a.dates source).any (Instant.between lower upper) := by
  have each (v : Json) : ((Datum.order? (some a) (.value v) (.instant lower)).any
        Comparison.greaterOrEqual.holds &&
      (Datum.order? (some a) (.value v) (.instant upper)).any Comparison.lessOrEqual.holds) =
      (a.readDate? v).any (Instant.between lower upper) := by
    rw [a.order?_instant, a.order?_instant]
    cases a.readDate? v <;> rfl
  simp [holds, betweenData, Operand.data, Operand.property?, named, List.any_map, Function.comp_def,
    each, a.any_dates]

theorem compile_between_instants (named : type.resolve name = a) (flat : a.nested = false) :
    compile type (between (.property name) (.literal (.instant lower)) (.literal (.instant upper))) =
      { clause := .range a.field [(.atLeast, a.dateValue lower), (.atMost, a.dateValue upper)] } := by
  simp [compile, betweenClause, named, Attribute.clauseValue?, Attribute.enclose_flat flat,
    Compilation.ofExcept]

theorem selectsDated_between {source : Json} (first : a.bound? lower = some low)
    (second : a.bound? upper = some high) :
    (Clause.range a.field [(.atLeast, a.dateValue lower), (.atMost, a.dateValue upper)]).selectsDated a
        source = (a.dates source).any (Instant.between low high) := by
  have each (v : Json) : ((a.dateOrder? v (a.dateValue lower)).any Limit.atLeast.admits &&
      (a.dateOrder? v (a.dateValue upper)).any Limit.atMost.admits) =
      (a.readDate? v).any (Instant.between low high) := by
    rw [a.dateOrder?_of_read first, a.dateOrder?_of_read second]
    cases a.readDate? v <;> rfl
  simp [each, a.any_dates]

theorem selectsDated_between_unread {source : Json}
    (unread : a.bound? lower = none ∨ a.bound? upper = none) :
    (Clause.range a.field [(.atLeast, a.dateValue lower), (.atMost, a.dateValue upper)]).selectsDated a
        source = false := by
  rcases unread with unread | unread <;> simp [a.dateOrder?_of_unread unread]

/-- A comparison with a date loses no match just when the bound that is read keeps what lies beyond the
date: the date itself or the bound is lost otherwise. -/
theorem losesNoDate_compare_iff (named : type.resolve name = a) (flat : a.nested = false)
    (paired : pairing? left right = some ⟨name, .instant i, swapped⟩)
    (read : a.bound? i = some bound) (stored : a.Stores i) :
    (compare relation left right).LosesNoDate type a ↔
      (if swapped then relation.mirror else relation).keeps i bound = true := by
  have held : ∀ id source, holds type id source (compare relation left right) = _ :=
    holds_compare_instant named paired
  have selected : ∀ source,
      (compile type (compare relation left right)).clause.selectsDated a source =
        (if swapped then relation.mirror else relation).amongDates (a.dates source) bound := by
    intro source
    rw [compile_compare_instant named flat paired]
    exact Comparison.selectsDated_clause read
  constructor
  · intro kept
    have single {j : Instant} (stored : a.Stores j) :=
      LosesNoDate.single (Comparison.amongDates _ · i) (Comparison.amongDates _ · bound) held selected
        kept stored
    simp only [Comparison.amongDates_single] at single
    exact Comparison.keeps_of_holds (single stored) (single ⟨_, read⟩)
  · exact fun keeps => losesNoDate_of_imp (Comparison.amongDates _ · i)
      (Comparison.amongDates _ · bound) held selected fun _ => Comparison.amongDates_of_keeps keeps

theorem losesNoDate_between_iff (named : type.resolve name = a) (flat : a.nested = false)
    (first : a.bound? lower = some low) (second : a.bound? upper = some high)
    (least : a.Stores lower) (greatest : a.Stores upper) :
    (between (.property name) (.literal (.instant lower)) (.literal (.instant upper))).LosesNoDate
        type a ↔
      upper.before lower = true ∨ Comparison.greaterOrEqual.keeps lower low = true ∧
        Comparison.lessOrEqual.keeps upper high = true := by
  have held : ∀ id source, holds type id source
      (between (.property name) (.literal (.instant lower)) (.literal (.instant upper))) = _ :=
    holds_between_instants named
  have selected : ∀ source, (compile type (between (.property name) (.literal (.instant lower))
      (.literal (.instant upper)))).clause.selectsDated a source =
        (a.dates source).any (Instant.between low high) := by
    intro source
    rw [compile_between_instants named flat]
    exact selectsDated_between first second
  constructor
  · intro kept
    -- the two ends are dates of the range, unless it is empty
    cases order : upper.before lower with
    | true => exact .inl rfl
    | false =>
      have single {j : Instant} (stored : a.Stores j) :=
        LosesNoDate.single (List.any · (Instant.between lower upper))
          (List.any · (Instant.between low high)) held selected kept stored
      simp only [List.any_cons, List.any_nil, Bool.or_false] at single
      obtain ⟨here, there⟩ := Instant.between_ends order
      exact .inr (Instant.keeps_of_between (single least here) (single greatest there))
  · intro kept
    refine losesNoDate_of_imp (List.any · (Instant.between lower upper))
      (List.any · (Instant.between low high)) held selected fun dates found => ?_
    rw [List.any_eq_true] at found ⊢
    refine found.imp fun j listed => ⟨listed.1, ?_⟩
    rcases kept with reversed | ⟨first, second⟩
    · exact absurd reversed (Bool.eq_false_iff.mp (Instant.not_before_of_between listed.2))
    · exact Instant.between_of_keeps first second listed.2

/-- A comparison or a range of dates, on an attribute that is not nested, compiles without a note. It loses
no match just when the bounds that are read keep what lies beyond the dates: a bound from below has to be
read as no later instant, a bound from above as no earlier one, and for equality as the same. Where a
bound is not read at all, the clause selects nothing, and everything for inequality. -/
theorem date_bounds (type : FeatureType) (name : String) (a : Attribute)
    (named : type.resolve name = a) (flat : a.nested = false) :
    (∀ (relation : Comparison) (left right : Operand) (i : Instant) (swapped : Bool),
      pairing? left right = some ⟨name, .instant i, swapped⟩ →
      (compile type (.compare relation left right)).exact = true ∧
      (∀ bound, a.bound? i = some bound → a.Stores i →
        ((compare relation left right).LosesNoDate type a ↔
          (if swapped then relation.mirror else relation).keeps i bound = true)) ∧
      (a.bound? i = none → ∀ source,
        (compile type (.compare relation left right)).clause.selectsDated a source =
          decide (relation = .unequal)) ∧
      ∀ reads, (Rules.dated a).ReadBy reads → ∀ id source,
        reads (compile type (.compare relation left right)).clause.document id source =
          (compile type (.compare relation left right)).clause.selectsDated a source) ∧
    (∀ lower upper : Instant,
      let leaf := between (.property name) (.literal (.instant lower)) (.literal (.instant upper))
      (compile type leaf).exact = true ∧
      (∀ low high, a.bound? lower = some low → a.bound? upper = some high →
        a.Stores lower → a.Stores upper →
        (leaf.LosesNoDate type a ↔ upper.before lower = true ∨
          Comparison.greaterOrEqual.keeps lower low = true ∧
            Comparison.lessOrEqual.keeps upper high = true)) ∧
      (a.bound? lower = none ∨ a.bound? upper = none → ∀ source,
        (compile type leaf).clause.selectsDated a source = false) ∧
      ∀ reads, (Rules.dated a).ReadBy reads → ∀ id source,
        reads (compile type leaf).clause.document id source =
          (compile type leaf).clause.selectsDated a source) := by
  constructor
  · intro relation left right i swapped paired
    have compiled : compile type (.compare relation left right) = _ :=
      compile_compare_instant named flat paired
    refine ⟨by rw [compiled]; rfl, ?_, ?_, fun reads reading => reads_comparison reading rfl⟩
    · exact fun bound read stored => losesNoDate_compare_iff named flat paired read stored
    · intro unread source
      rw [compiled, Comparison.selectsDated_clause_unread unread]
      cases swapped <;> simp
  · intro lower upper leaf
    have compiled : compile type leaf = _ := compile_between_instants named flat
    refine ⟨by rw [compiled]; rfl, ?_, ?_, fun reads reading => reads_comparison reading rfl⟩
    · exact fun low high first second least greatest =>
        losesNoDate_between_iff named flat first second least greatest
    · intro unread source
      rw [compiled]
      exact selectsDated_between_unread unread

def logs : FeatureType where
  name := "logs"
  attributes := [{ name := "day", binding := .date, dateFormat := some "%Y/%m/%d" }]

/-- Noon of the fifth of January 2020, and the midnight before. -/
def noon : Instant := ⟨1578225600, 0⟩

def midnight : Instant := ⟨1578182400, 0⟩

/-- A literal-first bound from below, and a range that ends at noon. -/
theorem date_bounds_of_days :
    let day := logs.resolve "day"
    let range := between (.property "day") (.literal (.instant midnight)) (.literal (.instant noon))
    day.nested = false ∧ day.bound? noon = some midnight ∧ day.Stores noon ∧
      (compare .lessOrEqual (.literal (.instant noon)) (.property "day")).LosesNoDate logs day ∧
      ¬ range.LosesNoDate logs day := by
  intro day range
  have flat : day.nested = false := rfl
  have read : day.bound? noon = some midnight := by decide
  have read' : day.bound? midnight = some midnight := by decide
  have stored : day.Stores noon := ⟨.string "2020-01-05T12:00:00Z", by decide⟩
  have stored' : day.Stores midnight := ⟨.string "2020/01/05", by decide⟩
  obtain ⟨comparisons, ranges⟩ := date_bounds logs "day" day rfl flat
  obtain ⟨-, least, -⟩ := comparisons .lessOrEqual (.literal (.instant noon)) (.property "day") noon true
    rfl
  obtain ⟨-, both, -, -⟩ := ranges midnight noon
  refine ⟨flat, read, stored, (least midnight read stored).mpr (by decide), ?_⟩
  rw [both midnight midnight read' read stored' stored]
  decide

/-- A day that began before noon is found to be no earlier than noon, which is written as that day. -/
theorem day_before_noon_is_lost :
    ¬ ∀ (type : FeatureType) (name : String) (relation : Comparison) (left right : Operand)
        (i : Instant) (swapped : Bool),
      (type.resolve name).nested = false → (type.resolve name).dateFormat.isSome = true →
      pairing? left right = some ⟨name, .instant i, swapped⟩ →
      (compile type (.compare relation left right)).exact = true →
      (compare relation left right).LosesNoDate type (type.resolve name) := by
  intro keep
  have kept := keep logs "day" .less (.property "day") (.literal (.instant noon)) noon false
    rfl rfl rfl rfl
  have selected := kept "1" (.object [("day", .string "2020/01/05")]) (by decide)
    (by decide)
  exact absurd selected (by decide)

end Predicate

end GeoSearch

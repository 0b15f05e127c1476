import GeoSearch.Proofs.Query.Comparison
import GeoSearch.Proofs.Query.Document
/-!
Compiled queries lose no document. The document of a query without notes selects exactly what its
predicate holds of; one with notes selects more, never less. Both facts go up a tree together: the
opposite of a query that selects more would select less, so a negation needs its child to be exact.
-/
namespace GeoSearch

/-- A compilation keeps a document of which its predicate holds, and decides every document if it is
exact. -/
structure Compilation.Sound (r : Reading) (id : String) (source : Json) (c : Compilation)
    (answer : Bool) : Prop where
  keeps : answer = true → c.clause.selects r id source = true
  decides : c.exact = true → c.clause.selects r id source = answer

namespace Compilation.Sound

variable {r : Reading} {id : String} {source : Json}

theorem of_eq {c : Compilation} {answer : Bool} (same : c.clause.selects r id source = answer) :
    c.Sound r id source answer :=
  ⟨fun holds => same.trans holds, fun _ => same⟩

theorem of_note (note : Note) (answer : Bool) :
    (Compilation.ofExcept (.error note)).Sound r id source answer :=
  ⟨fun _ => by simp [ofExcept], fun exact => by simp [ofExcept, Compilation.exact] at exact⟩

/-- A leaf without a clause selects everything; one with a clause has to decide. -/
theorem of_except {e : Except Note Clause} {answer : Bool}
    (agrees : ∀ clause, e = .ok clause → clause.selects r id source = answer) :
    (Compilation.ofExcept e).Sound r id source answer := by
  cases e with
  | error note => exact of_note note answer
  | ok clause => exact of_eq (agrees clause rfl)

theorem negate {c : Compilation} {answer : Bool} (sound : c.Sound r id source answer) :
    c.negate.Sound r id source (!answer) := by
  cases exact : c.exact with
  | true => exact of_eq (by simp [Compilation.negate, exact, sound.decides exact])
  | false =>
    constructor
    · intro _
      simp [Compilation.negate, exact]
    · intro exact'
      have : c.exact = true := exact'
      simp [exact] at this

variable {children : List Predicate} {parts : Predicate → Compilation} {answers : Predicate → Bool}

/-- The notes of all children are the notes of their combination, so that an exact combination has
exact children, and these decide. -/
theorem decide_all {clause : Clause}
    (sound : ∀ child ∈ children, (parts child).Sound r id source (answers child))
    (exact : Compilation.exact { clause, notes := children.flatMap fun c => (parts c).notes } = true) :
    (children.map fun c => (parts c).clause.selects r id source) = children.map answers := by
  have each : ∀ child ∈ children, (parts child).exact = true := by
    simpa [Compilation.exact] using exact
  exact List.map_congr_left fun child member => (sound child member).decides (each child member)

theorem must (sound : ∀ child ∈ children, (parts child).Sound r id source (answers child)) :
    Compilation.Sound r id source
      { clause := .must (children.map fun c => (parts c).clause)
        notes := children.flatMap fun c => (parts c).notes } (children.all answers) := by
  constructor
  · intro holds
    rw [List.all_eq_true] at holds
    simpa using fun child member => (sound child member).keeps (holds child member)
  · intro exact
    have same := congrArg (fun given : List Bool => given.all fun a => a) (decide_all sound exact)
    simpa [List.all_map, Function.comp_def] using same

theorem should (sound : ∀ child ∈ children, (parts child).Sound r id source (answers child)) :
    Compilation.Sound r id source
      { clause := .should (children.map fun c => (parts c).clause)
        notes := children.flatMap fun c => (parts c).notes } (children.any answers) := by
  constructor
  · intro holds
    obtain ⟨child, member, holds⟩ := List.any_eq_true.mp holds
    simpa using ⟨child, member, (sound child member).keeps holds⟩
  · intro exact
    have same := congrArg (fun given : List Bool => given.any fun a => a) (decide_all sound exact)
    simpa [List.any_map, Function.comp_def] using same

end Compilation.Sound

namespace Predicate

def comparesScalars : Predicate → Bool
  | .compare _ left right => left.isScalar && right.isScalar
  | .between operand lower upper => operand.isScalar && lower.isScalar && upper.isScalar
  | _ => false

def isNullCheck : Predicate → Bool
  | .isNull _ => true
  | _ => false

/-- What a leaf has to be for its tree to lose no document: a test that is known to mean the same in
its clause, a leaf without a clause, or one whose clause happens to agree on the document. -/
inductive Faithful (reads : Json → String → Json → Bool) (type : FeatureType) (id : String)
    (source : Json) (leaf : Predicate) : Prop where
  | scalars (compares : leaf.comparesScalars = true)
  | nullCheck (check : leaf.isNullCheck = true)
  | noted (unsupported : (leaf.compile type).exact = false)
  | agreeing
      (agrees : reads (leaf.compile type).clause.document id source = leaf.holds type id source)

variable {r : Reading} {type : FeatureType} {id : String} {source : Json}

theorem sound_of_comparesScalars {leaf : Predicate} (compares : leaf.comparesScalars = true) :
    (leaf.compile type).Sound r id source (leaf.holds type id source) := by
  cases leaf with
  | compare relation left right =>
    obtain ⟨leftScalar, rightScalar⟩ := Bool.and_eq_true_iff.mp compares
    simp only [compile]
    exact .of_except fun clause => selects_compareClause r id source leftScalar rightScalar
  | between operand lower upper =>
    obtain ⟨scalars, upperScalar⟩ := Bool.and_eq_true_iff.mp compares
    obtain ⟨-, lowerScalar⟩ := Bool.and_eq_true_iff.mp scalars
    simp only [compile]
    exact .of_except fun clause => selects_betweenClause r id source lowerScalar upperScalar
  | _ => cases compares

theorem sound_of_isNullCheck {leaf : Predicate} (check : leaf.isNullCheck = true) :
    (leaf.compile type).Sound r id source (leaf.holds type id source) := by
  cases leaf with
  | isNull operand =>
    simp only [compile]
    exact .of_except fun clause => selects_isNullClause r id source
  | _ => cases check

/-- A leaf that leaves a note selects everything. -/
theorem selects_of_noted {leaf : Predicate} (isLeaf : leaf.isLeaf = true)
    (noted : (leaf.compile type).exact = false) :
    (leaf.compile type).clause = .matchAll := by
  have of_except (e : Except Note Clause) (noted : (Compilation.ofExcept e).exact = false) :
      (Compilation.ofExcept e).clause = .matchAll := by
    cases e with
    | error note => rfl
    | ok clause => cases noted
  cases leaf <;> first | exact absurd isLeaf Bool.false_ne_true | skip
  case ids => simp [compile, Compilation.exact] at noted
  all_goals
    simp only [compile] at noted ⊢
    exact of_except _ noted

section

variable {reads : Json → String → Json → Bool} (reading : Rules.plain.ReadBy reads)

include reading

theorem sound_of_faithful {leaf : Predicate} (isLeaf : leaf.isLeaf = true)
    (faithful : leaf.Faithful reads type id source) :
    (leaf.compile type).Sound (.ofDocuments reads id) id source (leaf.holds type id source) := by
  cases faithful with
  | scalars compares => exact sound_of_comparesScalars compares
  | nullCheck check => exact sound_of_isNullCheck check
  | noted unsupported =>
    constructor
    · intro _
      rw [selects_of_noted isLeaf unsupported]
      exact Clause.selects_matchAll _ id source
    · intro exact
      rw [exact] at unsupported
      cases unsupported
  | agreeing agrees => exact .of_eq ((reads_compile reading leaf id source).symm.trans agrees)

/-- Soundness goes up the tree. The rewritten negation of a null check needs no note to be counted:
existence decides by itself. -/
theorem compile_sound (p : Predicate) :
    (∀ leaf ∈ p.leaves, leaf.Faithful reads type id source) →
      (p.compile type).Sound (.ofDocuments reads id) id source (p.holds type id source) := by
  induction p using tree_induction with
  | everything => exact fun _ => .of_eq (by simp [compile, holds])
  | nothing => exact fun _ => .of_eq (by simp [compile, holds, Clause.matchNone])
  | and children ih =>
    intro faithful
    rw [compile_and, holds_and]
    refine .must fun child member => ih child member fun leaf inside => faithful leaf ?_
    simpa [leaves, allLeaves_eq_flatMap] using ⟨child, member, inside⟩
  | or children ih =>
    intro faithful
    rw [compile_or, holds_or]
    refine .should fun child member => ih child member fun leaf inside => faithful leaf ?_
    simpa [leaves, allLeaves_eq_flatMap] using ⟨child, member, inside⟩
  | not child ih =>
    intro faithful
    rw [holds_not]
    rcases compile_not type child with ⟨name, rfl, rewritten⟩ | negated
    · rw [rewritten]
      exact .of_eq (by simp [presentClause, holds])
    · rw [negated]
      exact (ih fun leaf inside => faithful leaf (by simpa [leaves] using inside)).negate
  | leaf p isLeaf =>
    intro faithful
    exact sound_of_faithful reading isLeaf (faithful p (by simp [leaves_of_isLeaf isLeaf]))

end

theorem exact_children {children : List Predicate}
    (each : ∀ child ∈ children, (child.compile type).exact = true ↔
      ∀ leaf ∈ child.leaves, (leaf.compile type).exact = true) :
    (children.flatMap fun c => (c.compile type).notes).isEmpty = true ↔
      ∀ leaf ∈ allLeaves children, (leaf.compile type).exact = true := by
  have parts : (children.flatMap fun c => (c.compile type).notes).isEmpty = true ↔
      ∀ child ∈ children, (child.compile type).exact = true := by
    simp [Compilation.exact]
  rw [parts, forall₂_congr each]
  simp only [allLeaves_eq_flatMap, List.mem_flatMap]
  constructor
  · rintro all leaf ⟨child, member, inside⟩
    exact all child member leaf inside
  · intro all child member leaf inside
    exact all leaf ⟨child, member, inside⟩

/-- No note of a leaf is lost on the way up, and none is added. -/
theorem exact_iff_leaves (tree : Predicate) :
    (tree.compile type).exact = true ↔ ∀ leaf ∈ tree.leaves, (leaf.compile type).exact = true := by
  induction tree using tree_induction with
  | everything => simp [compile, Compilation.exact, leaves]
  | nothing => simp [compile, Compilation.exact, leaves]
  | and children ih =>
    rw [compile_and]
    exact exact_children ih
  | or children ih =>
    rw [compile_or]
    exact exact_children ih
  | not child ih =>
    rcases compile_not type child with ⟨name, rfl, -⟩ | negated
    · simp [Compilation.exact, leaves, compile, isNullClause, Compilation.ofExcept]
    · rw [negated]
      exact ih
  | leaf p isLeaf => simp [leaves_of_isLeaf isLeaf]

end Predicate

namespace Filter

/-- A query that is not sent alone is as exact as the query of its predicate. -/
theorem exact_of_compile {type : FeatureType} {p : Predicate} {native : NativeQuery} {f : Filter}
    (compiled : compile type p native = .ok f) (beside : f.exclusive = false) :
    f.exact = (p.compile type).exact := by
  obtain ⟨parsed, -, rfl⟩ := ofParsed_of_compile compiled
  replace beside : parsed.exclusive = false := beside
  simp [Filter.exact, Compilation.exact, ofParsed, beside]

end Filter

end GeoSearch

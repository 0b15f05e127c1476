import GeoSearch.Predicate.Evaluation
import GeoSearch.Query.Compile
/-!
Identifier sets. A clause sends each identifier without the name of its type; the predicate takes an
identifier as it stands and without the name. The two part where an identifier is itself written with
the name of the type, and where the type has no name.
-/
namespace GeoSearch

namespace FeatureType

variable {type : FeatureType} {id listed : String} {identifiers : List String}

def qualified (type : FeatureType) (id : String) : String := type.name ++ "." ++ id

theorem after?_name {rest : List Char} :
    Text.after? (type.name ++ ".").toList listed.toList = some rest ↔
      listed = type.qualified (String.ofList rest) := by
  rw [Text.after?_eq_some_iff, ← String.toList_inj, qualified]
  simp

/-- The predicate takes an identifier that is listed, plainly or qualified. -/
theorem lists_iff : type.lists identifiers id = true ↔
    id ∈ identifiers ∨ type.qualified id ∈ identifiers := by
  have each (listed : String) : (listed == id ||
      Text.after? (type.name ++ ".").toList listed.toList == some id.toList) = true ↔
        listed = id ∨ listed = type.qualified id := by
    rw [Bool.or_eq_true, beq_iff_eq, beq_iff_eq, after?_name, String.ofList_toList]
  simp only [lists, List.any_eq_true, each]
  constructor
  · rintro ⟨listed, member, rfl | rfl⟩
    · exact .inl member
    · exact .inr member
  · rintro (member | member)
    · exact ⟨_, member, .inl rfl⟩
    · exact ⟨_, member, .inr rfl⟩

theorem qualified_injective (type : FeatureType) : Function.Injective type.qualified := by
  intro id other same
  simpa [qualified, ← String.toList_inj] using same

theorem plainIdentifier_of_unnamed (unnamed : type.name = "") : type.plainIdentifier id = id := by
  simp [plainIdentifier, unnamed]

/-- What is sent as an identifier is that identifier qualified, or itself if it is not qualified. -/
theorem plainIdentifier_eq_iff (named : type.name ≠ "") : type.plainIdentifier listed = id ↔
    listed = type.qualified id ∨ listed = id ∧ ∀ rest, id ≠ type.qualified rest := by
  have given : type.name.isEmpty = false := by simpa using named
  unfold plainIdentifier
  rw [given, if_neg Bool.false_ne_true]
  cases shortened : Text.after? (type.name ++ ".").toList listed.toList with
  | some rest =>
    obtain rfl := after?_name.mp shortened
    constructor
    · rintro rfl
      exact .inl rfl
    · rintro (same | ⟨rfl, plain⟩)
      · exact qualified_injective type same
      · exact absurd rfl (plain _)
  | none =>
    have plain (rest : String) : listed ≠ type.qualified rest := by
      intro same
      have found := after?_name.mpr (same.trans (congrArg _ (String.ofList_toList (s := rest)).symm))
      rw [found] at shortened
      cases shortened
    constructor
    · rintro rfl
      exact .inr ⟨rfl, plain⟩
    · rintro (same | ⟨same, -⟩)
      · exact absurd same (plain id)
      · exact same

/-- The identifiers that are sent for a set. -/
theorem mem_sent : id ∈ Text.sortedSet (identifiers.map type.plainIdentifier) ↔
    ∃ listed ∈ identifiers, type.plainIdentifier listed = id := by
  rw [Text.mem_sortedSet, List.mem_map]

theorem mem_sent_of_unnamed (unnamed : type.name = "") :
    id ∈ Text.sortedSet (identifiers.map type.plainIdentifier) ↔ id ∈ identifiers := by
  simp [mem_sent, plainIdentifier_of_unnamed unnamed]

theorem mem_sent_of_named (named : type.name ≠ "") :
    id ∈ Text.sortedSet (identifiers.map type.plainIdentifier) ↔
      type.qualified id ∈ identifiers ∨ id ∈ identifiers ∧ ∀ rest, id ≠ type.qualified rest := by
  simp only [mem_sent, plainIdentifier_eq_iff named]
  constructor
  · rintro ⟨listed, member, rfl | ⟨rfl, plain⟩⟩
    · exact .inl member
    · exact .inr ⟨member, plain⟩
  · rintro (member | ⟨member, plain⟩)
    · exact ⟨_, member, .inl rfl⟩
    · exact ⟨_, member, .inr ⟨rfl, plain⟩⟩

end FeatureType

namespace Predicate

open Text (sortedSet)

/-- A set of identifiers is sent without a note. The predicate takes all that are sent, and besides a
listed identifier that is itself qualified, and where the type has no name one that is listed behind a
dot. It takes no others. -/
theorem ids_sent (type : FeatureType) (identifiers : List String) (id : String) (source : Json) :
    compile type (.ids identifiers) =
      { clause := .ids (sortedSet (identifiers.map type.plainIdentifier)) } ∧
    (holds type id source (.ids identifiers) = true ↔
      id ∈ sortedSet (identifiers.map type.plainIdentifier) ∨
      (type.name ≠ "" ∧ id ∈ identifiers ∧ ∃ rest, id = type.qualified rest) ∨
      (type.name = "" ∧ "." ++ id ∈ identifiers)) ∧
    (type.name ≠ "" → (∀ rest, id ≠ type.qualified rest) →
      (id ∈ sortedSet (identifiers.map type.plainIdentifier) ↔
        holds type id source (.ids identifiers) = true)) ∧
    (type.name = "" → "." ++ id ∉ identifiers →
      (id ∈ sortedSet (identifiers.map type.plainIdentifier) ↔
        holds type id source (.ids identifiers) = true)) := by
  have taken : holds type id source (.ids identifiers) = true ↔
      id ∈ identifiers ∨ type.qualified id ∈ identifiers := by
    rw [holds]
    exact FeatureType.lists_iff
  have answer : holds type id source (.ids identifiers) = true ↔
      id ∈ sortedSet (identifiers.map type.plainIdentifier) ∨
      (type.name ≠ "" ∧ id ∈ identifiers ∧ ∃ rest, id = type.qualified rest) ∨
      (type.name = "" ∧ "." ++ id ∈ identifiers) := by
    by_cases named : type.name = ""
    · have dotted : type.qualified id = "." ++ id := by simp [FeatureType.qualified, named]
      rw [taken, FeatureType.mem_sent_of_unnamed named, dotted]
      simp [named]
    · rw [taken, FeatureType.mem_sent_of_named named]
      by_cases qualified : ∃ rest, id = type.qualified rest
      · have other : ¬ ∀ rest, id ≠ type.qualified rest := fun plain => qualified.elim plain
        simp only [ne_eq, named, not_false_eq_true, true_and, qualified, and_true, other, and_false,
          or_false, false_and]
        exact or_comm
      · simp [named, not_exists.mp qualified, or_comm]
  refine ⟨by rw [compile], answer, fun named plain => ?_, fun unnamed absent => ?_⟩
  · rw [answer]
    simp [named, plain]
  · rw [answer]
    simp [unnamed, absent]

/-- A plain identifier and a qualified one. -/
theorem ids_sent_of_places :
    let type : FeatureType := { name := "places" }
    (∀ rest, "3" ≠ type.qualified rest) ∧
      ("3" ∈ sortedSet (["places.3", "5", "99"].map type.plainIdentifier) ↔
        holds type "3" .null (.ids ["places.3", "5", "99"]) = true) := by
  intro type
  have plain (rest : String) : "3" ≠ type.qualified rest := by
    intro same
    have letters := congrArg String.toList same
    simp [FeatureType.qualified, type] at letters
  exact ⟨plain, (ids_sent type ["places.3", "5", "99"] "3" .null).2.2.1 (by decide) plain⟩

/-- Where the type has no name, an identifier that is listed behind a dot is taken and not sent. -/
theorem dotted_identifier_is_not_sent :
    ¬ ∀ (type : FeatureType) (identifiers sent : List String) (id : String) (source : Json),
      compile type (.ids identifiers) = { clause := .ids sent } →
      (id ∈ sent ↔ holds type id source (.ids identifiers) = true) := by
  intro agree
  let type : FeatureType := {}
  have sent : "7" ∈ sortedSet ([".7"].map type.plainIdentifier) :=
    (agree type [".7"] _ "7" .null (by rw [compile])).mpr (by decide +kernel)
  have listed : "7" ∈ [".7"] := (FeatureType.mem_sent_of_unnamed rfl).mp sent
  exact absurd listed (by decide)

end Predicate

end GeoSearch

import GeoSearch.Proofs.Predicate.Like
import GeoSearch.Query.Compile
import GeoSearch.Query.Values
import GeoSearch.Predicate.Evaluation
/-!
Patterns on keyword fields. The expression that a pattern is sent as accepts what the pattern matches
where case counts, and is held against stored texts alone; the predicate also leaves case aside where
its pattern does, and matches numbers and truth values by their text.
-/
namespace GeoSearch

namespace Regexp

variable {rest text : List Char} {c : Char}

theorem accepts_nil : Accepts [] text ↔ text = [] := by
  constructor
  · rintro ⟨⟩
    rfl
  · rintro rfl
    exact .nil

theorem accepts_escaped :
    Accepts ('\\' :: c :: rest) text ↔ ∃ later, text = c :: later ∧ Accepts rest later := by
  constructor
  · intro accepted
    cases accepted with
    | escaped _ accepted => exact ⟨_, rfl, accepted⟩
    | plain _ plain _ => exact absurd (by decide) plain
  · rintro ⟨later, rfl, accepted⟩
    exact .escaped c accepted

theorem accepts_anyRun : Accepts ('.' :: '*' :: rest) text ↔
    ∃ run later, text = run ++ later ∧ Accepts rest later := by
  constructor
  · intro accepted
    cases accepted with
    | anyRun run accepted => exact ⟨run, _, rfl, accepted⟩
    | any _ other _ => exact absurd rfl other
    | plain _ plain _ => exact absurd (by decide) plain
  · rintro ⟨run, later, rfl, accepted⟩
    exact .anyRun run accepted

theorem accepts_any (other : rest.head? ≠ some '*') :
    Accepts ('.' :: rest) text ↔ ∃ d later, text = d :: later ∧ Accepts rest later := by
  constructor
  · intro accepted
    cases accepted with
    | anyRun => exact absurd rfl other
    | any d _ accepted => exact ⟨d, _, rfl, accepted⟩
    | plain _ plain _ => exact absurd (by decide) plain
  · rintro ⟨d, later, rfl, accepted⟩
    exact .any d other accepted

theorem accepts_plain (plain : c ∉ operators) :
    Accepts (c :: rest) text ↔ ∃ later, text = c :: later ∧ Accepts rest later := by
  constructor
  · intro accepted
    cases accepted with
    | escaped => exact absurd (by decide) plain
    | anyRun => exact absurd (by decide) plain
    | any => exact absurd (by decide) plain
    | plain _ _ accepted => exact ⟨_, rfl, accepted⟩
  · rintro ⟨later, rfl, accepted⟩
    exact .plain c plain accepted

end Regexp

namespace Like

variable {rest : List Token}

/-- An expression accepts the texts that its pattern splits where case counts. -/
theorem accepts_regexp_chars (tokens : List Token) (text : List Char) :
    Regexp.Accepts (regexp.chars tokens) text ↔ Splits true tokens text := by
  induction tokens generalizing text with
  | nil => exact Regexp.accepts_nil.trans splits_nil.symm
  | cons token rest ih =>
    rw [chars_cons]
    cases token with
    | anyRun =>
      rw [splits_anyRun]
      exact Regexp.accepts_anyRun.trans (by simp [ih])
    | single =>
      rw [splits_single]
      exact (Regexp.accepts_any (head?_chars (by decide) rfl rfl rest)).trans (by simp [ih])
    | char c =>
      have alike : Splits true (.char c :: rest) text ↔
          ∃ later, text = c :: later ∧ Regexp.Accepts (regexp.chars rest) later := by
        simp [splits_char, Text.sameChar, ih, and_left_comm]
      rw [alike, Dialect.token]
      split
      · exact Regexp.accepts_escaped
      · next plain => exact Regexp.accepts_plain (plain ∘ List.contains_iff_mem.mpr)

theorem accepts_render (w : Wildcards) (pattern text : String) :
    Regexp.Accepts (regexp.render w pattern).toList text.toList ↔
      Splits true (tokens w pattern) text.toList := by
  rw [Dialect.render, String.toList_ofList, accepts_regexp_chars]

end Like

namespace Predicate

variable {type : FeatureType} {name pattern : String} {w : Wildcards} {id : String} {source : Json}

/-- One of the values of the field has a text that the pattern matches. -/
theorem holds_like : holds type id source (.like (.property name) pattern w) = true ↔
    ∃ v ∈ Document.lookup source (type.resolve name).field, ∃ text,
      Datum.text? (.value v) = some text ∧ Like.matchesText w pattern text = true := by
  simp [holds, Operand.data, Option.any_eq_true]

/-- What an expression finds, its pattern matches with or without case. -/
theorem holds_like_of_finds
    (found : Regexp.Finds source (type.resolve name).field (Like.regexp.render w pattern)) :
    holds type id source (.like (.property name) pattern w) = true := by
  obtain ⟨text, stored, accepted⟩ := found
  have split := (Like.accepts_render w pattern text).mp accepted
  exact holds_like.mpr ⟨_, stored, text, rfl, Like.matchesText_iff.mpr (split.anyCase w.matchCase)⟩

/-- Where case counts, a text that its pattern matches is found by the expression. -/
theorem finds_of_matchesText {text : String} (exactly : w.matchCase = true)
    (stored : .string text ∈ Document.lookup source (type.resolve name).field)
    (matched : Like.matchesText w pattern text = true) :
    Regexp.Finds source (type.resolve name).field (Like.regexp.render w pattern) :=
  ⟨text, stored, (Like.accepts_render w pattern text).mpr (exactly ▸ Like.matchesText_iff.mp matched)⟩

/-- A pattern on a keyword field is sent as an expression, without a note. The predicate holds of all
that the expression finds, and besides of values that only a pattern without case matches and of
numbers and truth values. Without these two kinds of values it holds of nothing else. -/
theorem like_keyword (type : FeatureType) (name pattern : String) (w : Wildcards) (id : String)
    (source : Json) (keyword : (type.resolve name).analyzed = false)
    (flat : (type.resolve name).nested = false) :
    compile type (.like (.property name) pattern w) =
      { clause := .regexp (type.resolve name).field (Like.regexp.render w pattern) } ∧
    (holds type id source (.like (.property name) pattern w) = true ↔
      Regexp.Finds source (type.resolve name).field (Like.regexp.render w pattern) ∨
      ∃ v ∈ Document.lookup source (type.resolve name).field, ∃ text,
        Datum.text? (.value v) = some text ∧ Like.matchesText w pattern text = true ∧
          (w.matchCase = false ∨ v ≠ .string text)) ∧
    (w.matchCase = true →
      (∀ v ∈ Document.lookup source (type.resolve name).field, ∀ text,
        Datum.text? (.value v) = some text → v = .string text) →
      (Regexp.Finds source (type.resolve name).field (Like.regexp.render w pattern) ↔
        holds type id source (.like (.property name) pattern w) = true)) := by
  have sent : compile type (.like (.property name) pattern w) =
      { clause := .regexp (type.resolve name).field (Like.regexp.render w pattern) } := by
    simp [compile, likeClause, keyword, Attribute.enclose_flat flat, Compilation.ofExcept]
  have answer : holds type id source (.like (.property name) pattern w) = true ↔
      Regexp.Finds source (type.resolve name).field (Like.regexp.render w pattern) ∨
      ∃ v ∈ Document.lookup source (type.resolve name).field, ∃ text,
        Datum.text? (.value v) = some text ∧ Like.matchesText w pattern text = true ∧
          (w.matchCase = false ∨ v ≠ .string text) := by
    constructor
    · intro holds
      obtain ⟨v, stored, text, shown, matched⟩ := holds_like.mp holds
      by_cases overlooked : w.matchCase = false ∨ v ≠ .string text
      · exact .inr ⟨v, stored, text, shown, matched, overlooked⟩
      · obtain ⟨exactly, same⟩ := not_or.mp overlooked
        obtain rfl := Classical.not_not.mp same
        exact .inl (finds_of_matchesText (eq_true_of_ne_false exactly) stored matched)
    · rintro (found | ⟨v, stored, text, shown, matched, -⟩)
      · exact holds_like_of_finds found
      · exact holds_like.mpr ⟨v, stored, text, shown, matched⟩
  refine ⟨sent, answer, fun exactly texts => ⟨holds_like_of_finds, fun holds => ?_⟩⟩
  rcases answer.mp holds with found | ⟨v, stored, text, shown, -, folded | other⟩
  · exact found
  · rw [exactly] at folded
    cases folded
  · exact absurd (texts v stored text shown) other

/-- A pattern with a single and an operator, on a field with two names. -/
theorem like_keyword_dotted :
    let type : FeatureType := { attributes := [{ name := "name", nativeName := some "names.full" }] }
    let source : Json := .object [("names", .array
      [.object [("full", .string "Olavskirken")], .object [("full", .string "St. Olav")]])]
    (type.resolve "name").analyzed = false ∧ (type.resolve "name").nested = false ∧
      compile type (.like (.property "name") "_t.%v" {}) =
        { clause := .regexp "names.full" (Like.regexp.render {} "_t.%v") } ∧
      Like.regexp.render {} "_t.%v" = ".t\\..*v" ∧
      Regexp.Finds source "names.full" (Like.regexp.render {} "_t.%v") := by
  intro type source
  obtain ⟨sent, -, agree⟩ := like_keyword type "name" "_t.%v" {} "7" source rfl rfl
  have path : Document.segments "names.full" = ["names", "full"] := by decide
  have values : Document.lookup source "names.full" = [.string "Olavskirken", .string "St. Olav"] := by
    simp [Document.lookup, path, Document.lookupFrom, Document.children, Document.itemChildren,
      Json.Members.get?, Document.settled, source]
  have texts : ∀ v ∈ Document.lookup source "names.full", ∀ text,
      Datum.text? (.value v) = some text → v = .string text := by
    simp [values, Datum.text?]
  have matched : Like.matchesText {} "_t.%v" "St. Olav" = true := by decide
  have stored : .string "St. Olav" ∈ Document.lookup source "names.full" := by simp [values]
  have holds : holds type "7" source (.like (.property "name") "_t.%v" {}) = true :=
    holds_like.mpr ⟨_, stored, _, rfl, matched⟩
  exact ⟨rfl, rfl, sent, by decide, (agree rfl texts).mpr holds⟩

/-- A pattern whose case does not count matches a text that its expression does not accept. -/
theorem caseless_pattern_misses_a_text :
    ¬ ∀ (type : FeatureType) (name pattern field expression : String) (w : Wildcards) (id : String)
        (source : Json), (type.resolve name).analyzed = false → (type.resolve name).nested = false →
      compile type (.like (.property name) pattern w) = { clause := .regexp field expression } →
      (Regexp.Finds source field expression ↔
        holds type id source (.like (.property name) pattern w) = true) := by
  intro agree
  have found : Regexp.Finds (.object [("name", .string "ABC")]) "name" (Like.regexp.render {} "ab%") :=
    (agree { name := "roads", attributes := [{ name := "name" }] } "name" "ab%" "name" _
      { matchCase := false } "1" _ rfl rfl rfl).mpr (by decide)
  obtain ⟨text, stored, accepted⟩ := found
  have values : Document.lookup (.object [("name", .string "ABC")]) "name" = [.string "ABC"] := by rfl
  obtain rfl : text = "ABC" := by simpa [values] using stored
  rw [Like.accepts_render, ← Like.matchesTokens_iff] at accepted
  exact absurd accepted (by decide)

end Predicate

end GeoSearch

import GeoSearch.Geometry.Document
import Mathlib.Data.List.TakeWhile
/-!
Texts of positions have a comma, and texts of numbers have none. So what stands in a list for a
longitude or a latitude is no position of its own.
-/
namespace GeoSearch

variable {text rest number : List Char} {x : Float}

theorem Text.mem_dropWhile {p : Char → Bool} {c : Char} (member : c ∈ text) (other : p c = false) :
    c ∈ text.dropWhile p := by
  rw [← text.takeWhile_append_dropWhile (p := p)] at member
  refine (List.mem_append.mp member).resolve_left fun taken => ?_
  exact Bool.false_ne_true (other.symm.trans (List.mem_takeWhile_imp taken))

theorem Text.mem_trimChars {c : Char} (member : c ∈ text) (other : isBlank c = false) :
    c ∈ trimChars text := by
  have front := mem_dropWhile member other
  exact List.mem_reverse.mpr (mem_dropWhile (List.mem_reverse.mpr front) other)

/-! ### Numbers -/

namespace Decimal

theorem exponent?_comma (member : ',' ∈ text) : exponent? text = none := by
  have unread {digits : List Char} (member : ',' ∈ digits) :
      (digits.isEmpty || !digits.all Char.isDigit) = true := by
    have other : digits.all Char.isDigit = false :=
      List.all_eq_false.mpr ⟨',', member, by decide⟩
    rw [other, Bool.not_false, Bool.or_true]
  unfold exponent?
  split
  · next digits => simp [unread (List.mem_of_ne_of_mem (by decide) member)]
  · next digits => simp [unread (List.mem_of_ne_of_mem (by decide) member)]
  · simp [unread member]

theorem decimal?_comma (member : ',' ∈ text) : decimal? text = none := by
  have beyond {text : List Char} (member : ',' ∈ text) : ',' ∈ (splitDigits text).2 :=
    Text.mem_dropWhile member (by decide)
  -- what follows the digits is an exponent, which has no comma either
  have marked {c : Char} {tail : List Char} (member : ',' ∈ c :: tail) (scaled : Int → Float) :
      (if c = 'e' ∨ c = 'E' then (exponent? tail).map scaled else none) = none := by
    refine ite_eq_right_iff.mpr fun mark => ?_
    have other : ',' ≠ c := by rintro rfl; revert mark; decide
    rw [exponent?_comma (List.mem_of_ne_of_mem other member)]
    rfl
  unfold decimal?
  obtain ⟨whole, rest, parts⟩ : ∃ whole rest, splitDigits text = (whole, rest) := ⟨_, _, rfl⟩
  have after := beyond member
  rw [parts] at after ⊢
  dsimp only at after ⊢
  split
  · next fraction =>
    have later := beyond (List.mem_of_ne_of_mem (by decide) after)
    refine ite_eq_left_iff.mpr fun _ => ?_
    split
    · next nothing =>
      rw [nothing] at later
      cases later
    · next more =>
      rw [more] at later
      exact marked later _
  · refine ite_eq_left_iff.mpr fun _ => ?_
    split
    · next nothing =>
      subst (nothing : rest = [])
      cases after
    · next c tail more =>
      subst (more : rest = c :: tail)
      exact marked after _

theorem unsigned?_comma (member : ',' ∈ text) : unsigned? text = none := by
  have word {w : String} (same : String.ofList (text.map Char.toLower) = w) : ',' ∈ w.toList := by
    rw [← same, String.toList_ofList]
    exact List.mem_map.mpr ⟨',', member, by decide⟩
  unfold unsigned?
  split
  · next same => exact absurd (word same) (by decide)
  · next same => exact absurd (word same) (by decide)
  · next same => exact absurd (word same) (by decide)
  · exact decimal?_comma member

theorem read?_comma (member : ',' ∈ text) : read? text = none := by
  unfold read? read
  split
  · exact absurd member List.not_mem_nil
  · next rest => rw [unsigned?_comma (List.mem_of_ne_of_mem (by decide) member)]; rfl
  · next rest => rw [unsigned?_comma (List.mem_of_ne_of_mem (by decide) member)]; rfl
  · rw [unsigned?_comma member]; rfl

end Decimal

/-! ### Positions -/

namespace GeoJson

theorem subset_of_pointNumber? (read : pointNumber? text = some (number, rest)) : rest ⊆ text := by
  have beyond (text : List Char) : (Decimal.splitDigits text).2 ⊆ text :=
    (List.dropWhile_suffix _).subset
  unfold pointNumber? at read
  split at read
  next sign unread same =>
    have within : unread ⊆ text := by
      split at same
      · next tail => exact (Prod.mk.inj same).2 ▸ List.subset_cons_self '-' tail
      · exact (Prod.mk.inj same).2 ▸ List.Subset.refl text
    have after := List.Subset.trans (beyond unread) within
    split at read
    next whole later parts =>
      rw [parts] at after
      split at read
      · next tail =>
        rw [← (Prod.mk.inj (Option.some.inj read)).2]
        exact List.Subset.trans (beyond tail) (List.Subset.trans (List.subset_cons_self '.' tail) after)
      · rw [← (Prod.mk.inj (Option.some.inj read)).2]
        exact after

theorem comma_of_pointText? {s : String} {c : Coord Float} (read : pointText? s = some c) :
    ',' ∈ s.toList := by
  have blanks (text : List Char) : text.dropWhile Text.isBlank ⊆ text :=
    (List.dropWhile_suffix _).subset
  obtain ⟨⟨lat, rest⟩, first, after⟩ := Option.bind_eq_some_iff.mp read
  dsimp only at after
  split at after
  · next tail same =>
    have comma : ',' ∈ rest.dropWhile Text.isBlank := same ▸ List.mem_cons_self
    exact blanks _ (subset_of_pointNumber? first (blanks rest comma))
  · cases after

/-- What is a number in a list is no geometry. -/
theorem read?_number {value : Json} (known : number? value = some x) : read? value = none := by
  unfold number? at known
  split at known
  · rfl
  · next s =>
    refine Option.map_eq_none_iff.mpr (Option.eq_none_iff_forall_ne_some.mpr fun c read => ?_)
    have comma := Text.mem_trimChars (comma_of_pointText? read) (by decide)
    exact absurd ((Decimal.read?_comma comma).symm.trans known) nofun
  · cases known

end GeoJson

end GeoSearch

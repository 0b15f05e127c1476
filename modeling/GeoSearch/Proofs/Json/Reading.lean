import GeoSearch.Proofs.Json.Text
/-!
Texts of documents, read. No text has a control character, so each is one line; and an object of strings
is read back as it was written, where each key stands once.
-/
namespace GeoSearch.Json

open Reader (inNumber isSpace)

/-! ### Control characters -/

theorem visible_of_inNumber {c : Char} (part : inNumber c = true) : 0x20 ≤ c.toNat := by
  simp only [inNumber, Char.isDigit, Bool.or_eq_true, Bool.and_eq_true, decide_eq_true_eq] at part
  rcases part with ((((digit | rfl) | rfl) | rfl) | rfl) | rfl
  · have low : '0'.toNat ≤ c.toNat := digit.1
    exact Nat.le_trans (by decide) low
  all_goals decide

/-- A character that stands for itself inside quotes is no control character. -/
theorem visible_of_escaped {c : Char} (plain : escaped c = [c]) : 0x20 ≤ c.toNat := by
  unfold escaped at plain
  split at plain
  · cases plain
  · split at plain
    · cases plain
    · omega

theorem visible_escaped (c : Char) : ∀ d ∈ escaped c, 0x20 ≤ d.toNat := by
  have digit : ∀ n < 16, 0x20 ≤ (hexDigit n).toNat := by decide
  intro d member
  rcases escaped_cases c with ⟨letter, text, read⟩ | ⟨high, low, text, top, bottom, -⟩ | ⟨text, -⟩
  · simp only [text, List.mem_cons, List.not_mem_nil, or_false] at member
    rcases member with rfl | rfl
    · decide
    · unfold Reader.unescape? at read
      split at read <;> first | decide | cases read
  · simp only [text, List.mem_cons, List.not_mem_nil, or_false] at member
    rcases member with rfl | rfl | rfl | rfl | rfl | rfl
    · decide
    · decide
    · decide
    · decide
    · exact digit high top
    · exact digit low bottom
  · have plain := visible_of_escaped text
    rw [text, List.mem_singleton] at member
    rwa [member]

theorem visible_quoted (s : String) : ∀ c ∈ quoted s, 0x20 ≤ c.toNat := by
  intro c member
  simp only [quoted, List.mem_cons, List.mem_append, List.mem_flatMap, List.not_mem_nil, or_false] at member
  rcases member with rfl | ⟨d, -, member⟩ | rfl
  · decide
  · exact visible_escaped d c member
  · decide

mutual

theorem visible_chars : ∀ (document : Json), ∀ c ∈ chars document, 0x20 ≤ c.toNat
  | .null => by simp [chars]
  | .bool true | .bool false => by simp [chars]
  | .number n => fun c member => visible_of_inNumber (n.inNumber_chars c (by rwa [chars] at member))
  | .string s => by rw [chars]; exact visible_quoted s
  | .array [] | .object [] => by simp [chars]
  | .array (item :: rest) => by
    rw [chars, List.forall_mem_cons, List.forall_mem_append]
    exact ⟨by decide, visible_chars item, visible_itemChars rest⟩
  | .object ((key, value) :: rest) => by
    rw [chars, List.forall_mem_cons, List.forall_mem_append, List.forall_mem_cons, List.forall_mem_append]
    exact ⟨by decide, visible_quoted key, by decide, visible_chars value, visible_memberChars rest⟩

theorem visible_itemChars : ∀ (items : List Json), ∀ c ∈ itemChars items, 0x20 ≤ c.toNat
  | [] => by simp [itemChars]
  | item :: rest => by
    rw [itemChars, List.forall_mem_cons, List.forall_mem_append]
    exact ⟨by decide, visible_chars item, visible_itemChars rest⟩

theorem visible_memberChars : ∀ (members : Members), ∀ c ∈ memberChars members, 0x20 ≤ c.toNat
  | [] => by simp [memberChars]
  | (key, value) :: rest => by
    rw [memberChars, List.forall_mem_cons, List.forall_mem_append, List.forall_mem_cons,
      List.forall_mem_append]
    exact ⟨by decide, visible_quoted key, by decide, visible_chars value, visible_memberChars rest⟩

end

/-! ### Strings -/

namespace Reader

def Reads (r : Reader) (text : List Char) (s : Reader) : Prop := text.foldlM step r = some s

variable {r s t : Reader} {c : Char} {front rest : List Char}

theorem Reads.cons (next : step r c = some s) (further : Reads s rest t) : Reads r (c :: rest) t := by
  rw [Reads, List.foldlM_cons, next]
  exact further

theorem Reads.single (next : step r c = some s) : Reads r [c] s := .cons next rfl

theorem Reads.append (first : Reads r front s) (further : Reads s rest t) : Reads r (front ++ rest) t := by
  rw [Reads, List.foldlM_append, first]
  exact further

variable {forKey mayClose : Bool} {text : List Char} {frames : List Frame} {key value : String}
  {members : Members}

theorem reads_escaped (c : Char) :
    Reads ⟨.quoted forKey .none text, frames⟩ (escaped c) ⟨.quoted forKey .none (c :: text), frames⟩ := by
  rcases escaped_cases c with ⟨letter, form, read⟩ | ⟨high, low, form, top, bottom, code⟩ | ⟨form, slash, quote⟩
  · have other : letter ≠ 'u' := by
      rintro rfl
      cases read
    rw [form]
    simp [Reads, step, quoted?, inQuotes?, other, read]
  · have first := hexValue?_hexDigit high top
    have second := hexValue?_hexDigit low bottom
    have zero : hexValue? '0' = some 0 := by decide
    have unit : unit? none (16 * high + low) = some (.none, [c]) := by
      rw [← code, unit?, if_neg (by omega), if_neg (by omega), Char.ofNat_toNat]
    rw [form]
    simp [Reads, step, quoted?, inQuotes?, first, second, zero, unit]
  · have visible := visible_of_escaped form
    rw [form]
    simp [Reads, step, quoted?, inQuotes?, slash, quote, Nat.not_lt.mpr visible]

theorem reads_flatMap_escaped (characters : List Char) :
    Reads ⟨.quoted forKey .none text, frames⟩ (characters.flatMap escaped)
      ⟨.quoted forKey .none (characters.reverse ++ text), frames⟩ := by
  induction characters generalizing text with
  | nil => rfl
  | cons c rest ih =>
    rw [List.flatMap_cons, List.reverse_cons, List.append_assoc]
    exact (reads_escaped c).append ih

theorem reads_quoted (value : String) :
    Reads ⟨.value mayClose, frames⟩ (quoted value) ⟨.after (.string value), frames⟩ := by
  have opened : step ⟨.value mayClose, frames⟩ '"' = some ⟨.quoted false .none [], frames⟩ := rfl
  have closed : step ⟨.quoted false .none (value.toList.reverse ++ []), frames⟩ '"' =
      some ⟨.after (.string value), frames⟩ := by simp [step, quoted?]
  exact .cons opened ((reads_flatMap_escaped value.toList).append (.single closed))

/-- A key, the colon and a string. -/
theorem reads_member (key value : String) :
    Reads ⟨.key mayClose, .object members :: frames⟩ (quoted key ++ ':' :: quoted value)
      ⟨.after (.string value), .member members key :: frames⟩ := by
  have opened : step ⟨.key mayClose, .object members :: frames⟩ '"' =
      some ⟨.quoted true .none [], .object members :: frames⟩ := rfl
  have closed : step ⟨.quoted true .none (key.toList.reverse ++ []), .object members :: frames⟩ '"' =
      some ⟨.colon key, .object members :: frames⟩ := by simp [step, quoted?]
  have colon : step ⟨.colon key, .object members :: frames⟩ ':' =
      some ⟨.value false, .member members key :: frames⟩ := rfl
  have named : Reads ⟨.key mayClose, .object members :: frames⟩ (quoted key)
      ⟨.colon key, .object members :: frames⟩ :=
    .cons opened ((reads_flatMap_escaped key.toList).append (.single closed))
  exact named.append (.cons colon (reads_quoted value))

end Reader

/-! ### Objects of strings -/

def texts (fields : List (String × String)) : Members := fields.map fun (key, text) => (key, .string text)

theorem texts_append (first rest : List (String × String)) : texts (first ++ rest) = texts first ++ texts rest :=
  List.map_append

theorem keys_texts (fields : List (String × String)) : (texts fields).map Prod.fst = fields.map Prod.fst := by
  simp [texts]

namespace Reader

variable {mayClose : Bool} {frames : List Frame}

/-- The members after the first one are added to those that were read. -/
theorem reads_memberChars (fields : List (String × String)) (members : Members) (key : String) (value : Json) :
    Reads ⟨.after value, .member members key :: frames⟩ (memberChars (texts fields))
      ⟨.after (.object (((key, value) :: members).reverse ++ texts fields)), frames⟩ := by
  induction fields generalizing members key value with
  | nil =>
    have closed : step ⟨.after value, .member members key :: frames⟩ '\x7d' =
        some ⟨.after (.object ((key, value) :: members).reverse), frames⟩ := rfl
    simpa [texts, memberChars] using Reads.single closed
  | cons field fields ih =>
    obtain ⟨next, text⟩ := field
    have comma : step ⟨.after value, .member members key :: frames⟩ ',' =
        some ⟨.key false, .object ((key, value) :: members) :: frames⟩ := rfl
    simpa [texts, memberChars, chars] using Reads.cons comma ((reads_member next text).append (ih _ next _))

theorem reads_texts (fields : List (String × String)) (room : frames.length < depthLimit) :
    Reads ⟨.value mayClose, frames⟩ (chars (.object (texts fields)))
      ⟨.after (.object (texts fields)), frames⟩ := by
  have opened : step ⟨.value mayClose, frames⟩ '\x7b' = some ⟨.key true, .object [] :: frames⟩ := by
    simp [step, beginValue, open?, isSpace, room]
  cases fields with
  | nil =>
    have closed : step ⟨.key true, .object [] :: frames⟩ '\x7d' = some ⟨.after (.object []), frames⟩ := rfl
    rw [texts, List.map_nil, chars]
    exact .cons opened (.single closed)
  | cons field fields =>
    obtain ⟨key, text⟩ := field
    have members := @reads_memberChars frames fields [] key (.string text)
    simpa [texts, chars] using Reads.cons opened ((reads_member key text).append members)

/-- Blanks after a document do not count. -/
theorem reads_blanks (document : Json) {blanks : List Char} (blank : ∀ c ∈ blanks, isSpace c = true) :
    Reads ⟨.after document, frames⟩ blanks ⟨.after document, frames⟩ := by
  induction blanks with
  | nil => rfl
  | cons c rest ih =>
    have stay : step ⟨.after document, frames⟩ c = some ⟨.after document, frames⟩ :=
      if_pos (blank c List.mem_cons_self)
    exact .cons stay (ih fun d member => blank d (List.mem_cons_of_mem c member))

end Reader

theorem Members.put_append_of_notMem {front : Members} {key : String} (absent : key ∉ front.map Prod.fst)
    (rest : Members) (value : Json) :
    Members.put (front ++ rest) key value = front ++ Members.put rest key value := by
  induction front with
  | nil => rfl
  | cons member front ih =>
    obtain ⟨other, old⟩ := member
    rw [List.map_cons, List.mem_cons, not_or] at absent
    rw [List.cons_append, Members.put, if_neg (Ne.symm absent.1), ih absent.2, List.cons_append]

theorem mergedMembers_texts (front : Members) (fields : List (String × String))
    (apart : (front.map Prod.fst ++ fields.map Prod.fst).Nodup) :
    mergedMembers front (texts fields) = front ++ texts fields := by
  induction fields generalizing front with
  | nil => simp [texts, mergedMembers]
  | cons field fields ih =>
    obtain ⟨key, text⟩ := field
    have absent : key ∉ front.map Prod.fst := fun member =>
      (List.nodup_append.mp apart).2.2 key member key List.mem_cons_self rfl
    have put : Members.put front key (.string text) = front ++ [(key, .string text)] := by
      have whole := Members.put_append_of_notMem absent [] (.string text)
      rwa [List.append_nil] at whole
    have further := ih (front ++ [(key, .string text)]) (by simpa using apart)
    simp only [texts, List.map_cons, mergedMembers, merged, put] at further ⊢
    rw [further]
    simp

/-- An object of strings is read back, with blanks after it. -/
theorem parse?_texts {fields : List (String × String)} (distinct : (fields.map Prod.fst).Nodup) {blanks : String}
    (blank : ∀ c ∈ blanks.toList, isSpace c = true) :
    parse? ((object (texts fields)).text ++ blanks) = some (.object (texts fields)) := by
  have spelled : spelled? ((object (texts fields)).text ++ blanks) = some (.object (texts fields)) := by
    have whole : Reader.Reads Reader.start (chars (.object (texts fields)) ++ blanks.toList)
        ⟨.after (.object (texts fields)), []⟩ :=
      (Reader.reads_texts fields (by decide)).append (Reader.reads_blanks _ blank)
    rw [spelled?, String.toList_append, Json.text, String.toList_ofList, whole]
    rfl
  rw [parse?, spelled, Option.map_some, merged, mergedMembers_texts [] fields (by simpa using distinct),
    List.nil_append]

end GeoSearch.Json

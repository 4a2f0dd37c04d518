import JsonShape.Proofs.Projection.Identifiers
import JsonShape.Proofs.Text.IdentifierSpans

/-!
# Identifiers of any names

The identifier of a field is never a bare keyword, but for a name beyond ASCII it need not be an identifier.  Letters
and numbers of all kinds are kept, while an identifier admits decimal digits only, and an underscore is put before a
digit of ASCII only.  So the identifier is one just if the name has no other letters and numbers than those of
identifiers, and the first of them is a digit of ASCII or may begin an identifier (`fieldIdent_form_iff`).
-/

namespace JsonShape

/-- Whether the text begins as identifiers do, possibly by an underscore, and goes on as they do. -/
def hasIdentifierForm : List Char → Bool
  | [] => false
  | c :: rest => (c == '_' || startsIdentifier c) && rest.all continuesIdentifier

theorem hasIdentifierForm_append {text : List Char} (hne : text ≠ []) {more : List Char}
    (hm : more.all continuesIdentifier = true) : hasIdentifierForm (text ++ more) = hasIdentifierForm text := by
  cases text with
  | nil => exact absurd rfl hne
  | cons c rest => rw [List.cons_append, hasIdentifierForm, hasIdentifierForm, List.all_append, hm, Bool.and_true]

/-! ## Joined words -/

theorem all_intercalate {p : Char → Bool} {between : List Char} (hb : between.all p = true)
    (texts : List (List Char)) : (List.intercalate between texts).all p = texts.flatten.all p := by
  induction texts with
  | nil => rfl
  | cons first rest ih =>
    cases rest with
    | nil => rw [List.intercalate_singleton, List.flatten_singleton]
    | cons second others =>
      rw [List.intercalate_cons_cons, List.all_append, List.all_append, hb, Bool.and_true, ih,
        List.flatten_cons (l := first), List.all_append]

theorem head?_intercalate (between : List Char) {texts : List (List Char)} (h : ∀ text ∈ texts, text ≠ []) :
    (List.intercalate between texts).head? = texts.flatten.head? := by
  cases texts with
  | nil => rfl
  | cons first rest =>
    obtain ⟨c, others, rfl⟩ := List.exists_cons_of_ne_nil (h first List.mem_cons_self)
    rw [List.intercalate_cons_cons_left]
    rfl

/-! ## Letters and numbers in lower case -/

theorem all_lowercase (c : Char) : (lowercase c).all continuesIdentifier = continuesIdentifier c := by
  obtain ⟨d, rest, he, hd, hrest⟩ := lowercase_lowersTo c
  rw [he, List.all_cons, List.all_eq_true.mpr hrest, Bool.and_true, hd.continues]

theorem all_flatMap_lowercase (text : List Char) :
    (text.flatMap lowercase).all continuesIdentifier = text.all continuesIdentifier := by
  induction text with
  | nil => rfl
  | cons c rest ih => rw [List.flatMap_cons, List.all_append, all_lowercase, ih, List.all_cons]

theorem not_isDigit_of_lt {c : Char} (h : 0x40 < c.toNat) : c.isDigit = false := by
  have hvalue : c.val.toNat = c.toNat := rfl
  rw [Bool.eq_false_iff]
  intro hd
  simp only [Char.isDigit, Bool.and_eq_true, decide_eq_true_eq, UInt32.le_iff_toNat_le] at hd
  have h9 : '9'.val.toNat = 57 := rfl
  omega

namespace LowersTo

variable {c d : Char} (h : LowersTo c d)
include h

theorem isDigit : d.isDigit = c.isDigit := by
  rcases h.small with rfl | ⟨hc, hd⟩
  · rfl
  · rw [not_isDigit_of_lt hc, not_isDigit_of_lt (by omega)]

theorem ne_underscore (hc : c ≠ '_') : d ≠ '_' := by
  rintro rfl
  rcases h.small with he | ⟨-, hd⟩
  · exact hc he.symm
  · exact absurd hd (by decide)

end LowersTo

theorem ne_underscore_of_isAlphanumeric {c : Char} (h : isAlphanumeric c = true) : c ≠ '_' := by
  rintro rfl
  exact absurd h (by decide)

/-! ## Snake case -/

/-- A name in snake case has the form of an identifier just if the letters and numbers of the name have those of
identifiers, and the first of them is a digit of ASCII or begins identifiers. -/
theorem snakeCase_form_iff (raw : String) : hasIdentifierForm (snakeCase raw).toList = true ↔
    (raw.toList.filter isAlphanumeric).all continuesIdentifier = true ∧
      ∀ c ∈ (raw.toList.filter isAlphanumeric).head?, c.isDigit = true ∨ startsIdentifier c = true := by
  have hflat := flatten_words raw.toList
  have halnum : ∀ c ∈ raw.toList.filter isAlphanumeric, isAlphanumeric c = true := fun c hc => (List.mem_filter.mp hc).2
  have hhead := head?_intercalate ['_'] (ne_nil_of_mem_words raw.toList)
  have hmark : ['_'].all continuesIdentifier = true := by decide
  have hall := all_intercalate hmark (words raw.toList)
  rw [hflat] at hhead
  rw [hflat, all_flatMap_lowercase] at hall
  rw [snakeCase, String.toList_ofList]
  generalize List.intercalate ['_'] (words raw.toList) = joined at hhead hall
  generalize raw.toList.filter isAlphanumeric = letters at hhead hall halnum
  -- a name without letters or numbers becomes a word of its own
  cases letters with
  | nil =>
    rw [List.flatMap_nil, List.head?_nil, List.head?_eq_none_iff] at hhead
    rw [hhead]
    exact iff_of_true (by decide) ⟨rfl, by simp⟩
  | cons c others =>
    obtain ⟨d, more, hlower, hclass, -⟩ := lowercase_lowersTo c
    have hfirst : (List.flatMap lowercase (c :: others)).head? = some d := by rw [List.flatMap_cons, hlower]; rfl
    obtain ⟨rest, rfl⟩ := List.head?_eq_some_iff.mp (hhead.trans hfirst)
    have hne := hclass.ne_underscore (ne_underscore_of_isAlphanumeric (halnum c List.mem_cons_self))
    rw [← hall, List.isEmpty_cons, if_neg (by decide), underscoreDigit, List.head?_cons]
    -- a digit of ASCII in front gets an underscore, and nothing else does
    by_cases hdigit : d.isDigit = true
    · rw [if_pos hdigit, hasIdentifierForm]
      simp [← hclass.isDigit, hdigit]
    · rw [if_neg hdigit, hasIdentifierForm]
      have hc : ¬ c.isDigit = true := hclass.isDigit ▸ hdigit
      rw [beq_eq_false_iff_ne.mpr hne, Bool.false_or, List.all_cons, Bool.and_eq_true, Bool.and_eq_true, hclass.starts,
        hclass.continues]
      constructor
      · rintro ⟨hstarts, hrest⟩
        refine ⟨⟨continuesIdentifier_of_starts hstarts, hrest⟩, ?_⟩
        rintro _ ⟨⟩
        exact .inr hstarts
      · rintro ⟨⟨-, hrest⟩, hbegins⟩
        exact ⟨(hbegins c rfl).resolve_left hc, hrest⟩

theorem snakeCase_ne_nil (raw : String) : (snakeCase raw).toList ≠ [] := by
  rcases snakeCase_cases raw with he | ⟨c, rest, -, -, he⟩
  · rw [he]
    decide
  · rw [he]
    split
    · exact List.cons_ne_nil _ _
    · exact List.cons_ne_nil _ _

/-! ## Fields -/

/-- Whatever is done about keywords leaves the form as it is. -/
theorem hasIdentifierForm_fieldIdent (raw : String) :
    hasIdentifierForm (unraw (fieldIdent raw)).toList = hasIdentifierForm (snakeCase raw).toList := by
  have hsnake := signless_snakeCase raw
  rcases fieldIdent_cases raw with he | ⟨he, -, -⟩ | ⟨he, -⟩
  · have hhash : '#' ∉ (snakeCase raw ++ "_").toList := by
      rw [String.toList_append]
      exact (hsnake.append (.of_all (by decide))).notMem_hash
    rw [he, unraw_eq_self hhash, String.toList_append]
    exact hasIdentifierForm_append (snakeCase_ne_nil raw) (by decide)
  · rw [he, unraw_rawMark]
  · rw [he, unraw_eq_self hsnake.notMem_hash]

theorem FieldName.notMem_reservedWords {name : String} (h : FieldName name) : name ∉ reservedWords := by
  cases h with
  | @raw word hk =>
    intro hr
    have hsigns := signless_keywords _ (reservedWords_subset hr)
    refine hsigns.notMem_hash ?_
    rw [toList_rawMark]
    exact List.mem_cons_of_mem _ List.mem_cons_self
  | plain hs hk => exact JsonShape.notMem_reservedWords hk

/-- **The identifier of a field is no bare keyword, and one that the language admits just if the letters and numbers
of the name allow it**: all of them may stand in identifiers, and the first one is a digit of ASCII or may begin
them. -/
theorem fieldIdent_form_iff (raw : String) :
    fieldIdent raw ∉ reservedWords ∧
    (hasIdentifierForm (unraw (fieldIdent raw)).toList = true ↔
      (∀ c ∈ raw.toList, isAlphanumeric c = true → continuesIdentifier c = true) ∧
        ∀ c, raw.toList.find? isAlphanumeric = some c → c.isDigit = true ∨ startsIdentifier c = true) := by
  refine ⟨(fieldName_fieldIdent raw).notMem_reservedWords, ?_⟩
  rw [hasIdentifierForm_fieldIdent, snakeCase_form_iff, List.head?_filter, List.all_eq_true]
  refine and_congr_left' (forall_congr' fun c => ?_)
  rw [List.mem_filter, and_imp]

/-- A decimal digit beyond ASCII stays at the front, and a superscript stays anywhere. -/
theorem number_kept :
    fieldIdent "٣" = "٣" ∧ hasIdentifierForm (unraw (fieldIdent "٣")).toList = false ∧
      fieldIdent "x²" = "x²" ∧ hasIdentifierForm (unraw (fieldIdent "x²")).toList = false := by
  decide +kernel

end JsonShape

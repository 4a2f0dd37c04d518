import JsonShape.Json.Printer
import JsonShape.Json.StringReader
import Mathlib.Data.List.Basic

/-!
# How strings are spelled

A character of a string may stand for itself, be escaped by a letter or by its code point in hexadecimal
digits, or by two of these, for a character beyond the basic plane (`SpellsChar`).  `SpellsBody` says so of a
string up to its closing quotation mark.

The reader takes exactly these texts (`stringBody_of_spellsBody`, `spellsBody_of_stringBody`), and a written
string is one of them (`quoted_toList`).
-/

namespace JsonShape

open Json

/-- `text` is one way to write the character inside a string. -/
inductive SpellsChar : Char → List Char → Prop
  | raw {c : Char} (hquote : c ≠ '"') (hslash : c ≠ '\\') (hcontrol : ¬ c.toNat < 0x20) :
      SpellsChar c [c]
  | short {c letter : Char} (h : shortEscape letter = some c) : SpellsChar c ['\\', letter]
  | unit {a b x y : Char} {unit : Nat} (h : hexUnit a b x y = some unit)
      (htrailing : ¬ isTrailingSurrogate unit) (hleading : ¬ isLeadingSurrogate unit) :
      SpellsChar (Char.ofNat unit) ['\\', 'u', a, b, x, y]
  | pair {a b x y a' b' x' y' : Char} {unit partner : Nat} (h : hexUnit a b x y = some unit)
      (hleading : isLeadingSurrogate unit) (h' : hexUnit a' b' x' y' = some partner)
      (htrailing : isTrailingSurrogate partner) :
      SpellsChar (pairedCode unit partner) ['\\', 'u', a, b, x, y, '\\', 'u', a', b', x', y']

/-- `text` is one way to write the characters of a string and its closing quotation mark. -/
inductive SpellsBody : List Char → List Char → Prop
  | close : SpellsBody [] ['"']
  | char {c : Char} {s text more : List Char} (hc : SpellsChar c text) (hs : SpellsBody s more) :
      SpellsBody (c :: s) (text ++ more)

/-! ## What is spelled is read -/

theorem not_isTrailingSurrogate {unit : Nat} (h : isLeadingSurrogate unit) :
    ¬ isTrailingSurrogate unit := by
  intro ht
  simp only [isLeadingSurrogate, isTrailingSurrogate, Bool.and_eq_true, decide_eq_true_eq] at h ht
  omega

theorem stringBody_of_spellsChar {c : Char} {text : List Char} (h : SpellsChar c text)
    (rest : List Char) : stringBody (text ++ rest) = prepend c (stringBody rest) := by
  cases h with
  | raw hquote hslash hcontrol =>
    rw [List.singleton_append, stringBody.eq_def]
    simp only [if_neg hquote, if_neg hslash, if_neg hcontrol]
  | @short _ letter h =>
    unfold shortEscape at h
    split at h
    case h_9 => cases h
    all_goals
      cases h
      rfl
  | unit h htrailing hleading =>
    rw [stringBody.eq_def]
    simp [h, htrailing, hleading]
  | pair h hleading h' htrailing =>
    rw [stringBody.eq_def]
    simp [h, hleading, not_isTrailingSurrogate hleading, h', htrailing]

theorem stringBody_of_spellsBody {s body : List Char} (h : SpellsBody s body) (rest : List Char) :
    stringBody (body ++ rest) = .ok (s, rest) := by
  induction h with
  | close =>
    rw [List.singleton_append, stringBody.eq_def]
    simp
  | char hc _ ih =>
    rw [List.append_assoc, stringBody_of_spellsChar hc, ih]
    rfl

theorem stringAfterQuote_of_spellsBody {s : String} {body : List Char} (h : SpellsBody s.toList body)
    (rest : List Char) : stringAfterQuote (body ++ rest) = .ok (s, rest) := by
  rw [stringAfterQuote, stringBody_of_spellsBody h]
  simp [Except.map]

/-! ## What is read is spelled -/

theorem prepend_eq_ok_iff {c : Char} {outcome : Except Failure (List Char × List Char)}
    {s rest : List Char} :
    prepend c outcome = .ok (s, rest) ↔ ∃ others, outcome = .ok (others, rest) ∧ s = c :: others := by
  cases outcome with
  | error failure => simp [prepend, Except.map]
  | ok result =>
    obtain ⟨others, left⟩ := result
    simp only [prepend, Except.map, Except.ok.injEq, Prod.mk.injEq]
    constructor
    · rintro ⟨rfl, rfl⟩
      exact ⟨others, ⟨rfl, rfl⟩, rfl⟩
    · rintro ⟨_, ⟨rfl, rfl⟩, rfl⟩
      exact ⟨rfl, rfl⟩

/-- A character and what is read after it. -/
theorem spellsBody_of_prepend {c : Char} {text more s rest : List Char} (hc : SpellsChar c text)
    (ih : ∀ {s}, stringBody more = .ok (s, rest) → ∃ body, SpellsBody s body ∧ more = body ++ rest)
    (h : prepend c (stringBody more) = .ok (s, rest)) :
    ∃ body, SpellsBody s body ∧ text ++ more = body ++ rest := by
  obtain ⟨others, hothers, rfl⟩ := prepend_eq_ok_iff.mp h
  obtain ⟨body, hbody, rfl⟩ := ih hothers
  exact ⟨text ++ body, .char hc hbody, by rw [List.append_assoc]⟩

theorem spellsBody_of_stringBody {text s rest : List Char} (h : stringBody text = .ok (s, rest)) :
    ∃ body, SpellsBody s body ∧ text = body ++ rest := by
  -- only five branches of the reader succeed, the first of them at the closing quotation mark
  fun_induction stringBody text generalizing s with
  | case2 left =>
    cases h
    exact ⟨['"'], .close, rfl⟩
  | case7 a b x y unit hunit htrailing hleading a' b' x' y' more partner hpartner hpaired _ ih =>
    exact spellsBody_of_prepend (.pair hunit hleading hpartner hpaired) ih h
  | case10 a b x y more unit hunit htrailing hleading _ ih =>
    exact spellsBody_of_prepend (.unit hunit htrailing hleading) ih h
  | case12 letter more _ _ c hshort _ ih => exact spellsBody_of_prepend (.short hshort) ih h
  | case15 c more hquote hslash hcontrol ih =>
    exact spellsBody_of_prepend (.raw hquote hslash hcontrol) ih h
  | _ => cases h

theorem spellsBody_of_stringAfterQuote {s : String} {text rest : List Char}
    (h : stringAfterQuote text = .ok (s, rest)) :
    ∃ body, SpellsBody s.toList body ∧ text = body ++ rest := by
  unfold stringAfterQuote at h
  cases hread : stringBody text with
  | error failure =>
    rw [hread] at h
    cases h
  | ok result =>
    obtain ⟨characters, left⟩ := result
    rw [hread] at h
    cases h
    rw [String.toList_ofList]
    exact spellsBody_of_stringBody hread

/-! ## Written strings -/

/-- A control is read from the digits of its code point. -/
theorem hexUnit_control : ∀ code < 0x20,
    hexUnit '0' '0' (Nat.digitChar (code / 16)) (Nat.digitChar (code % 16)) = some code := by
  decide

theorem spellsChar_control {c : Char} (h : c.toNat < 0x20) :
    SpellsChar c ['\\', 'u', '0', '0', Nat.digitChar (c.toNat / 16), Nat.digitChar (c.toNat % 16)] := by
  have htrailing : ¬ isTrailingSurrogate c.toNat := by
    simp only [isTrailingSurrogate, Bool.and_eq_true, decide_eq_true_eq]
    omega
  have hleading : ¬ isLeadingSurrogate c.toNat := by
    simp only [isLeadingSurrogate, Bool.and_eq_true, decide_eq_true_eq]
    omega
  have hunit := SpellsChar.unit (hexUnit_control c.toNat h) htrailing hleading
  rwa [Char.ofNat_toNat] at hunit

/-- The way a character stands in a written string is one way to write it. -/
theorem spellsChar_escaped (c : Char) : SpellsChar c (escaped c) := by
  unfold escaped
  split
  · exact .short rfl
  · exact .short rfl
  · exact .short rfl
  · exact .short rfl
  · exact .short rfl
  · exact .short rfl
  · exact .short rfl
  · rename_i hquote hslash _ _ _ _ _
    by_cases hc : c.toNat < 0x20
    · rw [if_pos hc]
      exact spellsChar_control hc
    · rw [if_neg hc]
      exact .raw hquote hslash hc

theorem spellsBody_escaped (s : List Char) : SpellsBody s (s.flatMap escaped ++ ['"']) := by
  induction s with
  | nil => exact .close
  | cons c rest ih =>
    rw [List.flatMap_cons, List.append_assoc]
    exact .char (spellsChar_escaped c) ih

/-- A written string is a quotation mark and one way to write what follows it. -/
theorem quoted_toList (s : String) : ∃ body, SpellsBody s.toList body ∧ (quoted s).toList = '"' :: body :=
  ⟨s.toList.flatMap escaped ++ ['"'], spellsBody_escaped s.toList, by simp [quoted]⟩

end JsonShape

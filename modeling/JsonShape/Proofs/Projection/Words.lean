import JsonShape.Projection.Naming
import JsonShape.Proofs.Text.CaseMapping

/-!
# Words of a name

Splitting a name into words loses nothing: put together, the words are the lower case of the letters and numbers of
the name, in their order (`flatten_words`).  So what case mapping does to single characters says what words are
made of, and with them names in snake case (`forall_mem_snakeCase`) and in camel case.  No word is empty, and so
a name in snake case begins with a character of a word or with what is put before it (`snakeCase_cases`).
-/

namespace JsonShape

theorem mem_intercalate {between : List Char} {texts : List (List Char)} {c : Char}
    (h : c ∈ List.intercalate between texts) : c ∈ between ∨ ∃ text ∈ texts, c ∈ text := by
  induction texts with
  | nil => cases h
  | cons first rest ih =>
    cases rest with
    | nil => exact .inr ⟨first, List.mem_cons_self, by simpa [List.intercalate] using h⟩
    | cons second others =>
      rw [List.intercalate_cons_cons, List.mem_append, List.mem_append] at h
      rcases h with (hfirst | hbetween) | hrest
      · exact .inr ⟨first, List.mem_cons_self, hfirst⟩
      · exact .inl hbetween
      · rcases ih hrest with hbetween | ⟨text, ht, hc⟩
        · exact .inl hbetween
        · exact .inr ⟨text, List.mem_cons_of_mem _ ht, hc⟩

/-! ## Splitting -/

theorem flatten_addWord (found : List Char × List (List Char)) :
    (addWord found).flatten = found.1 ++ found.2.flatten := by
  obtain ⟨word, others⟩ := found
  cases word with
  | nil => rfl
  | cons => rfl

theorem ne_nil_of_mem_addWord {found : List Char × List (List Char)} (h : ∀ word ∈ found.2, word ≠ []) :
    ∀ word ∈ addWord found, word ≠ [] := by
  obtain ⟨first, others⟩ := found
  cases first with
  | nil => exact h
  | cons c rest => exact List.forall_mem_cons.mpr ⟨List.cons_ne_nil c rest, h⟩

theorem flatten_wordsFrom (text : List Char) (small : Bool) :
    (wordsFrom small text).1 ++ (wordsFrom small text).2.flatten =
      (text.filter isAlphanumeric).flatMap lowercase := by
  induction text generalizing small with
  | nil => rfl
  | cons c rest ih =>
    rw [wordsFrom]
    by_cases hc : isAlphanumeric c = true
    · rw [if_pos hc, List.filter_cons_of_pos hc, List.flatMap_cons, ← ih (isLowercase c || c.isDigit)]
      by_cases hstart : (isUppercase c && small) = true
      · simp only [if_pos hstart, flatten_addWord, List.nil_append, List.append_assoc]
      · simp only [if_neg hstart, List.append_assoc]
    · rw [if_neg hc, List.filter_cons_of_neg hc, List.nil_append, flatten_addWord, ih]

theorem ne_nil_of_mem_wordsFrom (text : List Char) (small : Bool) :
    ∀ word ∈ (wordsFrom small text).2, word ≠ [] := by
  induction text generalizing small with
  | nil => exact List.forall_mem_nil _
  | cons c rest ih =>
    rw [wordsFrom]
    by_cases hc : isAlphanumeric c = true
    · rw [if_pos hc]
      by_cases hstart : (isUppercase c && small) = true
      · simp only [if_pos hstart]
        exact ne_nil_of_mem_addWord (ih _)
      · simp only [if_neg hstart]
        exact ih _
    · rw [if_neg hc]
      exact ne_nil_of_mem_addWord (ih _)

/-- **Splitting loses nothing** but the characters that are neither letters nor numbers, and case. -/
theorem flatten_words (raw : List Char) : (words raw).flatten = (raw.filter isAlphanumeric).flatMap lowercase := by
  rw [words, flatten_addWord, flatten_wordsFrom]

theorem ne_nil_of_mem_words (raw : List Char) : ∀ word ∈ words raw, word ≠ [] :=
  ne_nil_of_mem_addWord (ne_nil_of_mem_wordsFrom raw false)

/-- What holds of the lower case of letters and numbers holds of what words are made of. -/
theorem forall_mem_words {p : Char → Prop} {raw : List Char}
    (h : ∀ c ∈ raw, isAlphanumeric c = true → ∀ d ∈ lowercase c, p d) :
    ∀ word ∈ words raw, ∀ d ∈ word, p d := by
  intro word hw d hd
  have hmem : d ∈ (words raw).flatten := List.mem_flatten.mpr ⟨word, hw, hd⟩
  rw [flatten_words] at hmem
  obtain ⟨c, hc, hlower⟩ := List.mem_flatMap.mp hmem
  obtain ⟨hraw, halnum⟩ := List.mem_filter.mp hc
  exact h c hraw halnum d hlower

theorem signless_of_mem_words {raw word : List Char} (hw : word ∈ words raw) : Signless word := by
  intro x hx hm
  have hne : ∀ word ∈ words raw, ∀ d ∈ word, d ≠ x := by
    refine forall_mem_words fun c _ hc d hd he => ?_
    refine notMem_lowercase hx ?_ (he ▸ hd)
    rintro rfl
    rw [not_isAlphanumeric_of_isSign hx] at hc
    cases hc
  exact hne word hw x hm rfl

/-! ## Snake case -/

/-- A name in snake case is made of the words, and stands behind an underscore if the words begin with a digit. -/
theorem snakeCase_cases (raw : String) : snakeCase raw = "field" ∨ ∃ c rest,
    List.intercalate ['_'] (words raw.toList) = c :: rest ∧ (∃ word ∈ words raw.toList, c ∈ word) ∧
      (snakeCase raw).toList = if c.isDigit then '_' :: c :: rest else c :: rest := by
  rw [snakeCase]
  cases hwords : words raw.toList with
  | nil => exact .inl rfl
  | cons word others =>
    right
    cases word with
    | nil =>
      have hempty : [] ∈ words raw.toList := hwords ▸ List.mem_cons_self
      exact absurd rfl (ne_nil_of_mem_words raw.toList [] hempty)
    | cons c letters =>
      obtain ⟨rest, hrest⟩ : ∃ rest, List.intercalate ['_'] ((c :: letters) :: others) = c :: rest := by
        cases others with
        | nil => exact ⟨letters, by simp [List.intercalate]⟩
        | cons second more => exact ⟨_, by rw [List.intercalate_cons_cons]; rfl⟩
      refine ⟨c, rest, hrest, ⟨_, List.mem_cons_self, List.mem_cons_self⟩, ?_⟩
      rw [hrest, String.toList_ofList]
      rfl

theorem forall_mem_snakeCase {p : Char → Prop} (raw : String) (hfield : ∀ c ∈ ['_', 'f', 'i', 'e', 'l', 'd'], p c)
    (h : ∀ word ∈ words raw.toList, ∀ c ∈ word, p c) : ∀ c ∈ (snakeCase raw).toList, p c := by
  obtain ⟨hunderscore, hletters⟩ := List.forall_mem_cons.mp hfield
  rcases snakeCase_cases raw with he | ⟨first, rest, hjoined, -, he⟩
  · rw [he]
    exact hletters
  · have hall : ∀ c ∈ first :: rest, p c := by
      intro c hc
      rcases mem_intercalate (hjoined ▸ hc) with hbetween | ⟨word, hw, hc⟩
      · obtain rfl := List.mem_singleton.mp hbetween
        exact hunderscore
      · exact h word hw c hc
    rw [he]
    by_cases hdigit : first.isDigit = true
    · rw [if_pos hdigit]
      exact List.forall_mem_cons.mpr ⟨hunderscore, hall⟩
    · rw [if_neg hdigit]
      exact hall

theorem signless_snakeCase (raw : String) : Signless (snakeCase raw).toList := by
  intro x hx hm
  have hfield : Signless ['_', 'f', 'i', 'e', 'l', 'd'] := .of_all (by decide)
  have hne := forall_mem_snakeCase (p := fun c => c ≠ x) raw (fun c hc he => hfield x hx (he ▸ hc))
    fun word hw c hc he => signless_of_mem_words hw x hx (he ▸ hc)
  exact hne x hm rfl

/-! ## Camel case -/

theorem signless_capitalized {word : List Char} (h : Signless word) : Signless (capitalized word) := by
  intro x hx
  cases word with
  | nil => exact List.not_mem_nil
  | cons c rest =>
    have hword := h x hx
    rw [List.mem_cons, not_or] at hword
    rw [capitalized, List.mem_append, not_or]
    exact ⟨notMem_uppercase hx (Ne.symm hword.1), hword.2⟩

theorem signless_letterFirst {text : List Char} (h : Signless text) : Signless (letterFirst text) := by
  have hT : Signless ['T'] := .of_all (by decide)
  cases text with
  | nil => exact hT
  | cons c rest =>
    rw [letterFirst]
    by_cases hdigit : c.isDigit = true
    · rw [if_pos hdigit]
      exact hT.append h
    · rw [if_neg hdigit]
      exact h

theorem signless_typeIdent (raw : String) : Signless (typeIdent raw).toList := by
  rw [typeIdent, String.toList_ofList]
  refine signless_letterFirst fun x hx hm => ?_
  obtain ⟨word, hw, hc⟩ := List.mem_flatMap.mp hm
  exact signless_capitalized (signless_of_mem_words hw) x hx hc

end JsonShape

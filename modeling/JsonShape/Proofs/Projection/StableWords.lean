import JsonShape.Proofs.Projection.Identifiers

/-!
# Words that are split again

The words of a name of ASCII are made of small letters and digits (`isSmall_of_mem_words`).  Case mapping leaves
these as they are and no word starts in front of one, so the words come back when they are put together with
underscores and split again (`words_intercalate`).  A name that is made of a name in snake case is therefore that of
the name itself.
-/

namespace JsonShape

/-- A small letter or a digit goes on with a word, and stays as it is. -/
theorem class_of_isSmall {c : Char} (h : isSmall c = true) :
    isAlphanumeric c = true ∧ isUppercase c = false ∧ lowercase c = [c] := by
  have hclass := forall_char_below
    (p := fun c => isSmall c = true → isAlphanumeric c = true ∧ isUppercase c = false ∧ lowercase c = [c]) (by decide)
    (toNat_lt_of_isAlphanum (isAlphanum_of_isSmall h))
  exact hclass h

/-! ## Splitting again -/

/-- A text that begins no further part of a word adds nothing to small letters and digits before it. -/
theorem wordsFrom_append_of_isSmall {word rest : List Char} (hword : ∀ c ∈ word, isSmall c = true)
    {others : List (List Char)} (hrest : ∀ small, wordsFrom small rest = ([], others)) (small : Bool) :
    wordsFrom small (word ++ rest) = (word, others) := by
  induction word generalizing small with
  | nil => exact hrest small
  | cons c word ih =>
    obtain ⟨hc, hword⟩ := List.forall_mem_cons.mp hword
    obtain ⟨halnum, hupper, hlower⟩ := class_of_isSmall hc
    rw [List.cons_append, wordsFrom, if_pos halnum, ih hword, hupper, Bool.false_and, hlower]
    rfl

theorem wordsFrom_underscore (text : List Char) (small : Bool) :
    wordsFrom small ('_' :: text) = ([], words text) := by
  rw [wordsFrom, if_neg (by decide), words]

theorem words_intercalate {parts : List (List Char)} (hne : ∀ word ∈ parts, word ≠ [])
    (hsmall : ∀ word ∈ parts, ∀ c ∈ word, isSmall c = true) : words (List.intercalate ['_'] parts) = parts := by
  have hadd {word : List Char} (hword : word ≠ []) (others : List (List Char)) :
      addWord (word, others) = word :: others := by
    cases word with
    | nil => exact absurd rfl hword
    | cons => rfl
  induction parts with
  | nil => rfl
  | cons word parts ih =>
    obtain ⟨hword, hparts⟩ := List.forall_mem_cons.mp hne
    obtain ⟨hletters, hothers⟩ := List.forall_mem_cons.mp hsmall
    cases parts with
    | nil =>
      have hend : ∀ small, wordsFrom small [] = ([], []) := fun _ => rfl
      have hsplit := wordsFrom_append_of_isSmall hletters hend false
      rw [List.append_nil] at hsplit
      rw [List.intercalate_singleton, words, hsplit, hadd hword]
    | cons second more =>
      rw [List.intercalate_cons_cons, List.append_assoc, List.singleton_append, words,
        wordsFrom_append_of_isSmall hletters (wordsFrom_underscore _), hadd hword, ih hparts hothers]

/-- What is made of a name depends on its words only. -/
theorem idents_of_words_eq {raw other : String} (h : words raw.toList = words other.toList) :
    fieldIdent raw = fieldIdent other ∧ typeIdent raw = typeIdent other := by
  have hsnake : snakeCase raw = snakeCase other := by rw [snakeCase, snakeCase, h]
  exact ⟨by rw [fieldIdent, fieldIdent, hsnake], by rw [typeIdent, typeIdent, h]⟩

/-- **Splitting loses nothing and is stable**: no word is empty, and put together they are the lower case of the
letters and numbers of the name in their order.  The words of a name of ASCII are made of small letters and digits;
with underscores between them they are split into the same words, so that the identifiers made of them are those of
the name. -/
theorem words_stable (raw : String) :
    (∀ word ∈ words raw.toList, word ≠ []) ∧
    (words raw.toList).flatten = (raw.toList.filter isAlphanumeric).flatMap lowercase ∧
    (Ascii raw →
      (∀ word ∈ words raw.toList, ∀ c ∈ word, isSmall c = true) ∧
      words (List.intercalate ['_'] (words raw.toList)) = words raw.toList ∧
      let snake := String.ofList (List.intercalate ['_'] (words raw.toList))
      fieldIdent snake = fieldIdent raw ∧ typeIdent snake = typeIdent raw) := by
  have hne := ne_nil_of_mem_words raw.toList
  refine ⟨hne, flatten_words raw.toList, fun h => ?_⟩
  have hsmall := isSmall_of_mem_words h
  have hagain := words_intercalate hne hsmall
  exact ⟨hsmall, hagain, idents_of_words_eq (by rw [String.toList_ofList, hagain])⟩

/-- A capital after a digit starts a word, and one after another capital does not. -/
theorem words_stable_sample :
    Ascii "__HTTPStatus2Go--x9" ∧
    words "__HTTPStatus2Go--x9".toList = ["httpstatus2".toList, "go".toList, "x9".toList] ∧
    words "httpstatus2_go_x9".toList = words "__HTTPStatus2Go--x9".toList ∧
    fieldIdent "httpstatus2_go_x9" = fieldIdent "__HTTPStatus2Go--x9" := by
  have hascii : Ascii "__HTTPStatus2Go--x9" := by decide
  obtain ⟨-, -, hstable⟩ := words_stable "__HTTPStatus2Go--x9"
  obtain ⟨-, hagain, hfield, -⟩ := hstable hascii
  exact ⟨hascii, by decide, hagain, hfield⟩

end JsonShape

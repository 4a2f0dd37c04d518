import JsonShape.Proofs.Projection.ItemNames
import JsonShape.Proofs.Projection.Words

/-!
# Identifiers of fields

An identifier is a keyword with the mark of a raw one, or has no sign and is no keyword (`FieldName`); for a
numbered one this is so because of the underscore before the number, which no keyword has.  Without their marks
two identifiers are the same only if they are the same with them (`FieldName.unraw_inj`).  The identifier of a
name of ASCII is one that the language admits (`isIdentifier_freeField`).
-/

namespace JsonShape

/-- An identifier without the mark of a raw one. -/
def unraw (ident : String) : String :=
  match ident.toList with
  | 'r' :: '#' :: rest => String.ofList rest
  | _ => ident

/-! ## The language -/

/-- The words that the language keeps for itself, now or for the time to come. -/
def reservedWords : List String :=
  ["Self", "abstract", "as", "async", "await", "become", "box", "break", "const", "continue", "crate", "do", "dyn",
   "else", "enum", "extern", "false", "final", "fn", "for", "gen", "if", "impl", "in", "let", "loop", "macro",
   "match", "mod", "move", "mut", "override", "priv", "pub", "ref", "return", "self", "static", "struct", "super",
   "trait", "true", "try", "type", "typeof", "unsafe", "unsized", "use", "virtual", "where", "while", "yield"]

/-- The characters of ASCII that a word may go on with. -/
def continues (c : Char) : Bool := c.isAlphanum || c == '_'

/-- A word of ASCII begins with a letter, or with an underscore that is not all of it. -/
inductive IsWord : List Char → Prop
  | letter {c : Char} {rest : List Char} (hc : c.isAlpha = true) (h : rest.all continues = true) :
      IsWord (c :: rest)
  | underscore {rest : List Char} (hr : rest ≠ []) (h : rest.all continues = true) : IsWord ('_' :: rest)

/-- An identifier is a word that is not reserved, or a raw one; a few words cannot be raw identifiers either. -/
inductive IsIdentifier : String → Prop
  | plain {word : String} (h : IsWord word.toList) (hr : word ∉ reservedWords) : IsIdentifier word
  | raw {word : String} (h : IsWord word.toList) (hr : word ∉ ["crate", "self", "super", "Self"]) :
      IsIdentifier ("r#" ++ word)

theorem IsWord.all_continues {text : List Char} (h : IsWord text) : text.all continues = true := by
  cases h with
  | letter hc h => rw [List.all_cons, h, continues, Char.isAlphanum, hc, Bool.true_or, Bool.true_or, Bool.and_true]
  | underscore hr h =>
    rw [List.all_cons, h, Bool.and_true]
    rfl

theorem IsWord.append {text more : List Char} (h : IsWord text) (hm : more.all continues = true) :
    IsWord (text ++ more) := by
  have hall : ∀ {rest : List Char}, rest.all continues = true → (rest ++ more).all continues = true := by
    intro rest h
    rw [List.all_append, h, hm, Bool.and_true]
  cases h with
  | letter hc h => exact .letter hc (hall h)
  | underscore hr h => exact .underscore (List.append_ne_nil_of_left_ne_nil hr more) (hall h)

/-! ## Keywords -/

theorem reservedWords_subset : reservedWords ⊆ keywords ++ pathKeywords := by decide

theorem underscore_notMem_keywords : ∀ word ∈ keywords ++ pathKeywords, '_' ∉ word.toList := by decide

theorem signless_keywords : ∀ word ∈ keywords ++ pathKeywords, Signless word.toList := by
  intro word hw
  have hletters : ∀ word ∈ keywords ++ pathKeywords,
      (word.toList.all fun c => 0x40 < c.toNat || c.isDigit) = true := by decide
  exact .of_all (hletters word hw)

/-- A name with an underscore is no keyword. -/
theorem notMem_keywords_of_underscore {name : String} (h : '_' ∈ name.toList) :
    name ∉ keywords ++ pathKeywords := fun hk => underscore_notMem_keywords name hk h

theorem notMem_reservedWords {name : String} (h : name ∉ keywords ++ pathKeywords) : name ∉ reservedWords :=
  fun hr => h (reservedWords_subset hr)

/-! ## Marks -/

theorem Signless.notMem_hash {text : List Char} (h : Signless text) : '#' ∉ text := h '#' (by decide)

theorem toList_rawMark (word : String) : (rawMark ++ word).toList = 'r' :: '#' :: word.toList := by
  rw [String.toList_append]
  rfl

theorem unraw_rawMark (word : String) : unraw (rawMark ++ word) = word := by
  rw [unraw, toList_rawMark]
  exact String.ofList_toList

theorem unmarkedGo_eq_self {text : List Char} (h : '#' ∉ text) : unmarked.go text = text := by
  unfold unmarked.go
  split
  · exact absurd (List.mem_cons_of_mem _ List.mem_cons_self) h
  · rfl

theorem unraw_eq_self {name : String} (h : '#' ∉ name.toList) : unraw name = name := by
  unfold unraw
  split
  · rename_i rest hname
    rw [hname] at h
    exact absurd (List.mem_cons_of_mem _ List.mem_cons_self) h
  · rfl

theorem unmarked_eq_self {name : String} (h : '#' ∉ name.toList) : unmarked name = name := by
  rw [unmarked, unmarkedGo_eq_self h, String.ofList_toList]

theorem unmarked_rawMark {word : String} (h : '#' ∉ word.toList) : unmarked (rawMark ++ word) = word := by
  rw [unmarked, toList_rawMark, unmarked.go, unmarkedGo_eq_self h, String.ofList_toList]

/-! ## Names of fields -/

/-- A raw keyword, or a name without signs that is no keyword. -/
inductive FieldName : String → Prop
  | raw {word : String} (hk : word ∈ keywords) : FieldName (rawMark ++ word)
  | plain {name : String} (hs : Signless name.toList) (hk : name ∉ keywords ++ pathKeywords) : FieldName name

namespace FieldName

variable {name other : String}

theorem signless_unraw (h : FieldName name) : Signless (unraw name).toList := by
  cases h with
  | raw hk =>
    rw [unraw_rawMark]
    exact signless_keywords _ (List.mem_append_left _ hk)
  | plain hs hk =>
    rw [unraw_eq_self hs.notMem_hash]
    exact hs

/-- Of signs there is at most that of the mark. -/
theorem notMem (h : FieldName name) {x : Char} (hx : IsSign x) (hne : x ≠ '#') : x ∉ name.toList := by
  cases h with
  | @raw word hk =>
    have hr : x ≠ 'r' := by
      rintro rfl
      exact absurd hx.before (by decide)
    rw [toList_rawMark, List.mem_cons, List.mem_cons, not_or, not_or]
    exact ⟨hr, hne, signless_keywords word (List.mem_append_left _ hk) x hx⟩
  | plain hs hk => exact hs x hx

/-- There is one mark at most. -/
theorem unmarked_eq (h : FieldName name) : unmarked name = unraw name := by
  cases h with
  | @raw word hk =>
    have hword := signless_keywords word (List.mem_append_left _ hk)
    rw [unraw_rawMark, unmarked_rawMark hword.notMem_hash]
  | plain hs hk => rw [unraw_eq_self hs.notMem_hash, unmarked_eq_self hs.notMem_hash]

/-- **Names of fields differ also without their marks**, since a name without one is no keyword. -/
theorem unraw_inj (h : FieldName name) (h' : FieldName other) (he : unraw name = unraw other) : name = other := by
  cases h with
  | raw hk =>
    rw [unraw_rawMark] at he
    cases h' with
    | raw =>
      rw [unraw_rawMark] at he
      rw [he]
    | plain hs' hk' =>
      rw [unraw_eq_self hs'.notMem_hash] at he
      exact absurd (List.mem_append_left _ (he ▸ hk)) hk'
  | plain hs hk =>
    rw [unraw_eq_self hs.notMem_hash] at he
    cases h' with
    | raw hk' =>
      rw [unraw_rawMark] at he
      exact absurd (List.mem_append_left _ (he ▸ hk')) hk
    | plain hs' => rwa [unraw_eq_self hs'.notMem_hash] at he

end FieldName

/-- A name in snake case gets an underscore if it cannot be an identifier at all, and a mark if it is another
keyword. -/
theorem fieldIdent_cases (raw : String) : fieldIdent raw = snakeCase raw ++ "_" ∨
    (fieldIdent raw = rawMark ++ snakeCase raw ∧ snakeCase raw ∈ keywords ∧ snakeCase raw ∉ pathKeywords) ∨
    (fieldIdent raw = snakeCase raw ∧ snakeCase raw ∉ keywords ++ pathKeywords) := by
  rw [fieldIdent]
  by_cases hpath : snakeCase raw ∈ pathKeywords
  · exact .inl (if_pos hpath)
  · by_cases hkeyword : snakeCase raw ∈ keywords
    · exact .inr (.inl ⟨(if_neg hpath).trans (if_pos hkeyword), hkeyword, hpath⟩)
    · exact .inr (.inr ⟨(if_neg hpath).trans (if_neg hkeyword), List.not_mem_append hkeyword hpath⟩)

theorem fieldName_fieldIdent (raw : String) : FieldName (fieldIdent raw) := by
  have hsnake := signless_snakeCase raw
  rcases fieldIdent_cases raw with he | ⟨he, hkeyword, -⟩ | ⟨he, hfree⟩
  · rw [he]
    refine .plain ?_ (notMem_keywords_of_underscore ?_)
    · rw [String.toList_append]
      exact hsnake.append (.of_all (by decide))
    · simp
  · rw [he]
    exact .raw hkeyword
  · rw [he]
    exact .plain hsnake hfree

/-- A free identifier is the wanted one, or one with a number behind an underscore. -/
theorem freeField_cases (raw : String) (taken : List String) : freeField (fieldIdent raw) taken = fieldIdent raw ∨
    ∃ n, freeField (fieldIdent raw) taken = unraw (fieldIdent raw) ++ "_" ++ toString (n + 2) := by
  rw [freeField, (fieldName_fieldIdent raw).unmarked_eq]
  exact firstFree_cases (fieldIdent raw) (unraw (fieldIdent raw) ++ "_") taken

theorem fieldName_freeField (raw : String) (taken : List String) :
    FieldName (freeField (fieldIdent raw) taken) := by
  have hwanted := fieldName_fieldIdent raw
  rcases freeField_cases raw taken with he | ⟨n, he⟩
  · rwa [he]
  · have hdigits : Signless (toString (n + 2)).toList :=
      .of_all (all_toString (fun c hc => by rw [hc, Bool.or_true]) (n + 2))
    rw [he]
    refine .plain ?_ (notMem_keywords_of_underscore (by simp))
    rw [String.toList_append, String.toList_append]
    exact (hwanted.signless_unraw.append (.of_all (by decide))).append hdigits

/-! ## Names of ASCII -/

/-- All characters are of ASCII. -/
def Ascii (text : String) : Prop := ∀ c ∈ text.toList, c.toNat < 0x80

instance (text : String) : Decidable (Ascii text) := List.decidableBAll (fun c : Char => c.toNat < 0x80) _

section Ascii

variable {raw : String} (h : Ascii raw)
include h

theorem isSmall_of_mem_words : ∀ word ∈ words raw.toList, ∀ c ∈ word, isSmall c = true :=
  forall_mem_words fun c hc halnum => isSmall_of_mem_lowercase (h c hc) halnum

theorem isAlphanum_of_mem_words : ∀ word ∈ words raw.toList, ∀ c ∈ word, c.isAlphanum = true :=
  fun word hw c hc => isAlphanum_of_isSmall (isSmall_of_mem_words h word hw c hc)

theorem isWord_snakeCase : IsWord (snakeCase raw).toList := by
  have hwords := isAlphanum_of_mem_words h
  have hall : (snakeCase raw).toList.all continues = true := by
    refine List.all_eq_true.mpr (forall_mem_snakeCase raw (List.all_eq_true.mp (by decide)) fun word hw c hc => ?_)
    rw [continues, hwords word hw c hc, Bool.true_or]
  rcases snakeCase_cases raw with he | ⟨c, rest, -, ⟨word, hw, hc⟩, he⟩
  · rw [he]
    exact .letter (by decide) (by decide)
  · have halnum := hwords word hw c hc
    rw [he] at hall ⊢
    by_cases hdigit : c.isDigit = true
    · rw [if_pos hdigit, List.all_cons, Bool.and_eq_true] at hall
      rw [if_pos hdigit]
      exact .underscore (List.cons_ne_nil _ _) hall.2
    · rw [if_neg hdigit, List.all_cons, Bool.and_eq_true] at hall
      rw [Char.isAlphanum, Bool.or_eq_true] at halnum
      rw [if_neg hdigit]
      exact .letter (halnum.resolve_right hdigit) hall.2

theorem isIdentifier_fieldIdent : IsIdentifier (fieldIdent raw) := by
  have hsnake := isWord_snakeCase h
  rcases fieldIdent_cases raw with he | ⟨he, -, hpath⟩ | ⟨he, hfree⟩
  · rw [he]
    refine .plain ?_ (notMem_reservedWords (notMem_keywords_of_underscore ?_))
    · rw [String.toList_append]
      exact hsnake.append (by decide)
    · simp
  · rw [he]
    exact .raw hsnake fun hr => hpath ((by decide : ["crate", "self", "super", "Self"] ⊆ pathKeywords) hr)
  · rw [he]
    exact .plain hsnake (notMem_reservedWords hfree)

theorem isWord_unraw_fieldIdent : IsWord (unraw (fieldIdent raw)).toList := by
  have hident := isIdentifier_fieldIdent h
  generalize fieldIdent raw = ident at hident
  cases hident with
  | @plain word hw hr =>
    have hhash : '#' ∉ ident.toList := by
      intro hm
      exact absurd (List.all_eq_true.mp hw.all_continues '#' hm) (by decide)
    rwa [unraw_eq_self hhash]
  | @raw word hw hr => exact (unraw_rawMark word).symm ▸ hw

/-- **The identifier of a name of ASCII is a legal one**, also with a number. -/
theorem isIdentifier_freeField (taken : List String) : IsIdentifier (freeField (fieldIdent raw) taken) := by
  rcases freeField_cases raw taken with he | ⟨n, he⟩
  · rw [he]
    exact isIdentifier_fieldIdent h
  · have hdigits : (toString (n + 2)).toList.all continues = true :=
      all_toString (fun c hc => by rw [continues, Char.isAlphanum, hc, Bool.or_true, Bool.true_or]) (n + 2)
    rw [he]
    refine .plain ?_ (notMem_reservedWords (notMem_keywords_of_underscore (by simp)))
    rw [String.toList_append, String.toList_append]
    exact ((isWord_unraw_fieldIdent h).append (by decide)).append hdigits

end Ascii

/-- A keyword has the mark, and with a number it needs none. -/
example : fieldIdent "type" = "r#type" ∧ freeField (fieldIdent "Type") ["r#type"] = "type_2" := by decide

end JsonShape

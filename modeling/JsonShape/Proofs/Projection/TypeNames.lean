import JsonShape.Proofs.Projection.NameClasses

/-!
# Names of declared types

The name of a root is a word in camel case, and a name made of it by a key, by `Item` or by a number has a second
capital or a digit (`IsCompound`).  The words that a file relies on have neither, so one of them is the name of an
item only if it is the name of a root (`declared_words`).  Nothing keeps a root from having such a name.
-/

namespace JsonShape

/-- The words that a file of declarations takes from elsewhere: the types in its fields, and what it imports. -/
def borrowedWords : List String := ["String", "Option", "Vec", "Result", "Serialize", "Deserialize"]

/-! ## Camel case -/

theorem isAlpha_eq (c : Char) : c.isAlpha = (c.isUpper || c.isLower) := rfl

/-- A word of ASCII that begins with a capital and goes on with letters and digits. -/
inductive IsCamelWord : List Char → Prop
  | intro {c : Char} {rest : List Char} (hc : c.isUpper = true) (h : rest.all Char.isAlphanum = true) :
      IsCamelWord (c :: rest)

/-- A word in camel case that has a capital or a digit also after its first character. -/
structure IsCompound (text : List Char) : Prop where
  camel : IsCamelWord text
  further : ∃ c ∈ text.tail, c.isUpper = true ∨ c.isDigit = true

namespace IsCamelWord

variable {text : List Char} (h : IsCamelWord text)
include h

theorem all_isAlphanum : text.all Char.isAlphanum = true := by
  cases h with
  | intro hc h => rw [List.all_cons, h, isAlphanum_eq, hc]; rfl

theorem compound_append {more : List Char} (hm : more.all Char.isAlphanum = true)
    (hc : ∃ c ∈ more, c.isUpper = true ∨ c.isDigit = true) : IsCompound (text ++ more) := by
  obtain ⟨c, hmem, hclass⟩ := hc
  cases h with
  | @intro first rest hfirst h =>
    refine ⟨.intro hfirst ?_, c, List.mem_append_right _ hmem, hclass⟩
    show (rest ++ more).all Char.isAlphanum = true
    rw [List.all_append, h, hm]
    rfl

theorem isIdentifier {name : String} (he : name.toList = text) (hs : name ≠ "Self") : IsIdentifier name := by
  have hsmall : ∀ word ∈ reservedWords, word ≠ "Self" → word.toList.head?.any Char.isUpper = false := by decide
  cases h with
  | @intro c rest hc h =>
    refine .plain ?_ fun hr => ?_
    · rw [he]
      refine .letter (by rw [isAlpha_eq, hc, Bool.true_or]) (List.all_eq_true.mpr fun d hd => ?_)
      rw [continues, List.all_eq_true.mp h d hd, Bool.true_or]
    · have hlower := hsmall name hr hs
      rw [he, List.head?_cons, Option.any_some, hc] at hlower
      cases hlower

end IsCamelWord

/-- A letter of ASCII has a capital, and a digit stays as it is. -/
theorem uppercase_of_isAlphanum {c : Char} (h : c.isAlphanum = true) :
    uppercase c = [c.toUpper] ∧ (c.toUpper.isUpper = true ∨ c.toUpper.isDigit = true) := by
  have hascii := toNat_lt_of_isAlphanum h
  have himage := forall_char_below
    (p := fun c => c.isAlphanum = true → c.toUpper.isUpper = true ∨ c.toUpper.isDigit = true) (by decide) hascii
  exact ⟨by rw [uppercase, if_pos hascii], himage h⟩

/-- A text that is put together of capitalized words, fit to begin a type. -/
structure IsCapitalized (text : List Char) : Prop where
  alphanum : text.all Char.isAlphanum = true
  first : ∀ c ∈ text.head?, c.isUpper = true ∨ c.isDigit = true

theorem IsCapitalized.append {text more : List Char} (h : IsCapitalized text) (h' : IsCapitalized more) :
    IsCapitalized (text ++ more) := by
  refine ⟨by rw [List.all_append, h.alphanum, h'.alphanum]; rfl, ?_⟩
  cases text with
  | nil => exact h'.first
  | cons => exact h.first

theorem isCapitalized_capitalized {word : List Char} (h : ∀ c ∈ word, c.isAlphanum = true) :
    IsCapitalized (capitalized word) := by
  cases word with
  | nil => exact ⟨rfl, by simp [capitalized]⟩
  | cons c rest =>
    obtain ⟨hc, hrest⟩ := List.forall_mem_cons.mp h
    obtain ⟨hupper, himage⟩ := uppercase_of_isAlphanum hc
    rw [capitalized, hupper]
    refine ⟨?_, by simpa using himage⟩
    rw [List.all_append, List.all_eq_true.mpr hrest, Bool.and_true, List.all_cons, isAlphanum_eq]
    rcases himage with hu | hd
    · rw [hu]; rfl
    · rw [hd, Bool.or_true]; rfl

theorem IsCapitalized.isCamelWord {text : List Char} (h : IsCapitalized text) : IsCamelWord (letterFirst text) := by
  cases text with
  | nil => exact .intro (by decide) rfl
  | cons c rest =>
    rw [letterFirst]
    by_cases hdigit : c.isDigit = true
    · rw [if_pos hdigit]
      exact .intro (by decide) h.alphanum
    · rw [if_neg hdigit]
      have halphanum := h.alphanum
      rw [List.all_cons, Bool.and_eq_true] at halphanum
      exact .intro ((h.first c rfl).resolve_right hdigit) halphanum.2

/-- The type of a name of ASCII is a word in camel case. -/
theorem isCamelWord_typeIdent {raw : String} (h : Ascii raw) : IsCamelWord (typeIdent raw).toList := by
  have hwords := isAlphanum_of_mem_words h
  rw [typeIdent, String.toList_ofList]
  refine IsCapitalized.isCamelWord ?_
  generalize words raw.toList = parts at hwords
  induction parts with
  | nil => exact ⟨rfl, by simp⟩
  | cons word others ih =>
    obtain ⟨hword, hothers⟩ := List.forall_mem_cons.mp hwords
    rw [List.flatMap_cons]
    exact (isCapitalized_capitalized hword).append (ih hothers)

/-! ## Names of items -/

/-- The names of roots, and what is made of names. -/
theorem closed_compound {roots : List String} (h : ∀ root ∈ roots, IsCamelWord root.toList) :
    Closed (fun name => name ∈ roots ∨ IsCompound name.toList) Ascii := by
  have hcamel : ∀ {name : String}, name ∈ roots ∨ IsCompound name.toList → IsCamelWord name.toList :=
    fun hn => hn.elim (h _) IsCompound.camel
  refine ⟨fun hn => .inr ?_, fun hn hk => .inr ?_, fun n hn => .inr ?_⟩
  · rw [String.toList_append]
    exact (hcamel hn).compound_append (by decide) ⟨'I', by decide, .inl (by decide)⟩
  · have hkey := isCamelWord_typeIdent hk
    rw [String.toList_append]
    refine (hcamel hn).compound_append hkey.all_isAlphanum ?_
    generalize (typeIdent _).toList = text at hkey
    cases hkey with
    | @intro c rest hc _ => exact ⟨c, List.mem_cons_self, .inl hc⟩
  · rw [String.toList_append]
    refine (hcamel hn).compound_append (all_toString (fun c hc => by rw [Char.isAlphanum, hc, Bool.or_true]) n) ?_
    rw [toList_toString_nat]
    obtain ⟨c, rest, hcons⟩ := List.exists_cons_of_ne_nil (Nat.toDigits_ne_nil (n := n) (b := 10))
    have hc : c ∈ Nat.toDigits 10 n := hcons ▸ List.mem_cons_self
    exact ⟨c, hc, .inr (isDigit_toDigits n c hc)⟩

/-- The words that a file relies on have small letters only after the first. -/
theorem not_compound_of_mem {word : String} (h : word ∈ "Self" :: borrowedWords) : ¬ IsCompound word.toList := by
  have hsmall : ∀ word ∈ "Self" :: borrowedWords,
      word.toList.tail.any (fun c => c.isUpper || c.isDigit) = false := by decide
  intro hc
  obtain ⟨c, hmem, hclass⟩ := hc.further
  exact List.any_eq_false.mp (hsmall word h) c hmem (Bool.or_eq_true _ _ |>.mpr hclass)

/-- A name is taken once it has been wanted. -/
theorem mem_cons_freeType (wanted : String) (taken : List String) : wanted ∈ freeType wanted taken :: taken := by
  by_cases hw : wanted ∈ taken
  · exact List.mem_cons_of_mem _ hw
  · rw [freeType, firstFree, if_neg hw]
    exact List.mem_cons_self

namespace Declarations

/-- The name of a root is taken once the root is declared. -/
theorem typeIdent_mem_taken (d : Declarations) (schema : Schema) (root : String) :
    typeIdent root ∈ (d.declare schema root).taken := by
  have hwanted := mem_cons_freeType (typeIdent root) d.taken
  unfold declare
  by_cases hrecord : isRecord schema = true
  · rw [if_pos hrecord]
    cases schema with
    | construct fields =>
      have hnames := newNames_typeOf (.construct fields) (typeIdent root) d.taken
      refine (hnames.mem_iff _).mpr ((List.mem_cons.mp hwanted).imp_left fun he => ?_)
      rw [typeOf, List.map_cons]
      exact List.mem_cons.mpr (.inl he)
    | string | number | boolean | optional | nullable | array => cases hrecord
  · rw [if_neg hrecord]
    exact ((newNames_typeOf schema _ _).mem_iff _).mpr (.inr hwanted)

theorem typeIdent_mem_names {roots : List (Schema × String)} {root : Schema × String} (h : root ∈ roots) :
    typeIdent root.2 ∈ (ofRoots roots).items.map Item.name := by
  have htaken : typeIdent root.2 ∈ (ofRoots roots).taken := by
    induction roots using List.reverseRecOn with
    | nil => cases h
    | append_singleton roots last ih =>
      rw [ofRoots_concat]
      rcases List.mem_append.mp h with h | h
      · obtain ⟨new, -, hnames⟩ := (ofRoots roots).declare_items last.1 last.2
        exact (hnames.mem_iff _).mpr (.inr (ih h))
      · obtain rfl := List.mem_singleton.mp h
        exact typeIdent_mem_taken _ _ _
  exact (((nodup_names_ofRoots roots).mem_iff _).mp htaken).resolve_right List.not_mem_nil

end Declarations

theorem not_isIdentifier_Self : ¬ IsIdentifier "Self" := by
  intro h
  generalize hs : "Self" = name at h
  cases h with
  | plain hw hr => exact hr (hs ▸ by decide)
  | raw hw hr =>
    have hhash : '#' ∈ "Self".toList := by simp [hs]
    exact absurd hhash (by decide)

/-- **A word that the file relies on is the name of an item just if it is the name of a root**, and all other
names are identifiers.  So the names of a file can be used just if no root is named by one of these words. -/
theorem declared_words (roots : List (Schema × String))
    (h : ∀ root ∈ roots, Ascii root.2 ∧ ∀ key ∈ root.1.declaredNames, Ascii key) :
    let names := (Declarations.ofRoots roots).items.map Item.name
    (∀ name ∈ names, name ≠ "Self" → IsIdentifier name) ∧
    (∀ word ∈ "Self" :: borrowedWords, word ∈ names ↔ ∃ root ∈ roots, typeIdent root.2 = word) ∧
    ((∀ name ∈ names, IsIdentifier name ∧ name ∉ borrowedWords) ↔
      ∀ root ∈ roots, typeIdent root.2 ∉ "Self" :: borrowedWords) := by
  intro names
  have hcamel : ∀ root ∈ roots.map fun root => typeIdent root.2, IsCamelWord root.toList := by
    intro name hn
    obtain ⟨root, hr, rfl⟩ := List.mem_map.mp hn
    exact isCamelWord_typeIdent (h root hr).1
  -- a name is that of a root, or has something added to it
  have hnames : ∀ name ∈ names, name ∈ (roots.map fun root => typeIdent root.2) ∨ IsCompound name.toList := by
    intro name hn
    obtain ⟨item, hi, rfl⟩ := List.mem_map.mp hn
    refine (closed_compound hcamel).ofRoots (fun root hr => ⟨.inl ?_, (h root hr).2⟩) item hi
    exact List.mem_map.mpr ⟨root, hr, rfl⟩
  have hident : ∀ name ∈ names, name ≠ "Self" → IsIdentifier name := fun name hn =>
    ((hnames name hn).elim (hcamel name) IsCompound.camel).isIdentifier rfl
  -- what has something added to it is none of the words
  have hword : ∀ word ∈ "Self" :: borrowedWords, word ∈ names ↔ ∃ root ∈ roots, typeIdent root.2 = word := by
    intro word hw
    constructor
    · intro hn
      exact List.mem_map.mp ((hnames word hn).resolve_right (not_compound_of_mem hw))
    · rintro ⟨root, hr, rfl⟩
      exact Declarations.typeIdent_mem_names hr
  refine ⟨hident, hword, fun hall root hr hm => ?_, fun hall name hn => ?_⟩
  · obtain ⟨hi, hb⟩ := hall _ (Declarations.typeIdent_mem_names hr)
    rcases List.mem_cons.mp hm with he | hm
    · exact not_isIdentifier_Self (he ▸ hi)
    · exact hb hm
  · have hfree : name ∉ "Self" :: borrowedWords := by
      intro hm
      obtain ⟨root, hr, rfl⟩ := (hword name hm).mp hn
      exact hall root hr hm
    exact ⟨hident name hn fun he => hfree (he ▸ List.mem_cons_self), fun hb => hfree (List.mem_cons_of_mem _ hb)⟩

/-- A path and a number that come near to words of the file. -/
theorem declared_words_sample :
    let roots : List (Schema × String) :=
      [(.construct [("tion", .array (.construct []))], "op"), (.nullable (.construct []), "result 2")]
    let names := (Declarations.ofRoots roots).items.map Item.name
    (∀ root ∈ roots, Ascii root.2 ∧ ∀ key ∈ root.1.declaredNames, Ascii key) ∧
      names = ["Op", "OpTionItem", "Result2", "Result22"] ∧
      ∀ name ∈ names, IsIdentifier name ∧ name ∉ borrowedWords := by
  intro roots names
  have hwords : ∀ word ∈ ["op", "result 2", "tion"], Ascii word := by decide
  have hascii : ∀ root ∈ roots, Ascii root.2 ∧ ∀ key ∈ root.1.declaredNames, Ascii key := by
    refine List.forall_mem_cons.mpr ⟨⟨hwords _ (by simp), fun key hk => hwords key ?_⟩,
      List.forall_mem_singleton.mpr ⟨hwords _ (by simp), List.forall_mem_nil _⟩⟩
    obtain rfl := List.mem_singleton.mp hk
    simp
  have hfree : ∀ root ∈ roots, typeIdent root.2 ∉ "Self" :: borrowedWords := by
    simp only [roots, List.forall_mem_cons]
    decide
  exact ⟨hascii, by decide, (declared_words roots hascii).2.2.mpr hfree⟩

/-- The names of roots are not kept from being words of the file: a root can declare `String` by itself, and a
record can be called `Self`. -/
theorem borrowed_word_declared :
    let file := Declarations.ofRoots [(.string, "string"), (.construct [("a", .string)], "self")]
    Ascii "string" ∧ Ascii "self" ∧ file.items.map Item.name = ["String", "Self"] ∧
      file.items.head?.map Item.text = some "pub type String = String;\n" := by
  decide

end JsonShape

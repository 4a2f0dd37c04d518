import JsonShape.Json.Reader
import JsonShape.Proofs.Json.Numbers
import JsonShape.Proofs.Json.Strings

/-!
# How documents are spelled

`Spells document text` is the grammar of JSON: which texts, without blanks around them, are texts of a
document, with any blanks between its parts, any escapes in its strings and names, and any way to write its
numbers.  Members stand in the order of the document, and a name that is repeated stands there as often.

The lemmas after the grammar say what the small readers take of such a text, between values and around them,
and the other way round what they have taken once they succeed.
-/

namespace JsonShape

open Json

/-! ## The grammar -/

/-- The characters between values that mean nothing. -/
def IsBlank (c : Char) : Prop := c = ' ' ∨ c = '\n' ∨ c = '\t' ∨ c = '\r'

/-- Nothing but blanks. -/
def Blank (text : List Char) : Prop := ∀ c ∈ text, IsBlank c

/-- What can follow a value: nothing, a blank, a comma or a closing bracket. -/
def AfterValue (after : List Char) : Prop :=
  ∀ c rest, after = c :: rest → IsBlank c ∨ c = ',' ∨ c = ']' ∨ c = '\x7d'

/-- What the text of a value begins with: neither a blank nor a closing bracket. -/
def BeginsValue (text : List Char) : Prop :=
  ∃ c rest, text = c :: rest ∧ ¬ IsBlank c ∧ c ≠ ']'

/-- What stands before an entry of an array or object: blanks, with a comma among them unless it is the
first one. -/
inductive Separates : Bool → List Char → Prop
  | first {blanks : List Char} (h : Blank blanks) : Separates true blanks
  | next {before after : List Char} (hb : Blank before) (ha : Blank after) :
      Separates false (before ++ ',' :: after)

/-- The text of a number: it begins as a value does, and the reader takes all of it for this number. -/
def SpellsNumber (n : Number) (text : List Char) : Prop :=
  BeginsValue text ∧ value 0 text = .ok (.number n, [])

mutual

/-- `text` is a text of the document, with no blanks around it. -/
inductive Spells : Json → List Char → Prop
  | null : Spells .null ['n', 'u', 'l', 'l']
  | isTrue : Spells (.bool true) ['t', 'r', 'u', 'e']
  | isFalse : Spells (.bool false) ['f', 'a', 'l', 's', 'e']
  | number {n : Number} {text : List Char} (h : SpellsNumber n text) : Spells (.number n) text
  | string {s : String} {body : List Char} (h : SpellsBody s.toList body) : Spells (.string s) ('"' :: body)
  | array {items : List Json} {inside : List Char} (h : SpellsItems true items inside) :
      Spells (.array items) ('[' :: inside)
  | object {members : List (String × Json)} {inside : List Char} (h : SpellsMembers true members inside) :
      Spells (.object members) ('\x7b' :: inside)

/-- The elements of an array up to its closing bracket, of which the first has no comma before it. -/
inductive SpellsItems : Bool → List Json → List Char → Prop
  | close {first : Bool} {blanks : List Char} (h : Blank blanks) : SpellsItems first [] (blanks ++ [']'])
  | item {first : Bool} {item : Json} {rest : List Json} {before text more : List Char}
      (hb : Separates first before) (ht : Spells item text) (hm : SpellsItems false rest more) :
      SpellsItems first (item :: rest) (before ++ (text ++ more))

/-- The members of an object up to its closing brace, of which the first has no comma before it. -/
inductive SpellsMembers : Bool → List (String × Json) → List Char → Prop
  | close {first : Bool} {blanks : List Char} (h : Blank blanks) :
      SpellsMembers first [] (blanks ++ ['\x7d'])
  | member {first : Bool} {name : String} {value : Json} {rest : List (String × Json)}
      {before body gap space text more : List Char} (hb : Separates first before)
      (hn : SpellsBody name.toList body) (hg : Blank gap) (hs : Blank space) (ht : Spells value text)
      (hm : SpellsMembers false rest more) :
      SpellsMembers first ((name, value) :: rest)
        (before ++ '"' :: (body ++ (gap ++ ':' :: (space ++ (text ++ more)))))

end

/-- `text` is a text of the document as a whole, with blanks around it. -/
def SpellsWhole (document : Json) (text : List Char) : Prop :=
  ∃ before spelled after, Blank before ∧ Spells document spelled ∧ Blank after ∧
    text = before ++ (spelled ++ after)

/-! ## Blanks -/

theorem skipBlanks_append {blanks : List Char} (h : ∀ c ∈ blanks, IsBlank c) (text : List Char) :
    skipBlanks (blanks ++ text) = skipBlanks text := by
  induction blanks with
  | nil => rfl
  | cons c rest ih =>
    obtain ⟨hc, hrest⟩ := List.forall_mem_cons.mp h
    rw [List.cons_append, skipBlanks]
    exact (if_pos hc).trans (ih hrest)

theorem skipBlanks_cons {c : Char} (h : ¬ IsBlank c) (rest : List Char) :
    skipBlanks (c :: rest) = c :: rest := by
  rw [skipBlanks]
  exact if_neg h

theorem Blank.append {text more : List Char} (h : Blank text) (h' : Blank more) : Blank (text ++ more) := by
  intro c hc
  rcases List.mem_append.mp hc with hc | hc
  · exact h c hc
  · exact h' c hc

theorem blank_nil : Blank [] := by simp [Blank]

/-- A text is blanks and what comes after them, which does not begin with one. -/
theorem exists_blanks (text : List Char) :
    ∃ blanks, Blank blanks ∧ text = blanks ++ skipBlanks text := by
  induction text with
  | nil => exact ⟨[], blank_nil, rfl⟩
  | cons c rest ih =>
    by_cases hc : IsBlank c
    · obtain ⟨blanks, hblanks, htext⟩ := ih
      have hskip : skipBlanks (c :: rest) = skipBlanks rest := if_pos hc
      refine ⟨c :: blanks, List.forall_mem_cons.mpr ⟨hc, hblanks⟩, ?_⟩
      rw [hskip, List.cons_append, ← htext]
    · rw [skipBlanks_cons hc]
      exact ⟨[], blank_nil, rfl⟩

theorem skipBlanks_eq_nil_iff {text : List Char} : skipBlanks text = [] ↔ Blank text := by
  constructor
  · intro h
    obtain ⟨blanks, hblanks, htext⟩ := exists_blanks text
    rw [h, List.append_nil] at htext
    exact htext ▸ hblanks
  · intro h
    have hskip := skipBlanks_append h []
    rwa [List.append_nil] at hskip

theorem Separates.append {first : Bool} {before blanks : List Char} (h : Separates first before)
    (hb : Blank blanks) : Separates first (before ++ blanks) := by
  cases h with
  | first h => exact .first (h.append hb)
  | next hbefore hafter =>
    rw [List.append_assoc, List.cons_append]
    exact .next hbefore (hafter.append hb)

/-! ## Looking for the next entry -/

theorem nextItem_spelled {first : Bool} {before text : List Char} (hb : Separates first before)
    (h : BeginsValue text) : nextItem first (before ++ text) = .ok (.entry text) := by
  obtain ⟨c, rest, rfl, hblank, hbracket⟩ := h
  cases hb with
  | first hb =>
    rw [nextItem, skipBlanks_append hb, skipBlanks_cons hblank]
    simp [hbracket]
  | next hb ha =>
    rw [List.append_assoc, List.cons_append, nextItem, skipBlanks_append hb,
      skipBlanks_cons (by simp [IsBlank])]
    simp [skipBlanks_append ha, skipBlanks_cons hblank, hbracket]

theorem close_of_nextItem {first : Bool} {text rest : List Char}
    (h : nextItem first text = .ok (.finish rest)) :
    ∃ blanks more, Blank blanks ∧ rest = ']' :: more ∧ text = blanks ++ rest := by
  obtain ⟨blanks, hblanks, htext⟩ := exists_blanks text
  unfold nextItem at h
  split at h
  · cases h
  · rename_i c more hskip
    by_cases hc : c = ']'
    · rw [if_pos hc] at h
      cases h
      exact ⟨blanks, more, hblanks, by rw [hc], by rw [← hskip]; exact htext⟩
    · -- nothing but the bracket finishes an array
      rw [if_neg hc] at h
      split at h
      · cases h
      · split at h
        · split at h
          · cases h
          · split at h <;> cases h
        · cases h

theorem separates_of_nextItem {first : Bool} {text rest : List Char}
    (h : nextItem first text = .ok (.entry rest)) : ∃ before, Separates first before ∧ text = before ++ rest := by
  obtain ⟨blanks, hblanks, htext⟩ := exists_blanks text
  unfold nextItem at h
  split at h
  · cases h
  · rename_i c more hskip
    split at h
    · cases h
    · split at h
      · -- the first element has no comma before it
        rename_i hfirst
        cases h
        subst hfirst
        exact ⟨blanks, .first hblanks, by rw [← hskip]; exact htext⟩
      · rename_i hfirst
        rw [Bool.not_eq_true] at hfirst
        subst hfirst
        -- a comma is due, and blanks may stand on both sides of it
        split at h
        · rename_i hcomma
          obtain ⟨space, hspace, hmore⟩ := exists_blanks more
          split at h
          · cases h
          · rename_i hskip'
            split at h
            · cases h
            · cases h
              refine ⟨blanks ++ ',' :: space, .next hblanks hspace, ?_⟩
              rw [List.append_assoc, List.cons_append, ← hskip', ← hmore, htext, hskip, hcomma]
        · cases h

theorem nameStart_eq_ok {text : List Char} {next : Next} (h : nameStart text = .ok next) :
    ∃ rest, next = .entry rest ∧ text = '"' :: rest := by
  unfold nameStart at h
  split at h
  · cases h
  · rename_i c rest
    split at h
    · rename_i hquote
      cases h
      exact ⟨rest, rfl, by rw [hquote]⟩
    · split at h <;> cases h

theorem nextName_spelled {first : Bool} {before : List Char} (hb : Separates first before)
    (rest : List Char) : nextName first (before ++ '"' :: rest) = .ok (.entry rest) := by
  cases hb with
  | first hb =>
    rw [nextName, skipBlanks_append hb, skipBlanks_cons (by simp [IsBlank])]
    simp [nameStart]
  | next hb ha =>
    rw [List.append_assoc, List.cons_append, nextName, skipBlanks_append hb,
      skipBlanks_cons (by simp [IsBlank])]
    simp [skipBlanks_append ha, skipBlanks_cons, IsBlank, nameStart]

theorem close_of_nextName {first : Bool} {text rest : List Char}
    (h : nextName first text = .ok (.finish rest)) :
    ∃ blanks more, Blank blanks ∧ rest = '\x7d' :: more ∧ text = blanks ++ rest := by
  obtain ⟨blanks, hblanks, htext⟩ := exists_blanks text
  -- the start of a name never finishes an object
  have hstart : ∀ text, nameStart text ≠ .ok (.finish rest) := by
    intro text h
    obtain ⟨_, hnext, -⟩ := nameStart_eq_ok h
    cases hnext
  unfold nextName at h
  split at h
  · cases h
  · rename_i c more hskip
    by_cases hc : c = '\x7d'
    · rw [if_pos hc] at h
      cases h
      exact ⟨blanks, more, hblanks, by rw [hc], by rw [← hskip]; exact htext⟩
    · rw [if_neg hc] at h
      split at h
      · exact absurd h (hstart _)
      · split at h
        · exact absurd h (hstart _)
        · cases h

theorem separates_of_nextName {first : Bool} {text rest : List Char}
    (h : nextName first text = .ok (.entry rest)) :
    ∃ before, Separates first before ∧ text = before ++ '"' :: rest := by
  -- as for an element, but a name begins with a quotation mark
  obtain ⟨blanks, hblanks, htext⟩ := exists_blanks text
  unfold nextName at h
  split at h
  · cases h
  · rename_i c more hskip
    split at h
    · cases h
    · split at h
      · rename_i hfirst
        obtain ⟨_, hnext, hquote⟩ := nameStart_eq_ok h
        cases hnext
        subst hfirst
        exact ⟨blanks, .first hblanks, by rw [← hquote, ← hskip]; exact htext⟩
      · rename_i hfirst
        rw [Bool.not_eq_true] at hfirst
        subst hfirst
        split at h
        · rename_i hcomma
          obtain ⟨space, hspace, hmore⟩ := exists_blanks more
          obtain ⟨_, hnext, hquote⟩ := nameStart_eq_ok h
          cases hnext
          refine ⟨blanks ++ ',' :: space, .next hblanks hspace, ?_⟩
          rw [List.append_assoc, List.cons_append, ← hquote, ← hmore, htext, hskip, hcomma]
        · cases h

theorem colon_spelled {gap : List Char} (h : Blank gap) (rest : List Char) :
    colon (gap ++ ':' :: rest) = .ok rest := by
  rw [colon, skipBlanks_append h, skipBlanks_cons (by simp [IsBlank])]
  rfl

theorem gap_of_colon {text rest : List Char} (h : colon text = .ok rest) :
    ∃ gap, Blank gap ∧ text = gap ++ ':' :: rest := by
  obtain ⟨gap, hgap, htext⟩ := exists_blanks text
  unfold colon at h
  split at h
  · cases h
  · rename_i c more hskip
    split at h
    · rename_i hcolon
      cases h
      exact ⟨gap, hgap, by rw [htext, hskip, hcolon]⟩
    · cases h

/-! ## What stands around a value -/

theorem AfterValue.endsNumber {after : List Char} (h : AfterValue after) : EndsNumber after := by
  intro c rest he
  rcases h c rest he with (rfl | rfl | rfl | rfl) | rfl | rfl | rfl
  all_goals exact ⟨rfl, by decide, rfl⟩

theorem Spells.whole {document : Json} {text : List Char} (h : Spells document text) :
    SpellsWhole document text :=
  ⟨[], text, [], blank_nil, h, blank_nil, by simp⟩

theorem BeginsValue.append {text : List Char} (h : BeginsValue text) (rest : List Char) :
    BeginsValue (text ++ rest) := by
  obtain ⟨c, others, rfl, hc⟩ := h
  exact ⟨c, others ++ rest, rfl, hc⟩

theorem Spells.begins {document : Json} {text : List Char} (h : Spells document text) :
    BeginsValue text := by
  cases h with
  | number h => exact h.1
  | null => exact ⟨'n', _, rfl, by simp [IsBlank], by decide⟩
  | isTrue => exact ⟨'t', _, rfl, by simp [IsBlank], by decide⟩
  | isFalse => exact ⟨'f', _, rfl, by simp [IsBlank], by decide⟩
  | string h => exact ⟨'"', _, rfl, by simp [IsBlank], by decide⟩
  | array h => exact ⟨'[', _, rfl, by simp [IsBlank], by decide⟩
  | object h => exact ⟨'\x7b', _, rfl, by simp [IsBlank], by decide⟩

theorem afterValue_blank {blanks : List Char} (h : Blank blanks) {c : Char}
    (hc : c = ',' ∨ c = ']' ∨ c = '\x7d') (rest : List Char) : AfterValue (blanks ++ c :: rest) := by
  intro c' rest' he
  cases blanks with
  | nil =>
    obtain ⟨rfl, -⟩ := List.cons.inj he
    exact .inr hc
  | cons blank others =>
    obtain ⟨rfl, -⟩ := List.cons.inj he
    exact .inl (h _ List.mem_cons_self)

theorem Blank.afterValue {text : List Char} (h : Blank text) : AfterValue text := by
  rintro c rest rfl
  exact .inl (h c List.mem_cons_self)

theorem Separates.afterValue {before : List Char} (h : Separates false before) (rest : List Char) :
    AfterValue (before ++ rest) := by
  cases h with
  | next hb ha =>
    rw [List.append_assoc]
    exact afterValue_blank hb (.inl rfl) _

theorem SpellsItems.afterValue {items : List Json} {inside : List Char}
    (h : SpellsItems false items inside) (after : List Char) : AfterValue (inside ++ after) := by
  cases h with
  | close h =>
    rw [List.append_assoc]
    exact afterValue_blank h (.inr (.inl rfl)) _
  | item hb _ _ =>
    rw [List.append_assoc]
    exact hb.afterValue _

theorem SpellsMembers.afterValue {members : List (String × Json)} {inside : List Char}
    (h : SpellsMembers false members inside) (after : List Char) : AfterValue (inside ++ after) := by
  cases h with
  | close h =>
    rw [List.append_assoc]
    exact afterValue_blank h (.inr (.inr rfl)) _
  | member hb _ _ _ _ _ =>
    rw [List.append_assoc]
    exact hb.afterValue _

end JsonShape

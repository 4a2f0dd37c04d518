import JsonShape.Proofs.Json.Reading

/-!
# Documents that are written and read

A `Layout` says which blanks stand before an element or a closing bracket, and which after a colon.
`Layout.text` writes a document in a layout; `Layout.lines` is the one with one member or element a line.

In any layout the text is one of the document's texts (`Layout.spells_text`), as long as its numbers read back.
-/

namespace JsonShape

open Json

/-! ## Layouts -/

/-- The blanks before an element, by the level that it stands at, and after a colon. -/
structure Layout where
  gap : Nat → List Char
  space : List Char
  blank_gap : ∀ level, ∀ c ∈ gap level, IsBlank c
  blank_space : ∀ c ∈ space, IsBlank c

namespace Layout

/-- What stands before an element or member: a comma, unless it is the first, and the gap. -/
def before (layout : Layout) (first : Bool) (level : Nat) : List Char :=
  if first then layout.gap level else ',' :: layout.gap level

/-- What stands before a closing bracket; nothing in an empty array or object. -/
def closing (layout : Layout) (empty : Bool) (level : Nat) : List Char :=
  if empty then [] else layout.gap level

mutual

/-- The text of a document at a level. -/
def text (layout : Layout) (level : Nat) : Json → List Char
  | .null => ['n', 'u', 'l', 'l']
  | .bool true => ['t', 'r', 'u', 'e']
  | .bool false => ['f', 'a', 'l', 's', 'e']
  | .number n => n.text.toList
  | .string s => (quoted s).toList
  | .array items =>
    '[' :: (itemsText layout true (level + 1) items ++ (layout.closing items.isEmpty level ++ [']']))
  | .object members =>
    '\x7b' ::
      (membersText layout true (level + 1) members ++ (layout.closing members.isEmpty level ++ ['\x7d']))

/-- The text of elements, of which the first has no comma before it. -/
def itemsText (layout : Layout) (first : Bool) (level : Nat) : List Json → List Char
  | [] => []
  | item :: rest => layout.before first level ++ (text layout level item ++ itemsText layout false level rest)

/-- The text of members, of which the first has no comma before it. -/
def membersText (layout : Layout) (first : Bool) (level : Nat) : List (String × Json) → List Char
  | [] => []
  | (name, value) :: rest =>
    layout.before first level ++ ((quoted name).toList ++
      (':' :: (layout.space ++ (text layout level value ++ membersText layout false level rest))))

end

theorem blank_closing (layout : Layout) (empty : Bool) (level : Nat) :
    ∀ c ∈ layout.closing empty level, IsBlank c := by
  cases empty with
  | true => simp [closing]
  | false => exact layout.blank_gap level

/-- A line break and the indentation before each element, and a blank after a colon. -/
def lines : Layout where
  gap level := '\n' :: List.replicate (2 * level) ' '
  space := [' ']
  blank_gap level c hc := by
    rcases List.mem_cons.mp hc with rfl | hc
    · exact .inr (.inl rfl)
    · exact .inl (List.eq_of_mem_replicate hc)
  blank_space c hc := .inl (List.mem_singleton.mp hc)

/-- The document with one member or element a line is in the layout of lines. -/
theorem text_lines (document : Json) (level : Nat) :
    (prettyAt level document).toList = lines.text level document := by
  induction document generalizing level with
  | null => simp [prettyAt, text]
  | bool b => cases b <;> simp [prettyAt, text]
  | number n => rw [prettyAt, text]
  | string s => rw [prettyAt, text]
  | array items ih =>
    -- the elements after the first; the first one has no comma before it
    have hitems : ∀ items : List Json, (∀ item ∈ items, ∀ level,
        (prettyAt level item).toList = lines.text level item) →
          (prettyItems (level + 1) items).toList = lines.itemsText false (level + 1) items := by
      intro items h
      induction items with
      | nil => simp [prettyItems, itemsText]
      | cons item rest ihr =>
        obtain ⟨hitem, hrest⟩ := List.forall_mem_cons.mp h
        simp [prettyItems, itemsText, before, hitem, ihr hrest, newline, lines]
    cases items with
    | nil => simp [prettyAt, text, itemsText, closing]
    | cons item rest =>
      obtain ⟨hitem, hrest⟩ := List.forall_mem_cons.mp ih
      simp [prettyAt, text, itemsText, before, closing, hitem, hitems rest hrest, newline, lines]
  | object members ih =>
    have hmembers : ∀ members : List (String × Json), (∀ member ∈ members, ∀ level,
        (prettyAt level member.2).toList = lines.text level member.2) →
          (prettyMembers (level + 1) members).toList = lines.membersText false (level + 1) members := by
      intro members h
      induction members with
      | nil => simp [prettyMembers, membersText]
      | cons member rest ihr =>
        obtain ⟨hmember, hrest⟩ := List.forall_mem_cons.mp h
        simp [prettyMembers, membersText, before, hmember, ihr hrest, newline, lines]
    cases members with
    | nil => simp [prettyAt, text, membersText, closing]
    | cons member rest =>
      obtain ⟨hmember, hrest⟩ := List.forall_mem_cons.mp ih
      simp [prettyAt, text, membersText, before, closing, hmember, hmembers rest hrest, newline, lines]

end Layout

/-! ## A layout is a spelling -/

/-- A number whose text begins like one and reads back. -/
def Number.Legible (n : Number) : Prop :=
  BeginsValue n.text.toList ∧ ∀ levels after, AfterValue after →
    value levels (n.text.toList ++ after) = .ok (.number n, after)

theorem Number.Legible.spells {n : Number} (h : n.Legible) : SpellsNumber n n.text.toList := by
  obtain ⟨hbegins, hread⟩ := h
  have hall := hread 0 [] (by simp [AfterValue])
  rw [List.append_nil] at hall
  exact ⟨hbegins, hall⟩

namespace Layout

theorem separates_before (layout : Layout) (first : Bool) (level : Nat) :
    Separates first (layout.before first level) := by
  cases first with
  | true => exact .first (layout.blank_gap level)
  | false => exact .next blank_nil (layout.blank_gap level)

theorem spellsItems_itemsText (layout : Layout) (level : Nat) {items read : List Json}
    (h : List.Forall₂ (fun item other => Spells other (layout.text level item)) items read) (first : Bool)
    {blanks : List Char} (hb : Blank blanks) :
    SpellsItems first read (layout.itemsText first level items ++ (blanks ++ [']'])) := by
  induction h generalizing first with
  | nil => exact .close hb
  | cons hitem _ ih =>
    rw [itemsText, List.append_assoc, List.append_assoc]
    exact .item (layout.separates_before first level) hitem (ih false)

theorem spellsMembers_membersText (layout : Layout) (level : Nat) {members read : List (String × Json)}
    (h : List.Forall₂ (fun member other => other.1 = member.1 ∧ Spells other.2 (layout.text level member.2))
      members read) (first : Bool) {blanks : List Char} (hb : Blank blanks) :
    SpellsMembers first read (layout.membersText first level members ++ (blanks ++ ['\x7d'])) := by
  induction h generalizing first with
  | nil => exact .close hb
  | @cons member other _ _ hmember _ ih =>
    obtain ⟨name, value⟩ := member
    obtain ⟨same, seen⟩ := other
    obtain ⟨rfl, hvalue⟩ := hmember
    obtain ⟨body, hbody, hquoted⟩ := quoted_toList same
    have hread := SpellsMembers.member (layout.separates_before first level) hbody blank_nil
      layout.blank_space hvalue (ih false)
    simpa [membersText, hquoted] using hread

/-- In any layout, the text of a document whose numbers read back is a text of that document. -/
theorem spells_text (layout : Layout) (level : Nat) {document : Json}
    (h : ∀ n ∈ document.numbers, n.Legible) : Spells document (layout.text level document) := by
  induction document generalizing level with
  | null => exact .null
  | bool b =>
    cases b with
    | true => exact .isTrue
    | false => exact .isFalse
  -- only here it matters that numbers read back
  | number n => exact .number (h n (by simp [numbers])).spells
  | string s =>
    obtain ⟨body, hbody, hquoted⟩ := quoted_toList s
    rw [text, hquoted]
    exact .string hbody
  | array items ih =>
    have hitems : ∀ item ∈ items, Spells item (layout.text (level + 1) item) := fun item hi =>
      ih item hi (level + 1) fun n hn => h n (mem_numbers_array.mpr ⟨item, hi, hn⟩)
    exact .array (layout.spellsItems_itemsText (level + 1) (List.forall₂_same.mpr hitems) true
      (layout.blank_closing _ level))
  | object members ih =>
    have hmembers : ∀ member ∈ members, member.1 = member.1 ∧ Spells member.2 (layout.text (level + 1) member.2) :=
      fun member hm =>
        ⟨rfl, ih member hm (level + 1) fun n hn => h n (mem_numbers_object.mpr ⟨member, hm, hn⟩)⟩
    exact .object (layout.spellsMembers_membersText (level + 1) (List.forall₂_same.mpr hmembers) true
      (layout.blank_closing _ level))

end Layout

end JsonShape

import JsonShape.Proofs.Json.Layout
import JsonShape.Proofs.Json.WrittenNumbers
import JsonShape.Proofs.Text.Unbroken

/-!
# Documents on one line

`Json.compact` writes a document in the layout without any blanks (`Layout.text_tight`), and so without a line
break (`unbroken_compact`).  Where whole numbers have 64 bits, the text is one of the texts of a document, which may
differ in its doubles but has as many levels (`Layout.exists_spells_text`).
-/

namespace JsonShape

open Json

/-- A number whose text is read as the number can be read anywhere. -/
theorem SpellsNumber.legible {n : Number} (h : SpellsNumber n n.text.toList) : n.Legible :=
  ⟨h.1, fun levels _ ha => value_spelledNumber h levels ha⟩

/-! ## Line breaks -/

theorem Numeric.unbroken {text : List Char} (h : Numeric text) : Unbroken text := fun hm => by
  cases h '\n' hm

theorem unbroken_number (n : Number) : Unbroken n.text.toList := (numeric_text n).unbroken

theorem unbroken_escaped (c : Char) : Unbroken (escaped c) := by
  unfold escaped
  split
  · decide
  · decide
  · decide
  · decide
  · decide
  · decide
  · decide
  · rename_i hnewline _ _ _ _
    by_cases hc : c.toNat < 0x20
    · have hfirst := digitChar_ne_newline (c.toNat / 16) (by omega)
      have hsecond := digitChar_ne_newline (c.toNat % 16) (by omega)
      have hdigits := Unbroken.cons hfirst (.cons hsecond .nil)
      rw [if_pos hc]
      exact Unbroken.append (by decide : Unbroken ['\\', 'u', '0', '0']) hdigits
    · rw [if_neg hc]
      exact .cons hnewline .nil

theorem unbroken_quoted (s : String) : Unbroken (quoted s).toList := by
  have hbody : Unbroken (s.toList.flatMap escaped) := .flatMap fun c _ => unbroken_escaped c
  rw [quoted, String.toList_ofList]
  exact (Unbroken.cons (by decide) hbody).append (by decide)

namespace Layout

/-- A layout all of whose blanks are on one line. -/
def OneLine (layout : Layout) : Prop := (∀ level, Unbroken (layout.gap level)) ∧ Unbroken layout.space

variable {layout : Layout}

theorem OneLine.before (h : layout.OneLine) (first : Bool) (level : Nat) :
    Unbroken (layout.before first level) := by
  cases first with
  | true => exact h.1 level
  | false => exact .cons (by decide) (h.1 level)

theorem OneLine.closing (h : layout.OneLine) (empty : Bool) (level : Nat) :
    Unbroken (layout.closing empty level) := by
  cases empty with
  | true => exact .nil
  | false => exact h.1 level

theorem OneLine.itemsText (h : layout.OneLine) (level : Nat) {items : List Json}
    (hitems : ∀ item ∈ items, Unbroken (layout.text level item)) (first : Bool) :
    Unbroken (layout.itemsText first level items) := by
  induction items generalizing first with
  | nil => exact .nil
  | cons item rest ih =>
    obtain ⟨hitem, hrest⟩ := List.forall_mem_cons.mp hitems
    exact (h.before first level).append (hitem.append (ih hrest false))

theorem OneLine.membersText (h : layout.OneLine) (level : Nat) {members : List (String × Json)}
    (hmembers : ∀ member ∈ members, Unbroken (layout.text level member.2)) (first : Bool) :
    Unbroken (layout.membersText first level members) := by
  induction members generalizing first with
  | nil => exact .nil
  | cons member rest ih =>
    obtain ⟨hmember, hrest⟩ := List.forall_mem_cons.mp hmembers
    have hvalue := Unbroken.cons (by decide : ':' ≠ '\n') (h.2.append (hmember.append (ih hrest false)))
    exact (h.before first level).append ((unbroken_quoted member.1).append hvalue)

/-- A document is on one line in a layout that is. -/
theorem OneLine.text (h : layout.OneLine) (level : Nat) (document : Json) :
    Unbroken (layout.text level document) := by
  induction document generalizing level with
  | null => exact (by decide : Unbroken ['n', 'u', 'l', 'l'])
  | bool b =>
    cases b with
    | true => exact (by decide : Unbroken ['t', 'r', 'u', 'e'])
    | false => exact (by decide : Unbroken ['f', 'a', 'l', 's', 'e'])
  | number n => exact unbroken_number n
  | string s => exact unbroken_quoted s
  | array items ih =>
    have hitems : ∀ item ∈ items, Unbroken (layout.text (level + 1) item) := fun item hi => ih item hi (level + 1)
    have hclosing := (h.closing items.isEmpty level).append (by decide : Unbroken [']'])
    exact .cons (by decide) ((h.itemsText (level + 1) hitems true).append hclosing)
  | object members ih =>
    have hmembers : ∀ member ∈ members, Unbroken (layout.text (level + 1) member.2) :=
      fun member hm => ih member hm (level + 1)
    have hclosing := (h.closing members.isEmpty level).append (by decide : Unbroken ['\x7d'])
    exact .cons (by decide) ((h.membersText (level + 1) hmembers true).append hclosing)

/-! ## The layout without blanks -/

/-- No blanks at all. -/
def tight : Layout where
  gap _ := []
  space := []
  blank_gap _ _ hc := absurd hc List.not_mem_nil
  blank_space _ hc := absurd hc List.not_mem_nil

theorem oneLine_tight : tight.OneLine := ⟨fun _ => .nil, .nil⟩

/-- The compact text of a document is in the layout without blanks. -/
theorem text_tight (document : Json) (level : Nat) : document.compact.toList = tight.text level document := by
  induction document generalizing level with
  | null => simp [compact, text]
  | bool b => cases b <;> simp [compact, text]
  | number n => rw [compact, text]
  | string s => rw [compact, text]
  -- the printer writes a separator in front of all elements but the first, the layout asks whether it is the
  -- first
  | array items ih =>
    have hitems : ∀ items : List Json, (∀ item ∈ items, ∀ level,
        item.compact.toList = tight.text level item) →
          (compactItems items).toList = tight.itemsText false (level + 1) items := by
      intro items h
      induction items with
      | nil => simp [compactItems, Layout.itemsText]
      | cons item rest ihr =>
        obtain ⟨hitem, hrest⟩ := List.forall_mem_cons.mp h
        simp [compactItems, Layout.itemsText, Layout.before, hitem (level + 1), ihr hrest, tight]
    cases items with
    | nil => simp [compact, text, Layout.itemsText, Layout.closing]
    | cons item rest =>
      obtain ⟨hitem, hrest⟩ := List.forall_mem_cons.mp ih
      simp [compact, text, Layout.itemsText, Layout.before, Layout.closing, hitem (level + 1), hitems rest hrest,
        tight]
  | object members ih =>
    have hmembers : ∀ members : List (String × Json), (∀ member ∈ members, ∀ level,
        member.2.compact.toList = tight.text level member.2) →
          (compactMembers members).toList = tight.membersText false (level + 1) members := by
      intro members h
      induction members with
      | nil => simp [compactMembers, Layout.membersText]
      | cons member rest ihr =>
        obtain ⟨hmember, hrest⟩ := List.forall_mem_cons.mp h
        simp [compactMembers, Layout.membersText, Layout.before, hmember (level + 1), ihr hrest, tight]
    cases members with
    | nil => simp [compact, text, Layout.membersText, Layout.closing]
    | cons member rest =>
      obtain ⟨hmember, hrest⟩ := List.forall_mem_cons.mp ih
      simp [compact, text, Layout.membersText, Layout.before, Layout.closing, hmember (level + 1),
        hmembers rest hrest, tight]

/-! ## What is read of a text -/

theorem nestingItems_congr {items read : List Json}
    (h : List.Forall₂ (fun item other : Json => other.nesting = item.nesting) items read) :
    nestingItems read = nestingItems items := by
  induction h with
  | nil => rfl
  | cons hitem _ ih => rw [nestingItems, nestingItems, hitem, ih]

theorem nestingMembers_congr {members read : List (String × Json)}
    (h : List.Forall₂ (fun member other => other.2.nesting = member.2.nesting) members read) :
    nestingMembers read = nestingMembers members := by
  induction h with
  | nil => rfl
  | cons hmember _ ih => rw [nestingMembers, nestingMembers, hmember, ih]

/-- Whatever doubles there are in a document, its text is the text of a document with as many levels. -/
theorem exists_spells_text (layout : Layout) (level : Nat) {document : Json}
    (h : ∀ n ∈ document.numbers, n.FitsWord) :
    ∃ read, Spells read (layout.text level document) ∧ read.nesting = document.nesting := by
  induction document generalizing level with
  -- a double may be read as another one, so the document that is read is chosen element by element
  | number n =>
    obtain ⟨m, hm⟩ := exists_spellsNumber (h n (by simp [numbers]))
    exact ⟨.number m, .number hm, rfl⟩
  | array items ih =>
    obtain ⟨read, hread⟩ := exists_forall₂ fun item hi =>
      ih item hi (level + 1) fun n hn => h n (mem_numbers_array.mpr ⟨item, hi, hn⟩)
    have hitems := layout.spellsItems_itemsText (level + 1) (hread.imp fun _ _ hr => hr.1) true
      (layout.blank_closing items.isEmpty level)
    exact ⟨.array read, .array hitems, congrArg (· + 1) (nestingItems_congr (hread.imp fun _ _ hr => hr.2))⟩
  | object members ih =>
    have hvalues : ∀ member ∈ members, ∃ other : String × Json, other.1 = member.1 ∧
        Spells other.2 (layout.text (level + 1) member.2) ∧ other.2.nesting = member.2.nesting := by
      intro member hm
      obtain ⟨value, hvalue⟩ := ih member hm (level + 1) fun n hn =>
        h n (mem_numbers_object.mpr ⟨member, hm, hn⟩)
      exact ⟨(member.1, value), rfl, hvalue⟩
    obtain ⟨read, hread⟩ := exists_forall₂ hvalues
    have hmembers := layout.spellsMembers_membersText (level + 1) (hread.imp fun _ _ hr => ⟨hr.1, hr.2.1⟩) true
      (layout.blank_closing members.isEmpty level)
    exact ⟨.object read, .object hmembers,
      congrArg (· + 1) (nestingMembers_congr (hread.imp fun _ _ hr => hr.2.2))⟩
  | _ => exact ⟨_, layout.spells_text level (by simp [numbers]), rfl⟩

end Layout

/-- **A compact text is on one line.** -/
theorem unbroken_compact (document : Json) : Unbroken document.compact.toList := by
  rw [Layout.text_tight document 0]
  exact Layout.oneLine_tight.text 0 document

end JsonShape

import JsonShape.Proofs.Json.Reading
import JsonShape.Schema.Descriptor

/-!
# Tags of rules

The text of a descriptor is first read as a document of which only the outermost tag is looked at: just one
member of an object, or the first element of an array, and the word of a form (`Tagged`).  A document is read
so from all of its texts and from nothing else (`outer_spelled`, `front_of_outer`), whatever comes after it.

What a descriptor describes then depends on its document alone (`ofDescriptor_spelled`).

`Members.every` lists the values of all members of a name.
-/

namespace JsonShape

open Json

namespace Members

variable {α : Type}

/-- The values of all members of a name, in order. -/
def every (name : String) : List (String × α) → List α
  | [] => []
  | (other, value) :: rest => if other = name then value :: every name rest else every name rest

theorem every_cons_self (name : String) (value : α) (rest : List (String × α)) :
    every name ((name, value) :: rest) = value :: every name rest := if_pos rfl

theorem every_cons_of_ne {name other : String} (h : other ≠ name) (value : α) (rest : List (String × α)) :
    every name ((other, value) :: rest) = every name rest := if_neg h

theorem every_eq_nil_iff {name : String} {entries : List (String × α)} :
    every name entries = [] ↔ name ∉ names entries := by
  induction entries with
  | nil => simp [every, names]
  | cons entry rest ih =>
    obtain ⟨other, value⟩ := entry
    by_cases h : other = name
    · subst h
      simp [every_cons_self, names]
    · have h' : ¬ name = other := fun e => h e.symm
      rw [every_cons_of_ne h, ih]
      simp [names, h']

theorem mem_of_mem_every {name : String} {value : α} {entries : List (String × α)}
    (h : value ∈ every name entries) : (name, value) ∈ entries := by
  induction entries with
  | nil => cases h
  | cons entry rest ih =>
    obtain ⟨other, first⟩ := entry
    by_cases hname : other = name
    · subst hname
      rw [every_cons_self] at h
      rcases List.mem_cons.mp h with rfl | h
      · exact List.mem_cons_self
      · exact List.mem_cons_of_mem _ (ih h)
    · rw [every_cons_of_ne hname] at h
      exact List.mem_cons_of_mem _ (ih h)

end Members

namespace Descriptor

/-! ## Forms -/

theorem formOf_tag (form : Form) : formOf form.tag = .ok form := by
  rw [formOf, Form.ofTag?_tag]

theorem formOf_eq_ok_iff {word : String} {form : Form} : formOf word = .ok form ↔ word = form.tag := by
  constructor
  · intro h
    unfold formOf at h
    split at h
    · rename_i found hfound
      cases h
      have hword := List.find?_some hfound
      exact (beq_iff_eq.mp hword).symm
    · cases h
  · rintro rfl
    exact formOf_tag form

/-- A tag is the word of a form or a number. -/
theorem word_or_number_of_formOfTag {tag : Json} {form : Form} (h : formOfTag tag = .ok form) :
    tag = .string form.tag ∨ ∃ n, tag = .number n := by
  cases tag with
  | string word => exact .inl (congrArg Json.string (formOf_eq_ok_iff.mp h))
  | number n => exact .inr ⟨n, rfl⟩
  | null | bool | array | object => cases h

/-! ## The only member of a name -/

section ReadOnly

variable {α : Type} {name : String} {read : Json → Except Fault α} {absent : Except Fault α}
  {entries : List (String × Json)}

/-- Reads the only member of a name; a second one is refused, and there is a result if there is none. -/
def readOnly (name : String) (read : Json → Except Fault α) (absent : Except Fault α) :
    List (String × Json) → Except Fault α
  | [] => absent
  | (other, document) :: rest =>
    if other = name then do onlyOnce name rest (← read document) else readOnly name read absent rest

theorem readOnly_of_every {document : Json} (h : Members.every name entries = [document]) :
    readOnly name read absent entries = read document := by
  induction entries with
  | nil => cases h
  | cons entry rest ih =>
    obtain ⟨other, value⟩ := entry
    by_cases hname : other = name
    · subst hname
      rw [Members.every_cons_self] at h
      obtain ⟨rfl, hrest⟩ := List.cons.inj h
      simp only [readOnly, if_pos, onlyOnce, if_neg (Members.every_eq_nil_iff.mp hrest)]
      cases read value <;> rfl
    · rw [Members.every_cons_of_ne hname] at h
      rw [readOnly, if_neg hname, ih h]

theorem readOnly_of_none (h : Members.every name entries = []) :
    readOnly name read absent entries = absent := by
  induction entries with
  | nil => rfl
  | cons entry rest ih =>
    obtain ⟨other, value⟩ := entry
    by_cases hname : other = name
    · subst hname
      rw [Members.every_cons_self] at h
      cases h
    · rw [Members.every_cons_of_ne hname] at h
      rw [readOnly, if_neg hname, ih h]

/-- What is read comes from the only member of the name, unless there is none. -/
theorem readOnly_eq_ok {result : α} (h : readOnly name read absent entries = .ok result) :
    (Members.every name entries = [] ∧ absent = .ok result) ∨
      ∃ document, Members.every name entries = [document] ∧ read document = .ok result := by
  induction entries with
  | nil => exact .inl ⟨rfl, h⟩
  | cons entry rest ih =>
    obtain ⟨other, value⟩ := entry
    by_cases hname : other = name
    · subst hname
      rw [readOnly, if_pos rfl] at h
      obtain ⟨found, hfound, h⟩ := bind_eq_ok_iff.mp h
      unfold onlyOnce at h
      split at h
      · cases h
      · rename_i hrest
        cases h
        rw [Members.every_cons_self, Members.every_eq_nil_iff.mpr hrest]
        exact .inr ⟨value, rfl, hfound⟩
    · rw [readOnly, if_neg hname] at h
      rw [Members.every_cons_of_ne hname]
      exact ih h

/-- Where a member of the name must be there, just one was read. -/
theorem every_of_readOnly {fault : Fault} {result : α}
    (h : readOnly name read (.error fault) entries = .ok result) :
    ∃ document, Members.every name entries = [document] ∧ read document = .ok result := by
  rcases readOnly_eq_ok h with ⟨-, hnone⟩ | hone
  · cases hnone
  · exact hone

end ReadOnly

theorem formAmong_eq_readOnly (entries : List (String × Json)) :
    formAmong entries = readOnly "type" formOfTag (.error (.missingField "type")) entries := by
  induction entries with
  | nil => rfl
  | cons entry rest ih =>
    rw [formAmong, readOnly, ih]
    rfl

/-- The form of an object is the one that its only tag names. -/
theorem formAmong_word {entries : List (String × Json)} {form : Form}
    (h : Members.every "type" entries = [.string form.tag]) : formAmong entries = .ok form := by
  rw [formAmong_eq_readOnly, readOnly_of_every h]
  exact formOf_tag form

/-! ## The tag of a rule -/

/-- What stands where the tag of a rule is looked for. -/
def tags : Json → List Json
  | .object entries => Members.every "type" entries
  | .array (tag :: _) => [tag]
  | _ => []

/-- The document has one tag, and that is the word of a form. -/
def Tagged (document : Json) : Prop := ∃ form : Form, tags document = [.string form.tag]

/-- A document that describes a rule has one tag, the word of a form or a number. -/
theorem tags_of_rule {document : Json} {schema : Schema} (h : rule document = .ok schema) :
    Tagged document ∨ ∃ n, tags document = [.number n] := by
  have hone : ∃ form tag, tags document = [tag] ∧ formOfTag tag = .ok form := by
    cases document with
    | object entries =>
      rw [rule] at h
      obtain ⟨form, hform, -⟩ := bind_eq_ok_iff.mp h
      rw [formAmong_eq_readOnly] at hform
      obtain ⟨tag, htag, hof⟩ := every_of_readOnly hform
      exact ⟨form, tag, htag, hof⟩
    | array elements =>
      cases elements with
      | nil => cases h
      | cons tag rest =>
        rw [rule] at h
        obtain ⟨form, hform, -⟩ := bind_eq_ok_iff.mp h
        exact ⟨form, tag, rfl, hform⟩
    | null | bool | number | string => cases h
  obtain ⟨form, tag, htags, hof⟩ := hone
  rcases word_or_number_of_formOfTag hof with rfl | ⟨n, rfl⟩
  · exact .inl ⟨form, htags⟩
  · exact .inr ⟨n, htags⟩

/-! ## What is spelled is read -/

theorem outerMember_type {names : List String} (h : "type" ∉ names) (tail : List Char) :
    outerMember names "type" tail = memberValue outerTag "type" tail := by
  rw [outerMember, if_pos rfl, if_neg h]

theorem outerMember_of_ne {name : String} (h : name ≠ "type") (names : List String) (tail : List Char) :
    outerMember names name tail = memberValue (value (nestingLimit - 1)) name tail := by
  rw [outerMember, if_neg h]

theorem outerTag_append {blanks : List Char} (h : Blank blanks) (text : List Char) :
    outerTag (blanks ++ text) = outerTag text := by
  rw [outerTag, outerTag, skipBlanks_append h]

/-- The word of a form is read as an outermost tag in all of its spellings. -/
theorem outerTag_spelled {form : Form} {text : List Char} (h : Spells (.string form.tag) text)
    (after : List Char) : outerTag (text ++ after) = .ok (.string form.tag, after) := by
  cases h with
  | string h =>
    rw [List.cons_append, outerTag, skipBlanks_cons (by simp [IsBlank])]
    simp only [stringAfterQuote_of_spellsBody h, bind, Except.bind, formOf_tag]
    rfl

/-- A tag comes once and is the word of a form. -/
def TagOnce (names : List String) (member : String × Json) : Prop :=
  member.1 = "type" → "type" ∉ names ∧ ∃ form : Form, member.2 = .string form.tag

theorem along_tagOnce_iff {names : List String} {entries : List (String × Json)} :
    Along TagOnce names entries ↔ Members.every "type" entries = [] ∨
      "type" ∉ names ∧ ∃ form : Form, Members.every "type" entries = [.string form.tag] := by
  induction entries generalizing names with
  | nil => simp [Along, Members.every]
  | cons entry rest ih =>
    obtain ⟨name, value⟩ := entry
    rw [Along, ih]
    by_cases hname : name = "type"
    · subst hname
      simp [TagOnce, Members.every_cons_self]
      tauto
    · have hname' : ¬ "type" = name := fun e => hname e.symm
      simp [TagOnce, hname, hname', Members.every_cons_of_ne hname]

/-- The members of an outermost rule with one tag are read one by one. -/
theorem outerObject_spelled {entries : List (String × Json)} (h : Tagged (.object entries))
    {inside : List Char} (hs : SpellsMembers true entries inside) (after : List Char) :
    Settles (outerObject (inside ++ after)) (.object entries, after)
      ((Json.object entries).nesting ≤ nestingLimit) := by
  obtain ⟨form, hform⟩ := h
  have htags : Along TagOnce [] entries := along_tagOnce_iff.mpr (.inr ⟨by simp, form, hform⟩)
  -- the tag is read as a word at once, every other member as a document
  have hread : Along (fun names member => ∀ gap space text, Blank gap → Blank space →
      Spells member.2 text → Reads (outerMember names member.1) (gap ++ ':' :: (space ++ text)) member.2
        (member.2.nesting ≤ nestingLimit - 1)) [] entries := by
    refine htags.imp fun names member htag gap space text hgap hspace htext => ?_
    by_cases hname : member.1 = "type"
    · obtain ⟨hnames, form, hvalue⟩ := htag hname
      have htag : Reads outerTag text member.2 (member.2.nesting ≤ nestingLimit - 1) := by
        rw [hvalue] at htext ⊢
        exact fun after _ => .of_ok (Nat.zero_le _) (outerTag_spelled htext after)
      have hmember := reads_memberValue hgap (outerTag_append hspace) htag "type"
      intro after ha
      rw [hname, outerMember_type hnames]
      exact hmember after ha
    · have hvalue := reads_memberValue hgap (value_append hspace (nestingLimit - 1))
        (fun after ha => value_spelled htext _ after fun _ => ha) member.1
      intro after ha
      rw [outerMember_of_ne hname]
      exact hvalue after ha
  have hlength := hs.length_le
  have hinside : SpellsMembers ([] : List String).isEmpty entries inside := hs
  have hmembers := membersFrom_spelled outerMember (fun value => value.nesting ≤ nestingLimit - 1)
    ((inside ++ after).length + 1) hread (by simp only [List.length_append]; omega) hinside after
  have hlevels : (∀ member ∈ entries, member.2.nesting ≤ nestingLimit - 1) ↔
      (Json.object entries).nesting ≤ nestingLimit := by
    rw [nesting, ← nestingMembers_le_iff, nestingLimit]
    omega
  -- the members are read, and one of them was the tag
  have hmem : "type" ∈ Members.names entries := by
    by_contra hn
    have hnone : Members.every "type" entries = [] := Members.every_eq_nil_iff.mpr hn
    rw [tags, hnone] at hform
    cases hform
  exact (hmembers.of_iff hlevels).andThen (if_pos hmem)

/-- The elements of an outermost rule whose first element is a tag are read one by one. -/
theorem outerArray_spelled {elements : List Json} (h : Tagged (.array elements)) {inside : List Char}
    (hs : SpellsItems true elements inside) (after : List Char) :
    Settles (outerArray (inside ++ after)) (.array elements, after)
      ((Json.array elements).nesting ≤ nestingLimit) := by
  obtain ⟨form, hform⟩ := h
  -- the first element is the tag, so at least one is spelled
  cases hs with
  | close => cases hform
  | @item _ tag rest before text more hb ht hm =>
    obtain ⟨rfl⟩ : tag = .string form.tag := (List.cons.inj hform).1
    have hlength := hm.length_le
    have hothers := itemsFrom_spelled (value (nestingLimit - 1)) (fun item => item.nesting ≤ nestingLimit - 1)
      (fun item _ text ht after ha => value_spelled ht _ after fun _ => ha)
      ((more ++ after).length + 1) (by simp only [List.length_append]; omega) 1 hm after
    have hnext : nextItem true (before ++ (text ++ (more ++ after))) =
        .ok (.entry (text ++ (more ++ after))) := nextItem_spelled hb (ht.begins.append _)
    have hstep : outerArray (before ++ (text ++ more) ++ after) = (do
        let others ← itemsFrom (value (nestingLimit - 1)) ((more ++ after).length + 1) 1 (more ++ after)
        return (.array (.string form.tag :: others.1), others.2)) := by
      rw [List.append_assoc, List.append_assoc, outerArray, hnext]
      simp only [bind, Except.bind, outerTag_spelled ht]
      rfl
    have hlevels : (∀ item ∈ rest, item.nesting ≤ nestingLimit - 1) ↔
        (Json.array (.string form.tag :: rest)).nesting ≤ nestingLimit := by
      have htag : (Json.string form.tag).nesting = 0 := rfl
      rw [nesting, nestingItems, htag, ← nestingItems_le_iff, nestingLimit]
      omega
    rw [hstep]
    exact (hothers.of_iff hlevels).andThen rfl

theorem outer_append {blanks : List Char} (h : Blank blanks) (text : List Char) :
    outer (blanks ++ text) = outer text := by
  rw [outer, outer, skipBlanks_append h]

/-- **A document with one tag is read from all of its texts**, whatever comes after it, if it has no more
levels than a document may have, and fails for its levels if it has more. -/
theorem outer_spelled {document : Json} {text : List Char} (h : Tagged document)
    (hs : Spells document text) (after : List Char) :
    Settles (outer (text ++ after)) (document, after) (document.nesting ≤ nestingLimit) := by
  cases hs with
  | object hs =>
    rw [List.cons_append, outer, skipBlanks_cons (by simp [IsBlank])]
    exact outerObject_spelled h hs after
  | array hs =>
    rw [List.cons_append, outer, skipBlanks_cons (by simp [IsBlank])]
    exact outerArray_spelled h hs after
  | null | isTrue | isFalse | number | string =>
    obtain ⟨form, hform⟩ := h
    cases hform

/-! ## What is read is spelled -/

theorem front_of_outerTag {text rest : List Char} {tag : Json} (h : outerTag text = .ok (tag, rest)) :
    Front tag text rest ∧ ∃ form : Form, tag = .string form.tag := by
  obtain ⟨blanks, hblanks, htext⟩ := exists_blanks text
  unfold outerTag at h
  split at h
  · rename_i left hskip
    obtain ⟨⟨word, after⟩, hread, h⟩ := bind_eq_ok_iff.mp h
    simp only at h
    split at h
    · rename_i form hform
      cases h
      obtain ⟨body, hbody, rfl⟩ := spellsBody_of_stringAfterQuote hread
      rw [hskip] at htext
      exact ⟨⟨blanks, '"' :: body, hblanks, .string hbody, htext⟩, form,
        congrArg Json.string (formOf_eq_ok_iff.mp hform)⟩
    · cases h
  · cases h

theorem front_of_outerMember {names : List String} {name : String} {text rest : List Char} {value : Json}
    (h : outerMember names name text = .ok (value, rest)) : FrontAfterName value text rest ∧
      TagOnce names (name, value) ∧ value.nesting ≤ nestingLimit - 1 := by
  by_cases hname : name = "type"
  · subst hname
    by_cases hnames : "type" ∈ names
    · rw [outerMember, if_pos rfl, if_pos hnames] at h
      cases h
    · rw [outerMember_type hnames] at h
      obtain ⟨hfront, form, rfl⟩ := frontAfterName_of_memberValue (fun _ _ _ h => front_of_outerTag h) h
      exact ⟨hfront, fun _ => ⟨hnames, form, rfl⟩, Nat.zero_le _⟩
  · rw [outerMember_of_ne hname] at h
    obtain ⟨hfront, hlevels⟩ := frontAfterName_of_memberValue (fun _ _ _ h => front_of_value h) h
    exact ⟨hfront, fun e => absurd e hname, hlevels⟩

theorem spells_of_outerObject {text rest : List Char} {document : Json}
    (h : outerObject text = .ok (document, rest)) :
    ∃ spelled, Spells document ('\x7b' :: spelled) ∧ text = spelled ++ rest ∧
      document.nesting ≤ nestingLimit ∧ Tagged document := by
  obtain ⟨⟨entries, left⟩, hread, h⟩ := bind_eq_ok_iff.mp h
  simp only at h
  split at h
  · rename_i hmem
    cases h
    have hspelled : (∃ inside, SpellsMembers true entries inside ∧ text = inside ++ rest) ∧
        Along (fun names member => TagOnce names member ∧ member.2.nesting ≤ nestingLimit - 1) [] entries :=
      spellsMembers_of_membersFrom (fun _ _ _ _ _ h => front_of_outerMember h) hread
    obtain ⟨⟨inside, hinside, rfl⟩, hall⟩ := hspelled
    have htags : Along TagOnce [] entries := hall.imp fun _ _ h => h.1
    have hlevels := along_iff_forall_mem.mp (hall.imp fun _ _ h => h.2)
    refine ⟨inside, .object hinside, rfl, Nat.succ_le_succ (nestingMembers_le_iff.mpr hlevels), ?_⟩
    rcases along_tagOnce_iff.mp htags with hnone | ⟨-, form, hform⟩
    · exact absurd hmem (Members.every_eq_nil_iff.mp hnone)
    · exact ⟨form, hform⟩
  · cases h

theorem spells_of_outerArray {text rest : List Char} {document : Json}
    (h : outerArray text = .ok (document, rest)) :
    ∃ spelled, Spells document ('[' :: spelled) ∧ text = spelled ++ rest ∧
      document.nesting ≤ nestingLimit ∧ Tagged document := by
  obtain ⟨left | left, hnext, h⟩ := bind_eq_ok_iff.mp h
  · cases h
  · obtain ⟨⟨tag, more⟩, htag, h⟩ := bind_eq_ok_iff.mp h
    obtain ⟨⟨others, last⟩, hothers, h⟩ := bind_eq_ok_iff.mp h
    cases h
    obtain ⟨before, hbefore, rfl⟩ := separates_of_nextItem hnext
    obtain ⟨⟨blanks, spelled, hblanks, hspelled, rfl⟩, form, rfl⟩ :=
      front_of_outerTag (atPlace_eq_ok_iff.mp htag)
    obtain ⟨⟨inside, hinside, rfl⟩, hlevels⟩ :=
      spellsItems_of_itemsFrom (fun _ _ _ h => front_of_value h) hothers
    have hitems := SpellsItems.item (hbefore.append hblanks) hspelled hinside
    refine ⟨_, .array hitems, by simp, Nat.succ_le_succ (nestingItems_le_iff.mpr ?_), form, rfl⟩
    exact List.forall_mem_cons.mpr ⟨Nat.zero_le _, hlevels⟩

/-- **What is read as the document of a descriptor is spelled**, and has one tag. -/
theorem front_of_outer {text rest : List Char} {document : Json} (h : outer text = .ok (document, rest)) :
    Front document text rest ∧ document.nesting ≤ nestingLimit ∧ Tagged document := by
  obtain ⟨blanks, hblanks, htext⟩ := exists_blanks text
  unfold outer at h
  split at h
  · rename_i left hskip
    obtain ⟨spelled, hspelled, rfl, hrest⟩ := spells_of_outerArray h
    rw [hskip] at htext
    exact ⟨⟨blanks, _, hblanks, hspelled, htext⟩, hrest⟩
  · rename_i left hskip
    obtain ⟨spelled, hspelled, rfl, hrest⟩ := spells_of_outerObject h
    rw [hskip] at htext
    exact ⟨⟨blanks, _, hblanks, hspelled, htext⟩, hrest⟩
  · cases h

end Descriptor

/-! ## Texts -/

/-- **What the text of a document describes depends on the document alone**: it must have one tag, and then
it is the rule that it describes. -/
theorem Schema.ofDescriptor_spelled {document : Json} {text : String} {rest : List Char}
    (h : Front document text.toList rest) (hl : document.nesting ≤ nestingLimit)
    (ht : Descriptor.Tagged document) :
    ofDescriptor text = (Descriptor.rule document).mapError fun fault => ⟨fault, none, []⟩ := by
  obtain ⟨blanks, spelled, hblanks, hspelled, htext⟩ := h
  have houter := (Descriptor.outer_spelled ht hspelled rest).1 hl
  rw [← Descriptor.outer_append hblanks, ← htext] at houter
  rw [ofDescriptor, houter]
  cases hrule : Descriptor.rule document with
  | error fault => simp only [hrule, Except.mapError]
  | ok schema => simp only [hrule, Except.mapError]

/-- A text describes a schema just if there is a document with one tag at its front that does. -/
theorem Schema.ofDescriptor_eq_ok_iff {text : String} {schema : Schema} :
    ofDescriptor text = .ok schema ↔ ∃ document rest, Front document text.toList rest ∧
      document.nesting ≤ nestingLimit ∧ Descriptor.Tagged document ∧
      Descriptor.rule document = .ok schema := by
  constructor
  · intro h
    cases houter : Descriptor.outer text.toList with
    | error failure =>
      rw [ofDescriptor, houter] at h
      cases h
    | ok result =>
      obtain ⟨document, rest⟩ := result
      obtain ⟨hfront, hlevels, htagged⟩ := Descriptor.front_of_outer houter
      rw [ofDescriptor_spelled hfront hlevels htagged, mapError_eq_ok_iff] at h
      exact ⟨document, rest, hfront, hlevels, htagged, h⟩
  · rintro ⟨document, rest, hfront, hlevels, htagged, hrule⟩
    rw [ofDescriptor_spelled hfront hlevels htagged, hrule]
    rfl

end JsonShape

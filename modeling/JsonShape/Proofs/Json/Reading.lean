import JsonShape.Proofs.Json.Induction
import JsonShape.Proofs.Json.Spelling
import JsonShape.Proofs.Json.Steps

/-!
# Documents are read from their texts

Whatever is spelled is read if it has no more levels than are allowed, and fails for its levels if it has
more (`value_spelled`); whatever is read is spelled (`front_of_value`).  So a text is read as a document just
if it is a text of that document (`readWhole_value_iff`).

* `Settles` is the kind of statement about an outcome that goes from the elements or members to the whole,
  and `Reads` is it about a reader and the text of a value.
* `Along` says of the members of an object what a reader looks at in each of them after the names before it.
-/

namespace JsonShape

open Json

/-! ## Outcomes that depend on levels -/

/-- The outcome is the value if that fits, and otherwise a failure for its levels. -/
abbrev Settles {α : Type} (outcome : Except Failure α) (value : α) (fits : Prop) : Prop :=
  Decides outcome value fits fun failure => failure.fault = .tooDeep

theorem Decides.atPlace {α : Type} {outcome : Except Failure α} {value : α} {fits : Prop}
    (h : Settles outcome value fits) (step : PlaceStep) : Settles (atPlace step outcome) value fits := by
  obtain ⟨hok, herror⟩ := h
  constructor
  · intro hf
    rw [hok hf]
    rfl
  · intro hn
    obtain ⟨failure, hfailure, hfault⟩ := herror hn
    exact ⟨failure.inside step, by rw [hfailure]; rfl, hfault⟩

/-- Before anything that can follow a value, a reader takes the value if it fits, and otherwise fails for
its levels. -/
def Reads {α : Type} (read : Reader α) (text : List Char) (value : α) (fits : Prop) : Prop :=
  ∀ after, AfterValue after → Settles (read (text ++ after)) (value, after) fits

/-- Each member is as wanted after the names before it, of which the last is first. -/
def Along (wanted : List String → String × Json → Prop) : List String → List (String × Json) → Prop
  | _, [] => True
  | names, member :: rest => wanted names member ∧ Along wanted (member.1 :: names) rest

theorem along_iff_forall_mem {wanted : String × Json → Prop} {names : List String}
    {members : List (String × Json)} :
    Along (fun _ => wanted) names members ↔ ∀ member ∈ members, wanted member := by
  induction members generalizing names with
  | nil => simp [Along]
  | cons member rest ih => rw [Along, ih, List.forall_mem_cons]

theorem Along.imp {wanted other : List String → String × Json → Prop}
    (h : ∀ names member, wanted names member → other names member) {names : List String}
    {members : List (String × Json)} (ha : Along wanted names members) : Along other names members := by
  induction members generalizing names with
  | nil => trivial
  | cons member rest ih => exact ⟨h _ _ ha.1, ih ha.2⟩

/-! ## What is spelled is read -/

theorem value_append {blanks : List Char} (h : ∀ c ∈ blanks, IsBlank c) (levels : Nat)
    (text : List Char) : value levels (blanks ++ text) = value levels text := by
  rw [value.eq_def, value.eq_def levels text, skipBlanks_append h]

theorem nextItem_closing {blanks : List Char} (h : ∀ c ∈ blanks, IsBlank c) (first : Bool)
    (after : List Char) : nextItem first (blanks ++ ']' :: after) = .ok (.finish (']' :: after)) := by
  rw [nextItem, skipBlanks_append h, skipBlanks_cons (by simp [IsBlank])]
  simp

theorem nextName_closing {blanks : List Char} (h : ∀ c ∈ blanks, IsBlank c) (first : Bool)
    (after : List Char) :
    nextName first (blanks ++ '\x7d' :: after) = .ok (.finish ('\x7d' :: after)) := by
  rw [nextName, skipBlanks_append h, skipBlanks_cons (by simp [IsBlank])]
  simp

theorem membersFrom_closing {α : Type} {read : List String → String → Reader α} {blanks : List Char}
    (h : ∀ c ∈ blanks, IsBlank c) (fuel : Nat) (names : List String) (after : List Char) :
    membersFrom read (fuel + 1) names (blanks ++ '\x7d' :: after) = .ok ([], after) := by
  rw [membersFrom, nextName_closing h]
  rfl

theorem value_array (levels : Nat) (rest : List Char) :
    value (levels + 1) ('[' :: rest) = (do
      let (elements, rest) ← items (value levels) rest
      return (.array elements, rest)) := by
  rw [value.eq_def, skipBlanks_cons (by simp [IsBlank])]
  rfl

theorem value_object (levels : Nat) (rest : List Char) :
    value (levels + 1) ('\x7b' :: rest) = (do
      let (entries, rest) ← members (fun _ name => memberValue (value levels) name) rest
      return (.object entries, rest)) := by
  rw [value.eq_def, skipBlanks_cons (by simp [IsBlank])]
  rfl

/-- Where no level is left, an opening bracket is a fault. -/
theorem value_zero {bracket : Char} (h : bracket = '[' ∨ bracket = '\x7b') (rest : List Char) :
    value 0 (bracket :: rest) = .error ⟨.tooDeep, bracket :: rest, 1, []⟩ := by
  rcases h with rfl | rfl
  all_goals
    rw [value.eq_def, skipBlanks_cons (by simp [IsBlank])]
    rfl

theorem value_string (levels : Nat) (rest : List Char) :
    value levels ('"' :: rest) = (do
      let (s, rest) ← stringAfterQuote rest
      return (.string s, rest)) := by
  rw [value.eq_def, skipBlanks_cons (by simp [IsBlank])]
  rfl

/-- The elements of an array are read one by one, each as its result. -/
theorem itemsFrom_results {α : Type} (read : Reader α) (fits : Json → Prop) {items : List Json}
    {results : List α} (h : List.Forall₂ (fun item result => ∀ text, Spells item text →
      Reads read text result (fits item)) items results)
    (fuel : Nat) (hfuel : items.length < fuel) (index : Nat) {inside : List Char}
    (hs : SpellsItems (index == 0) items inside) (after : List Char) :
    Settles (itemsFrom read fuel index (inside ++ after)) (results, after) (∀ item ∈ items, fits item) := by
  -- one unit of fuel for an element and one for the end; the index says whether a comma is due
  induction h generalizing inside fuel index with
  | nil =>
    obtain ⟨fuel, rfl⟩ : ∃ less, fuel = less + 1 := ⟨fuel - 1, by simp at hfuel; omega⟩
    cases hs with
    | close hb =>
      refine .of_ok (by simp) ?_
      rw [List.append_assoc, itemsFrom, List.singleton_append, nextItem_closing hb]
      rfl
  | cons hitem hrest ih =>
    obtain ⟨fuel, rfl⟩ : ∃ less, fuel = less + 1 := ⟨fuel - 1, by omega⟩
    cases hs with
    | @item _ _ _ before text more hb ht hm =>
      have hothers := ih fuel (by simpa using hfuel) (index + 1) hm
      have hfirst := hitem text ht (more ++ after) (hm.afterValue after)
      have hstep : itemsFrom read (fuel + 1) index (before ++ (text ++ more) ++ after) = (do
          let first ← atPlace (.index index) (read (text ++ (more ++ after)))
          let others ← itemsFrom read fuel (index + 1) first.2
          return (first.1 :: others.1, others.2)) := by
        rw [List.append_assoc, List.append_assoc, itemsFrom, nextItem_spelled hb (ht.begins.append _)]
        rfl
      rw [hstep]
      refine Decides.of_iff (.bind (hfirst.atPlace (.index index)) (.andThen hothers ?_))
        List.forall_mem_cons.symm
      rfl

theorem itemsFrom_spelled (read : Reader Json) (fits : Json → Prop) {items : List Json}
    (h : ∀ item ∈ items, ∀ text, Spells item text → Reads read text item (fits item))
    (fuel : Nat) (hfuel : items.length < fuel) (index : Nat) {inside : List Char}
    (hs : SpellsItems (index == 0) items inside) (after : List Char) :
    Settles (itemsFrom read fuel index (inside ++ after)) (items, after) (∀ item ∈ items, fits item) :=
  itemsFrom_results read fits (List.forall₂_same.mpr h) fuel hfuel index hs after

/-- The next member of an object is read from the blanks before the colon on. -/
theorem membersFrom_spelled_cons {α : Type} (read : List String → String → Reader α) {names : List String}
    {before body : List Char} {name : String} (hb : Separates names.isEmpty before)
    (hn : SpellsBody name.toList body) (fuel : Nat) (rest : List Char) :
    membersFrom read (fuel + 1) names (before ++ '"' :: (body ++ rest)) = (do
      let (member, left) ← read names name rest
      let (members, left) ← membersFrom read fuel (name :: names) left
      return ((name, member) :: members, left)) := by
  rw [membersFrom, nextName_spelled hb]
  show (atPlace .between (stringAfterQuote _) >>= _) = _
  rw [stringAfterQuote_of_spellsBody hn]
  rfl

/-- The members of an object are read one by one, each as what is made of it. -/
theorem membersFrom_made {α : Type} (read : List String → String → Reader α) (fits : Json → Prop)
    (make : String × Json → α) (fuel : Nat) {names : List String} {members : List (String × Json)}
    (h : Along (fun names member => ∀ gap space text, Blank gap → Blank space → Spells member.2 text →
      Reads (read names member.1) (gap ++ ':' :: (space ++ text)) (make member) (fits member.2)) names members)
    (hfuel : members.length < fuel) {inside : List Char}
    (hs : SpellsMembers names.isEmpty members inside) (after : List Char) :
    Settles (membersFrom read fuel names (inside ++ after))
      (members.map fun member => (member.1, make member), after) (∀ member ∈ members, fits member.2) := by
  -- the names read so far go along, since what is read of a member may depend on them
  induction members generalizing inside fuel names with
  | nil =>
    obtain ⟨fuel, rfl⟩ : ∃ less, fuel = less + 1 := ⟨fuel - 1, by simp at hfuel; omega⟩
    cases hs with
    | close hb =>
      refine .of_ok (by simp) ?_
      rw [List.append_assoc, List.singleton_append, membersFrom_closing hb]
      rfl
  | cons member rest ih =>
    obtain ⟨fuel, rfl⟩ : ∃ less, fuel = less + 1 := ⟨fuel - 1, by omega⟩
    obtain ⟨hmember, hrest⟩ := h
    cases hs with
    | @member _ name value _ before body gap space text more hb hn hg hspace ht hm =>
      have hothers := ih fuel hrest (by simpa using hfuel) hm
      have hfirst := hmember gap space text hg hspace ht (more ++ after) (hm.afterValue after)
      have htext : before ++ '"' :: (body ++ (gap ++ ':' :: (space ++ (text ++ more)))) ++ after =
          before ++ '"' :: (body ++ (gap ++ ':' :: (space ++ text) ++ (more ++ after))) := by
        simp
      have hfits : (fits value ∧ ∀ member ∈ rest, fits member.2) ↔
          ∀ member ∈ (name, value) :: rest, fits member.2 := by
        rw [List.forall_mem_cons]
      rw [htext, membersFrom_spelled_cons read hb hn]
      refine Decides.of_iff (.bind hfirst (.andThen hothers ?_)) hfits
      rfl

theorem membersFrom_spelled (read : List String → String → Reader Json) (fits : Json → Prop)
    (fuel : Nat) {names : List String} {members : List (String × Json)}
    (h : Along (fun names member => ∀ gap space text, Blank gap → Blank space → Spells member.2 text →
      Reads (read names member.1) (gap ++ ':' :: (space ++ text)) member.2 (fits member.2)) names members)
    (hfuel : members.length < fuel) {inside : List Char}
    (hs : SpellsMembers names.isEmpty members inside) (after : List Char) :
    Settles (membersFrom read fuel names (inside ++ after)) (members, after)
      (∀ member ∈ members, fits member.2) := by
  have hmade := membersFrom_made read fits Prod.snd fuel h hfuel hs after
  have hsame : members.map (fun member => (member.1, member.2)) = members := List.map_id members
  rwa [hsame] at hmade

theorem SpellsItems.length_le {first : Bool} {items : List Json} {inside : List Char}
    (h : SpellsItems first items inside) : items.length < inside.length := by
  induction items generalizing first inside with
  | nil =>
    cases h with
    | close h => simp
  | cons item rest ih =>
    cases h with
    | item hb ht hm =>
      obtain ⟨c, others, rfl, -⟩ := ht.begins
      have := ih hm
      simp only [List.length_append, List.length_cons]
      omega

theorem SpellsMembers.length_le {first : Bool} {members : List (String × Json)} {inside : List Char}
    (h : SpellsMembers first members inside) : members.length < inside.length := by
  induction members generalizing first inside with
  | nil =>
    cases h with
    | close h => simp
  | cons member rest ih =>
    cases h with
    | member hb hn hg hs ht hm =>
      have := ih hm
      simp only [List.length_append, List.length_cons]
      omega

/-- The value of a member is read as a value is, after the colon and the blanks around it. -/
theorem reads_memberValue {read : Reader Json} {document : Json} {gap space text : List Char} {fits : Prop}
    (hg : Blank gap) (hspace : ∀ text, read (space ++ text) = read text)
    (h : Reads read text document fits) (name : String) :
    Reads (memberValue read name) (gap ++ ':' :: (space ++ text)) document fits := by
  intro after ha
  have hstep : memberValue read name (gap ++ ':' :: (space ++ text) ++ after) =
      atPlace (.key name) (read (text ++ after)) := by
    have hcolon := colon_spelled hg (space ++ (text ++ after))
    rw [List.append_assoc, List.cons_append, List.append_assoc, memberValue, hcolon]
    show atPlace (.key name) (read (space ++ (text ++ after))) = _
    rw [hspace]
  rw [hstep]
  exact (h after ha).atPlace (.key name)

/-- The whole text of a number is taken before anything that can follow a value. -/
theorem value_spelledNumber {n : Number} {text : List Char} (h : SpellsNumber n text) (levels : Nat)
    {after : List Char} (ha : AfterValue after) :
    value levels (text ++ after) = .ok (.number n, after) := by
  obtain ⟨⟨c, rest, rfl, hblank, -⟩, hread⟩ := h
  have hfrom := readFrom_of_value hread
  rw [skipBlanks_cons hblank] at hfrom
  refine value_of_readFrom ?_
  rw [List.cons_append, skipBlanks_cons hblank]
  cases hfrom with
  | negative h =>
    obtain ⟨taken, htext, -, htaken⟩ := unsignedNumber_takes h
    rw [List.append_nil] at htext
    exact .negative (htext ▸ htaken after ha.endsNumber)
  | positive hc h =>
    obtain ⟨taken, htext, -, htaken⟩ := unsignedNumber_takes h
    rw [List.append_nil] at htext
    have hread := htext ▸ htaken after ha.endsNumber
    exact .positive hc hread

/-- An array is read if its elements are, with one level less. -/
theorem value_spelledItems {elements : List Json} {inside : List Char} (hs : SpellsItems true elements inside)
    (h : ∀ item ∈ elements, ∀ levels text, Spells item text →
      Reads (value levels) text item (item.nesting ≤ levels)) (levels : Nat) (after : List Char) :
    Settles (value levels ('[' :: (inside ++ after))) (.array elements, after)
      ((Json.array elements).nesting ≤ levels) := by
  cases levels with
  | zero => exact ⟨fun hf => absurd hf (by simp [nesting]), fun _ => ⟨_, value_zero (.inl rfl) _, rfl⟩⟩
  | succ levels =>
    have hlength := hs.length_le
    have hitems := itemsFrom_spelled (value levels) (fun item => item.nesting ≤ levels)
      (fun item hi => h item hi levels) ((inside ++ after).length + 1)
      (by simp only [List.length_append]; omega) 0 hs after
    rw [value_array, nesting, Nat.add_le_add_iff_right]
    exact (hitems.of_iff nestingItems_le_iff.symm).andThen rfl

/-- An object is read if its members are, with one level less. -/
theorem value_spelledMembers {entries : List (String × Json)} {inside : List Char}
    (hs : SpellsMembers true entries inside) (h : ∀ member ∈ entries, ∀ levels text, Spells member.2 text →
      Reads (value levels) text member.2 (member.2.nesting ≤ levels)) (levels : Nat) (after : List Char) :
    Settles (value levels ('\x7b' :: (inside ++ after))) (.object entries, after)
      ((Json.object entries).nesting ≤ levels) := by
  cases levels with
  | zero => exact ⟨fun hf => absurd hf (by simp [nesting]), fun _ => ⟨_, value_zero (.inr rfl) _, rfl⟩⟩
  | succ levels =>
    have hlength := hs.length_le
    have hinside : SpellsMembers ([] : List String).isEmpty entries inside := hs
    have hread : ∀ member ∈ entries, ∀ gap space text, Blank gap → Blank space →
        Spells member.2 text → Reads (memberValue (value levels) member.1)
          (gap ++ ':' :: (space ++ text)) member.2 (member.2.nesting ≤ levels) :=
      fun member hm gap space text hg hspace ht => reads_memberValue hg (value_append hspace levels)
        (h member hm levels text ht) member.1
    -- every member takes characters, so the text is fuel enough for all of them
    have hmembers := membersFrom_spelled (fun _ name => memberValue (value levels) name)
      (fun value => value.nesting ≤ levels) ((inside ++ after).length + 1)
      (along_iff_forall_mem.mpr hread) (by simp only [List.length_append]; omega) hinside after
    rw [value_object, nesting, Nat.add_le_add_iff_right]
    exact (hmembers.of_iff nestingMembers_le_iff.symm).andThen rfl

/-- **What is spelled is read**, if it has no more levels than are allowed. -/
theorem value_spelled {document : Json} {text : List Char} (h : Spells document text) (levels : Nat)
    (after : List Char) (ha : document.kind = .number → AfterValue after) :
    Settles (value levels (text ++ after)) (document, after) (document.nesting ≤ levels) := by
  induction document generalizing text levels after with
  | null =>
    cases h with
    | null =>
      refine .of_ok (Nat.zero_le _) ?_
      rw [value.eq_def, List.cons_append, skipBlanks_cons (by simp [IsBlank])]
      rfl
  | bool b =>
    refine .of_ok (Nat.zero_le _) ?_
    cases h with
    | isTrue =>
      rw [value.eq_def, List.cons_append, skipBlanks_cons (by simp [IsBlank])]
      rfl
    | isFalse =>
      rw [value.eq_def, List.cons_append, skipBlanks_cons (by simp [IsBlank])]
      rfl
  | number n =>
    cases h with
    | number h => exact .of_ok (Nat.zero_le _) (value_spelledNumber h levels (ha rfl))
  | string s =>
    refine .of_ok (Nat.zero_le _) ?_
    cases h with
    | string h =>
      rw [List.cons_append, value_string, stringAfterQuote_of_spellsBody h]
      rfl
  -- only here a level is used up, so only here the reading can fail
  | array elements ih =>
    cases h with
    | array hs =>
      exact value_spelledItems hs (fun item hi levels text ht after ha =>
        ih item hi ht levels after fun _ => ha) levels after
  | object entries ih =>
    cases h with
    | object hs =>
      exact value_spelledMembers hs (fun member hm levels text ht after ha =>
        ih member hm ht levels after fun _ => ha) levels after

/-! ## What is read is spelled -/

/-- The text is blanks, a text of the document, and the rest. -/
def Front (document : Json) (text rest : List Char) : Prop :=
  ∃ blanks spelled, Blank blanks ∧ Spells document spelled ∧ text = blanks ++ (spelled ++ rest)

theorem value_of_front {document : Json} {text rest : List Char} (h : Front document text rest)
    (levels : Nat) (ha : document.kind = .number → AfterValue rest) :
    Settles (value levels text) (document, rest) (document.nesting ≤ levels) := by
  obtain ⟨blanks, spelled, hblanks, hspelled, rfl⟩ := h
  rw [value_append hblanks]
  exact value_spelled hspelled levels rest ha

/-- The elements of an array that were read one by one. -/
theorem spellsItems_of_itemsFrom {read : Reader Json} {fits : Json → Prop}
    (hread : ∀ text item rest, read text = .ok (item, rest) → Front item text rest ∧ fits item)
    {fuel index : Nat} {text rest : List Char} {items : List Json}
    (h : itemsFrom read fuel index text = .ok (items, rest)) :
    (∃ inside, SpellsItems (index == 0) items inside ∧ text = inside ++ rest) ∧
      ∀ item ∈ items, fits item := by
  induction fuel generalizing index text items with
  | zero => cases h
  | succ fuel ih =>
    rcases itemsFrom_succ_eq_ok_iff.mp h with
      ⟨left, hnext, rfl, rfl⟩ | ⟨left, item, more, others, hnext, hitem, hothers, rfl⟩
    · obtain ⟨blanks, after, hblanks, rfl, rfl⟩ := close_of_nextItem hnext
      exact ⟨⟨blanks ++ [']'], .close hblanks, by simp⟩, by simp⟩
    · obtain ⟨before, hbefore, rfl⟩ := separates_of_nextItem hnext
      obtain ⟨⟨blanks, spelled, hblanks, hspelled, rfl⟩, hfits⟩ := hread _ _ _ hitem
      obtain ⟨⟨inside, hinside, rfl⟩, hall⟩ := ih hothers
      refine ⟨⟨(before ++ blanks) ++ (spelled ++ inside), ?_, by simp⟩,
        List.forall_mem_cons.mpr ⟨hfits, hall⟩⟩
      exact .item (hbefore.append hblanks) hspelled hinside

/-- The text is a colon, blanks around it, a text of the document, and the rest. -/
def FrontAfterName (document : Json) (text rest : List Char) : Prop :=
  ∃ gap left, Blank gap ∧ Front document left rest ∧ text = gap ++ ':' :: left

theorem frontAfterName_of_memberValue {read : Reader Json} {fits : Json → Prop}
    (hread : ∀ text value rest, read text = .ok (value, rest) → Front value text rest ∧ fits value)
    {name : String} {value : Json} {text rest : List Char}
    (h : memberValue read name text = .ok (value, rest)) : FrontAfterName value text rest ∧ fits value := by
  obtain ⟨left, hcolon, hinner⟩ := bind_eq_ok_iff.mp h
  obtain ⟨gap, hgap, rfl⟩ := gap_of_colon hcolon
  obtain ⟨hfront, hfits⟩ := hread _ _ _ (atPlace_eq_ok_iff.mp hinner)
  exact ⟨⟨gap, left, hgap, hfront, rfl⟩, hfits⟩

theorem spellsMembers_of_membersFrom {read : List String → String → Reader Json}
    {fits : List String → String × Json → Prop}
    (hread : ∀ names name text value rest, read names name text = .ok (value, rest) →
      FrontAfterName value text rest ∧ fits names (name, value))
    {fuel : Nat} {names : List String} {text rest : List Char} {members : List (String × Json)}
    (h : membersFrom read fuel names text = .ok (members, rest)) :
    (∃ inside, SpellsMembers names.isEmpty members inside ∧ text = inside ++ rest) ∧
      Along fits names members := by
  -- each step of the reader takes one member or ends with the brace
  induction fuel generalizing names text members with
  | zero => cases h
  | succ fuel ih =>
    rcases membersFrom_succ_eq_ok_iff.mp h with
      ⟨left, hnext, rfl, rfl⟩ | ⟨left, name, after, value, more, others, hnext, hname, hvalue, hothers, rfl⟩
    · obtain ⟨blanks, after, hblanks, rfl, rfl⟩ := close_of_nextName hnext
      exact ⟨⟨blanks ++ ['\x7d'], .close hblanks, by simp⟩, trivial⟩
    · obtain ⟨before, hbefore, rfl⟩ := separates_of_nextName hnext
      obtain ⟨body, hbody, rfl⟩ := spellsBody_of_stringAfterQuote hname
      obtain ⟨⟨gap, _, hgap, ⟨space, spelled, hspace, hspelled, rfl⟩, rfl⟩, hfits⟩ := hread _ _ _ _ _ hvalue
      obtain ⟨⟨inside, hinside, rfl⟩, hall⟩ := ih hothers
      refine ⟨⟨before ++ '"' :: (body ++ (gap ++ ':' :: (space ++ (spelled ++ inside)))), ?_, by simp⟩,
        hfits, hall⟩
      exact .member hbefore hbody hgap hspace hspelled hinside

theorem not_isBlank_of_isDigit {c : Char} (hc : c.isDigit) : ¬ IsBlank c := by
  rintro (rfl | rfl | rfl | rfl)
  all_goals cases hc

/-- What was taken after the sign of a number is all of its text. -/
theorem spellsNumber_of_negative {n : Number} {text rest : List Char}
    (h : unsignedNumber true text = .ok (n, rest)) :
    ∃ taken, SpellsNumber n ('-' :: taken) ∧ text = taken ++ rest := by
  obtain ⟨taken, rfl, -, htaken⟩ := unsignedNumber_takes h
  have hall := htaken [] endsNumber_nil
  rw [List.append_nil] at hall
  have hblank : ¬ IsBlank '-' := by simp [IsBlank]
  exact ⟨taken, ⟨⟨'-', taken, rfl, hblank, by decide⟩,
    value_of_readFrom (by rw [skipBlanks_cons hblank]; exact .negative hall)⟩, rfl⟩

theorem spellsNumber_of_positive {n : Number} {c : Char} (hc : c.isDigit) {text rest : List Char}
    (h : unsignedNumber false (c :: text) = .ok (n, rest)) :
    ∃ taken, SpellsNumber n (c :: taken) ∧ text = taken ++ rest := by
  obtain ⟨taken, htext, -, htaken⟩ := unsignedNumber_takes h
  have hall := htaken [] endsNumber_nil
  rw [List.append_nil] at hall
  cases taken with
  | nil => cases hall
  | cons d others =>
    obtain ⟨rfl, rfl⟩ := List.cons.inj htext
    have hblank := not_isBlank_of_isDigit hc
    refine ⟨others, ⟨⟨c, others, rfl, hblank, ?_⟩, value_of_readFrom ?_⟩, rfl⟩
    · rintro rfl
      cases hc
    · rw [skipBlanks_cons hblank]
      exact .positive hc hall

/-- **What is read is spelled.** -/
theorem front_of_value {levels : Nat} {text rest : List Char} {document : Json}
    (h : value levels text = .ok (document, rest)) : Front document text rest ∧ document.nesting ≤ levels := by
  -- an array or object is read with one level less
  induction levels using Nat.strongRecOn generalizing text rest document with
  | ind levels ih =>
    obtain ⟨blanks, hblanks, htext⟩ := exists_blanks text
    have hfrom := readFrom_of_value h
    rw [htext]
    generalize skipBlanks text = start at hfrom
    cases hfrom with
    | null => exact ⟨⟨blanks, _, hblanks, .null, rfl⟩, Nat.zero_le _⟩
    | isTrue => exact ⟨⟨blanks, _, hblanks, .isTrue, rfl⟩, Nat.zero_le _⟩
    | isFalse => exact ⟨⟨blanks, _, hblanks, .isFalse, rfl⟩, Nat.zero_le _⟩
    | string hread =>
      obtain ⟨body, hbody, rfl⟩ := spellsBody_of_stringAfterQuote hread
      exact ⟨⟨blanks, '"' :: body, hblanks, .string hbody, rfl⟩, Nat.zero_le _⟩
    | negative hread =>
      obtain ⟨taken, hspelled, rfl⟩ := spellsNumber_of_negative hread
      exact ⟨⟨blanks, '-' :: taken, hblanks, .number hspelled, rfl⟩, Nat.zero_le _⟩
    | positive hc hread =>
      obtain ⟨taken, hspelled, rfl⟩ := spellsNumber_of_positive hc hread
      exact ⟨⟨blanks, _ :: taken, hblanks, .number hspelled, rfl⟩, Nat.zero_le _⟩
    | array hl hread =>
      subst hl
      obtain ⟨⟨inside, hinside, rfl⟩, hall⟩ :=
        spellsItems_of_itemsFrom (fun _ _ _ h => ih _ (Nat.lt_succ_self _) h) hread
      exact ⟨⟨blanks, '[' :: inside, hblanks, .array hinside, rfl⟩,
        Nat.succ_le_succ (nestingItems_le_iff.mpr hall)⟩
    | @object less entries _ _ hl hread =>
      subst hl
      have hspelled : (∃ inside, SpellsMembers true entries inside ∧ _ = inside ++ rest) ∧
          Along (fun _ member => member.2.nesting ≤ less) [] entries :=
        spellsMembers_of_membersFrom
          (fun _ _ _ _ _ h => frontAfterName_of_memberValue (fun _ _ _ h => ih _ (Nat.lt_succ_self _) h) h)
          hread
      obtain ⟨⟨inside, hinside, rfl⟩, hall⟩ := hspelled
      have hlevels := nestingMembers_le_iff.mpr (along_iff_forall_mem.mp hall)
      exact ⟨⟨blanks, '\x7b' :: inside, hblanks, .object hinside, rfl⟩, Nat.succ_le_succ hlevels⟩

theorem ending_eq_ok_iff {α : Type} {result final : α} {text : List Char} :
    ending result text = .ok final ↔ final = result ∧ Blank text := by
  rw [← skipBlanks_eq_nil_iff, ending]
  cases skipBlanks text with
  | nil => simp [eq_comm]
  | cons c rest => simp [faultAt]

theorem readWhole_eq_ok_iff {α : Type} {read : Reader α} {text : String} {result : α} :
    readWhole read text = .ok result ↔ ∃ rest, read text.toList = .ok (result, rest) ∧ Blank rest := by
  rw [readWhole, mapError_eq_ok_iff, bind_eq_ok_iff]
  constructor
  · rintro ⟨⟨value, rest⟩, hread, hending⟩
    obtain ⟨rfl, hblank⟩ := ending_eq_ok_iff.mp hending
    exact ⟨rest, hread, hblank⟩
  · rintro ⟨rest, hread, hblank⟩
    exact ⟨(result, rest), hread, ending_eq_ok_iff.mpr ⟨rfl, hblank⟩⟩

/-- **A text is read as a document just if it is a text of that document** with no more levels than are
allowed. -/
theorem readWhole_value_iff {levels : Nat} {text : String} {document : Json} :
    readWhole (value levels) text = .ok document ↔
      SpellsWhole document text.toList ∧ document.nesting ≤ levels := by
  rw [readWhole_eq_ok_iff]
  constructor
  · rintro ⟨rest, hread, hrest⟩
    obtain ⟨⟨blanks, spelled, hblanks, hspelled, htext⟩, hlevels⟩ := front_of_value hread
    exact ⟨⟨blanks, spelled, rest, hblanks, hspelled, hrest, htext⟩, hlevels⟩
  · rintro ⟨⟨before, spelled, after, hbefore, hspelled, hafter, htext⟩, hlevels⟩
    have hfront : Front document text.toList after := ⟨before, spelled, hbefore, hspelled, htext⟩
    exact ⟨after, (value_of_front hfront levels fun _ => hafter.afterValue).1 hlevels, hafter⟩

/-- The document that a text holds is one that is spelled there, with each name once. -/
theorem Json.ofText_eq_ok_iff {text : String} {document : Json} :
    Json.ofText text = .ok document ↔ ∃ spelled, SpellsWhole spelled text.toList ∧
      spelled.nesting ≤ nestingLimit ∧ document = spelled.merged := by
  rw [Json.ofText]
  constructor
  · intro h
    cases hread : readWhole (value nestingLimit) text with
    | error misread =>
      rw [hread] at h
      cases h
    | ok spelled =>
      rw [hread] at h
      cases h
      obtain ⟨hspelled, hlevels⟩ := readWhole_value_iff.mp hread
      exact ⟨spelled, hspelled, hlevels, rfl⟩
  · rintro ⟨spelled, hspelled, hlevels, rfl⟩
    rw [readWhole_value_iff.mpr ⟨hspelled, hlevels⟩]
    rfl

/-- **What a text of a document is read as**: the document with each name once, unless it has too many levels. -/
theorem Json.ofText_decides {text : String} {document : Json} (h : SpellsWhole document text.toList) :
    Decides (Json.ofText text) document.merged (document.nesting ≤ nestingLimit) fun bad => bad.fault = .tooDeep := by
  refine ⟨fun hlevels => Json.ofText_eq_ok_iff.mpr ⟨document, h, hlevels, rfl⟩, fun hdeep => ?_⟩
  obtain ⟨before, spelled, after, hbefore, hspelled, hafter, htext⟩ := h
  have hfront : Front document text.toList after := ⟨before, spelled, hbefore, hspelled, htext⟩
  obtain ⟨failure, hfailure, hfault⟩ := (value_of_front hfront nestingLimit fun _ => hafter.afterValue).2 hdeep
  refine ⟨failure.misread text.toList, ?_, hfault⟩
  rw [Json.ofText, readWhole, hfailure]
  rfl

/-! ## Where a text ends -/

theorem IsBlank.not_isNumberChar {c : Char} (h : IsBlank c) : isNumberChar c = false := by
  rcases h with rfl | rfl | rfl | rfl
  all_goals rfl

/-- A number is written with characters of numbers alone. -/
theorem SpellsNumber.numeric {n : Number} {text : List Char} (h : SpellsNumber n text) : Numeric text := by
  obtain ⟨⟨c, rest, rfl, hblank, -⟩, hread⟩ := h
  have hfrom := readFrom_of_value hread
  rw [skipBlanks_cons hblank] at hfrom
  cases hfrom with
  | negative h =>
    obtain ⟨taken, htext, hnumeric, -⟩ := unsignedNumber_takes h
    rw [List.append_nil] at htext
    exact (htext ▸ hnumeric).cons rfl
  | positive hc h =>
    obtain ⟨taken, htext, hnumeric, -⟩ := unsignedNumber_takes h
    rw [List.append_nil] at htext
    exact htext ▸ hnumeric

/-- The text has an end, which is no blank. -/
def EndsValue (text : List Char) : Prop := ∃ front c, text = front ++ [c] ∧ ¬ IsBlank c

theorem EndsValue.append {text : List Char} (h : EndsValue text) (before : List Char) :
    EndsValue (before ++ text) := by
  obtain ⟨front, c, rfl, hc⟩ := h
  exact ⟨before ++ front, c, (List.append_assoc ..).symm, hc⟩

theorem EndsValue.cons {text : List Char} (h : EndsValue text) (c : Char) : EndsValue (c :: text) :=
  h.append [c]

theorem SpellsBody.ends {s text : List Char} (h : SpellsBody s text) : EndsValue text := by
  induction h with
  | close => exact ⟨[], '"', rfl, by simp [IsBlank]⟩
  | char _ _ ih => exact ih.append _

theorem SpellsItems.ends {items : List Json} {first : Bool} {inside : List Char}
    (h : SpellsItems first items inside) : EndsValue inside := by
  induction items generalizing first inside with
  | nil =>
    cases h with
    | close _ => exact ⟨_, ']', rfl, by simp [IsBlank]⟩
  | cons item rest ih =>
    cases h with
    | item _ _ hm => exact ((ih hm).append _).append _

theorem SpellsMembers.ends {members : List (String × Json)} {first : Bool} {inside : List Char}
    (h : SpellsMembers first members inside) : EndsValue inside := by
  induction members generalizing first inside with
  | nil =>
    cases h with
    | close _ => exact ⟨_, '\x7d', rfl, by simp [IsBlank]⟩
  | cons member rest ih =>
    cases h with
    | member _ _ _ _ _ hm =>
      exact (((((((ih hm).append _).append _).cons _).append _).append _).cons _).append _

/-- No text of a document ends with a blank. -/
theorem Spells.ends {document : Json} {text : List Char} (h : Spells document text) : EndsValue text := by
  cases h with
  | null => exact ⟨['n', 'u', 'l'], 'l', rfl, by simp [IsBlank]⟩
  | isTrue => exact ⟨['t', 'r', 'u'], 'e', rfl, by simp [IsBlank]⟩
  | isFalse => exact ⟨['f', 'a', 'l', 's'], 'e', rfl, by simp [IsBlank]⟩
  | number h =>
    obtain ⟨c, rest, htext, -⟩ := h.1
    obtain hnil | ⟨front, last, hlast⟩ := text.eq_nil_or_concat
    · rw [hnil] at htext
      cases htext
    · rw [List.concat_eq_append] at hlast
      refine ⟨front, last, hlast, fun hblank => ?_⟩
      have hnumber := h.numeric last (by rw [hlast]; exact List.mem_concat_self)
      rw [hblank.not_isNumberChar] at hnumber
      cases hnumber
  | string h => exact h.ends.cons _
  | array h => exact h.ends.cons _
  | object h => exact h.ends.cons _

/-- A blank at the end of a text is no part of its document. -/
theorem spellsWhole_concat_iff {document : Json} {text : List Char} {c : Char} (hc : IsBlank c) :
    SpellsWhole document (text ++ [c]) ↔ SpellsWhole document text := by
  constructor
  · rintro ⟨before, spelled, after, hbefore, hspelled, hafter, htext⟩
    obtain rfl | ⟨others, last, rfl⟩ := after.eq_nil_or_concat
    · obtain ⟨front, last, hfront, hlast⟩ := hspelled.ends.append before
      rw [List.append_nil, hfront] at htext
      obtain ⟨-, hlasts⟩ := List.append_inj' htext rfl
      cases hlasts
      exact absurd hc hlast
    · rw [List.concat_eq_append, ← List.append_assoc, ← List.append_assoc] at htext
      obtain ⟨rfl, -⟩ := List.append_inj' htext rfl
      refine ⟨before, spelled, others, hbefore, hspelled, ?_, List.append_assoc ..⟩
      exact fun d hd => hafter d (by rw [List.concat_eq_append]; exact List.mem_append_left _ hd)
  · rintro ⟨before, spelled, after, hbefore, hspelled, hafter, rfl⟩
    have hblank : Blank (after ++ [c]) := hafter.append (by simpa [Blank] using hc)
    exact ⟨before, spelled, after ++ [c], hbefore, hspelled, hblank, by simp⟩

end JsonShape

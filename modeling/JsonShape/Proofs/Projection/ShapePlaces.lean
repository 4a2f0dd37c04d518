import JsonShape.Proofs.Projection.Shape
import JsonShape.Proofs.Text.Pieces
import JsonShape.Proofs.Validation.Place

/-!
# Places in a shape

A shape is a text, and what it says about a place of the schema is read off by cutting it at the top level.

* `unionMembers` cuts a type into the members of the union that it is.
* `entriesOf` takes the first of them for a record, and says for each key whether it is marked, and its type.
* `typeAt?` goes along a path through the types of the entries and of the elements.

A path that leads to a rule of a schema leads to the shape of that rule (`typeAt?_shape`).  There the entry of a
key is marked if its rule may be missing (`get?_entriesOf`), and `null` is a member of its type if the rule may
be `null` (`null_mem_unionMembers_iff`).
-/

namespace JsonShape

namespace ShapeText

open Schema Nesting

/-- The members of the union that a type is, with the words between them left out. -/
def unionMembers (text : List Char) : List (List Char) := (pieces ' ' text).filter (· ≠ ['|'])

/-- The first member of the union that a type is. -/
def firstMember (text : List Char) : List Char := (unionMembers text).headD []

/-- The key of an entry, whether it is marked, and its type. -/
def entry? : List Char → Option (String × Bool × List Char)
  | ' ' :: text => do
    let (name, rest) ← key text
    let (marked, type) ← mark rest
    return (name, marked, type)
  | _ => none

/-- The entries of a record. -/
def entriesOf (text : List Char) : List (String × Bool × List Char) :=
  match firstMember text with
  | '\x7b' :: rest => (pieces ';' rest.dropLast.dropLast).filterMap entry?
  | _ => []

/-- The type of the elements of an array. -/
def item? (text : List Char) : Option (List Char) :=
  match (firstMember text).reverse with
  | ']' :: '[' :: ')' :: rest => some rest.dropLast.reverse
  | ']' :: '[' :: rest => some rest.reverse
  | _ => none

/-- The type one step further in. -/
def inside? (text : List Char) : Step → Option (List Char)
  | .field name => (Members.get? name (entriesOf text)).map Prod.snd
  | .index _ => item? text

/-- The type at a place. -/
def typeAt? (text : List Char) (path : Path) : Option (List Char) := follow inside? text path

/-! ## Texts of types -/

/-- The words that are written for the layers, without `optional` under a marked key. -/
def layerWords (marked : Bool) : Schema → List String
  | .optional inner => if marked then layerWords marked inner else layerWords marked inner ++ ["undefined"]
  | .nullable inner => layerWords marked inner ++ ["null"]
  | _ => []

/-- An entry of a record. -/
def entryText (field : String × Schema) : List Char :=
  (shapeKey field.1).toList ++
    ((keyMark field.2).toList ++ (shapeUnder field.2.admitsMissing field.2).toList)

theorem shapeFields_eq_flatMap (fields : List (String × Schema)) :
    (shapeFields fields).toList = fields.flatMap fun field => ';' :: ' ' :: entryText field := by
  induction fields with
  | nil => rfl
  | cons field rest ih => simp [shapeFields, entryText, ih]

theorem shapeUnder_construct_cons (marked : Bool) (first : String × Schema) (rest : List (String × Schema)) :
    (shapeUnder marked (construct (first :: rest))).toList =
      '\x7b' :: (' ' :: entryText first ++ rest.flatMap (fun field => ';' :: ' ' :: entryText field) ++ [' '] ++
        ['\x7d']) := by
  simp [shapeUnder, entryText, shapeFields_eq_flatMap]

theorem shapeUnder_array (marked : Bool) (item : Schema) :
    (shapeUnder marked (array item)).toList =
      if item.needsParentheses then '(' :: ((shapeUnder false item).toList ++ [')']) ++ ['[', ']']
      else (shapeUnder false item).toList ++ ['[', ']'] := by
  rw [shapeUnder]
  split <;> simp

theorem shapeUnder_of_isBase {rule : Schema} (h : rule.isBase) (marked : Bool) :
    shapeUnder marked rule = shape rule := by
  cases rule with
  | optional | nullable => cases h
  | construct fields => cases fields <;> rw [shape, shapeUnder, shapeUnder]
  | _ => rw [shape, shapeUnder, shapeUnder]

/-- **The text of a type**: the base rule, and a word for each layer. -/
theorem shapeUnder_eq (marked : Bool) (rule : Schema) :
    (shapeUnder marked rule).toList =
      (shape rule.base).toList ++
        (layerWords marked rule).flatMap fun word => ' ' :: '|' :: ' ' :: word.toList := by
  induction rule with
  | primitive rule hp =>
    have hb := isBase_of_primitive hp
    rw [base_of_isBase hb, shapeUnder_of_isBase hb]
    cases rule with
    | string | number | boolean => simp [layerWords]
    | construct | optional | nullable | array => cases hp
  | construct fields _ =>
    rw [base_of_isBase rfl, shapeUnder_of_isBase rfl]
    simp [layerWords]
  | array item _ =>
    rw [base_of_isBase rfl, shapeUnder_of_isBase rfl]
    simp [layerWords]
  | layer inner rule hl ih =>
    rw [hl.base]
    cases hl with
    | nullable => simp [shapeUnder, layerWords, ih]
    | optional => cases marked <;> simp [shapeUnder, layerWords, ih]

theorem isBase_of_not_needsParentheses {rule : Schema} (h : ¬ rule.needsParentheses = true) : rule.isBase := by
  cases rule <;> first | rfl | exact absurd rfl h

/-! ## Types are not cut -/

theorem isKeyChar_imp_ne {c d : Char} (hc : isKeyChar c = true) (hd : isKeyChar d = false) : c ≠ d := by
  rintro rfl
  exact Bool.noConfusion (hc.symm.trans hd)

section Moves

variable {cut : Char} {depth : Nat}

theorem moves_shapeKey (hcut : cut = ' ' ∨ cut = ';') (name : String) :
    Moves cut (bare depth) (shapeKey name).toList (bare depth) := by
  unfold shapeKey
  by_cases hp : isPlainKey name = true
  · have hkey := (isKeyChar_of_isPlainKey hp).2
    have hcutKey : isKeyChar cut = false := by rcases hcut with rfl | rfl <;> decide
    have hdelimiters : ∀ c ∈ delimiters, (!isKeyChar c) = true := List.all_eq_true.mp (by decide)
    rw [if_pos hp]
    exact moves_bare (fun c hc hd => isKeyChar_imp_ne (hkey c hc) (by simpa using hdelimiters c hd) rfl)
      fun _ hmem => isKeyChar_imp_ne (hkey cut hmem) hcutKey rfl
  · rw [if_neg hp]
    exact moves_literal (by rcases hcut with rfl | rfl <;> decide) name

/-- An entry is read without a cut where its type is, unless there is a cut at the space after its key. -/
theorem moves_entryText (hcut : cut = ' ' ∨ cut = ';') (h : depth = 0 → cut = ';') {field : String × Schema}
    (htype : Moves cut (bare depth) (shapeUnder field.2.admitsMissing field.2).toList (bare depth)) :
    Moves cut (bare depth) (' ' :: entryText field) (bare depth) := by
  have hmark : Moves cut (bare depth) (keyMark field.2).toList (bare depth) := by
    unfold keyMark
    split
    · exact moves_bare (by decide) fun hd => by rw [h hd]; decide
    · exact moves_bare (by decide) fun hd => by rw [h hd]; decide
  have hspace : Moves cut (bare depth) [' '] (bare depth) :=
    moves_bare (by decide) fun hd => by rw [h hd]; decide
  exact hspace.append ((moves_shapeKey hcut field.1).append (hmark.append htype))

/-- A record is read without a cut if its entries are further in, where spaces and semicolons do no harm. -/
theorem moves_record (hcut : cut = ' ' ∨ cut = ';') (marked : Bool) {fields : List (String × Schema)}
    (h : ∀ field ∈ fields, Moves cut (bare (depth + 1)) (' ' :: entryText field) (bare (depth + 1))) :
    Moves cut (bare depth) (shapeUnder marked (construct fields)).toList (bare depth) := by
  have hplain : cut ∉ delimiters := by rcases hcut with rfl | rfl <;> decide
  cases fields with
  | nil =>
    have hempty : (shapeUnder marked (construct [])).toList = '\x7b' :: ([] ++ ['\x7d']) := by
      simp [shapeUnder]
    rw [hempty]
    exact moves_brackets hplain (by decide) .nil
  | cons first rest =>
    obtain ⟨hfirst, hrest⟩ := List.forall_mem_cons.mp h
    have hsemicolon : Moves cut (bare (depth + 1)) [';'] (bare (depth + 1)) := moves_bare (by decide) (by simp)
    have hspace : Moves cut (bare (depth + 1)) [' '] (bare (depth + 1)) := moves_bare (by decide) (by simp)
    have hothers : Moves cut (bare (depth + 1)) (rest.flatMap fun field => ';' :: ' ' :: entryText field)
        (bare (depth + 1)) := .flatMap fun field hf => hsemicolon.append (hrest field hf)
    rw [shapeUnder_construct_cons]
    exact moves_brackets hplain (by decide) ((hfirst.append hothers).append hspace)

/-- The type of an array is read without a cut if that of its elements is, inside of parentheses if it has some. -/
theorem moves_array (hcut : cut = ' ' ∨ cut = ';') (marked : Bool) {item : Schema}
    (hinside : item.needsParentheses = true →
      Moves cut (bare (depth + 1)) (shapeUnder false item).toList (bare (depth + 1)))
    (hbare : ¬ item.needsParentheses = true →
      Moves cut (bare depth) (shapeUnder false item).toList (bare depth)) :
    Moves cut (bare depth) (shapeUnder marked (array item)).toList (bare depth) := by
  have hplain : cut ∉ delimiters := by rcases hcut with rfl | rfl <;> decide
  have hempty : Moves cut (bare depth) ('[' :: ([] ++ [']'])) (bare depth) :=
    moves_brackets hplain (by decide) .nil
  rw [shapeUnder_array]
  by_cases hp : item.needsParentheses = true
  · rw [if_pos hp]
    exact (moves_brackets hplain (by decide) (hinside hp)).append hempty
  · rw [if_neg hp]
    exact (hbare hp).append hempty

/-- The text of a type is read without a cut, unless there are spaces before the words for layers to cut at. -/
theorem moves_shapeUnder (hcut : cut = ' ' ∨ cut = ';') {rule : Schema} (marked : Bool)
    (h : depth = 0 → cut = ';' ∨ rule.isBase) :
    Moves cut (bare depth) (shapeUnder marked rule).toList (bare depth) := by
  induction rule generalizing marked depth with
  | primitive rule hp =>
    cases rule with
    | string | number | boolean =>
      rw [shapeUnder]
      refine moves_bare (by decide) fun _ => ?_
      rcases hcut with rfl | rfl <;> decide
    | construct | optional | nullable | array => cases hp
  | construct fields ih =>
    exact moves_record hcut marked fun field hf => moves_entryText hcut (by simp) (ih field hf _ (by simp))
  | array item ih =>
    -- without parentheses there are no layers around the element either
    exact moves_array hcut marked (fun _ => ih false (by simp))
      fun hp => ih false fun _ => .inr (isBase_of_not_needsParentheses hp)
  | layer inner rule hl ih =>
    -- the word of a layer comes after a space, so here only cuts at semicolons are left
    have hlayer : ¬ rule.isBase = true := by cases hl <;> exact Bool.false_ne_true
    have hspace : depth = 0 → cut = ';' := fun hd => (h hd).resolve_right hlayer
    have htype := ih marked fun hd => .inl (hspace hd)
    have hnull : Moves cut (bare depth) " | null".toList (bare depth) :=
      moves_bare (by decide) fun hd => by rw [hspace hd]; decide
    have hundefined : Moves cut (bare depth) " | undefined".toList (bare depth) :=
      moves_bare (by decide) fun hd => by rw [hspace hd]; decide
    cases hl with
    | nullable =>
      rw [shapeUnder, String.toList_append]
      exact htype.append hnull
    | optional =>
      rw [shapeUnder]
      cases marked with
      | true => exact htype
      | false =>
        rw [if_neg Bool.false_ne_true, String.toList_append]
        exact htype.append hundefined

end Moves

/-! ## Members of a union -/

theorem mem_layerWords {marked : Bool} {rule : Schema} {word : String} (h : word ∈ layerWords marked rule) :
    word = "null" ∨ word = "undefined" := by
  induction rule with
  | primitive rule hp =>
    cases rule with
    | string | number | boolean => cases h
    | construct | optional | nullable | array => cases hp
  | construct fields _ => cases h
  | array item _ => cases h
  | layer inner rule hl ih =>
    cases hl with
    | nullable =>
      rcases List.mem_append.mp h with h | h
      · exact ih h
      · exact .inl (List.mem_singleton.mp h)
    | optional =>
      rw [layerWords] at h
      cases marked with
      | true => exact ih h
      | false =>
        rcases List.mem_append.mp h with h | h
        · exact ih h
        · exact .inr (List.mem_singleton.mp h)

theorem null_mem_layerWords_iff (marked : Bool) (rule : Schema) :
    "null" ∈ layerWords marked rule ↔ rule.admitsNull = true := by
  induction rule with
  | primitive rule hp =>
    cases rule with
    | string | number | boolean => simp [layerWords, admitsNull]
    | construct | optional | nullable | array => cases hp
  | construct fields _ => simp [layerWords, admitsNull]
  | array item _ => simp [layerWords, admitsNull]
  | layer inner rule hl ih =>
    cases hl with
    | nullable => simp [layerWords, admitsNull]
    | optional => cases marked <;> simp [layerWords, admitsNull, ih]

/-- The text of a base rule ends in a letter of its word, or in the bracket of a record or an array. -/
theorem exists_last_shape {rule : Schema} (h : rule.isBase) :
    ∃ text, ∃ last ∈ ['g', 'r', 'n', '\x7d', ']'], (shape rule).toList = text ++ [last] := by
  cases rule with
  | string => exact ⟨"strin".toList, 'g', by decide, by simp [shape, shapeUnder]⟩
  | number => exact ⟨"numbe".toList, 'r', by decide, by simp [shape, shapeUnder]⟩
  | boolean => exact ⟨"boolea".toList, 'n', by decide, by simp [shape, shapeUnder]⟩
  | construct fields =>
    cases fields with
    | nil => exact ⟨['\x7b'], '\x7d', by decide, by simp [shape, shapeUnder]⟩
    | cons first rest => exact ⟨'\x7b' :: _, '\x7d', by decide, shapeUnder_construct_cons false first rest⟩
  | array item =>
    obtain ⟨text, htext⟩ : ∃ text, (shape (array item)).toList = text ++ ['[', ']'] := by
      rw [shape, shapeUnder_array]
      split <;> exact ⟨_, rfl⟩
    exact ⟨text ++ ['['], ']', by decide, by rw [htext, List.append_assoc, List.singleton_append]⟩
  | optional | nullable => cases h

/-- No base rule has a text with another last character. -/
theorem shape_ne_concat {rule : Schema} (h : rule.isBase) (text : List Char) {last : Char}
    (hl : last ∉ ['g', 'r', 'n', '\x7d', ']']) : (shape rule).toList ≠ text ++ [last] := by
  obtain ⟨text', last', hmem, he⟩ := exists_last_shape h
  rw [he]
  intro heq
  exact hl (List.singleton_inj.mp (List.append_inj_right' heq rfl) ▸ hmem)

theorem unionMembers_shapeUnder (marked : Bool) (rule : Schema) :
    unionMembers (shapeUnder marked rule).toList =
      (shape rule.base).toList :: (layerWords marked rule).map String.toList := by
  have hbase : Moves ' ' (bare 0) (shape rule.base).toList (bare 0) :=
    moves_shapeUnder (.inl rfl) false fun _ => .inr rule.isBase_base
  have hbar : (shape rule.base).toList ≠ ['|'] := shape_ne_concat rule.isBase_base [] (by decide)
  have hmoves : ∀ piece ∈ (layerWords marked rule).flatMap fun word => [['|'], word.toList],
      Moves ' ' (bare 0) piece (bare 0) := by
    simp only [List.mem_flatMap]
    rintro piece ⟨word, hw, hp⟩
    refine moves_bare ?_ fun _ => ?_
    · rcases mem_layerWords hw with rfl | rfl <;> revert piece <;> decide
    · rcases mem_layerWords hw with rfl | rfl <;> revert piece <;> decide
  have hfilter : ((layerWords marked rule).flatMap fun word => [['|'], word.toList]).filter (· ≠ ['|']) =
      (layerWords marked rule).map String.toList := by
    rw [List.filter_flatMap, List.map_eq_flatMap]
    refine List.flatMap_congr fun word hw => ?_
    rcases mem_layerWords hw with rfl | rfl <;> rfl
  have htext : (shapeUnder marked rule).toList = (shape rule.base).toList ++
      ((layerWords marked rule).flatMap fun word => [['|'], word.toList]).flatMap (' ' :: ·) := by
    rw [shapeUnder_eq, List.flatMap_assoc]
    simp
  rw [unionMembers, htext, pieces_marked hbase hmoves, List.filter_cons_of_pos (by simpa using hbar), hfilter]

example : unionMembers "(string | null)[] | undefined".toList =
    ["(string | null)[]".toList, "undefined".toList] := by decide

/-- **`null` is a member of the type of a rule that admits it**, and of no other. -/
theorem null_mem_unionMembers_iff (marked : Bool) (rule : Schema) :
    "null".toList ∈ unionMembers (shapeUnder marked rule).toList ↔ rule.admitsNull = true := by
  have hbase : "null".toList ≠ (shape rule.base).toList :=
    (shape_ne_concat rule.isBase_base ['n', 'u', 'l'] (by decide)).symm
  rw [unionMembers_shapeUnder, List.mem_cons, or_iff_right hbase,
    List.mem_map_of_injective fun _ _ => String.toList_inj.mp, null_mem_layerWords_iff]

theorem firstMember_shapeUnder (marked : Bool) (rule : Schema) :
    firstMember (shapeUnder marked rule).toList = (shape rule.base).toList := by
  rw [firstMember, unionMembers_shapeUnder, List.headD_cons]

/-! ## Entries and elements -/

theorem entry?_entryText (field : String × Schema) :
    entry? (' ' :: entryText field) =
      some (field.1, field.2.admitsMissing, (shapeUnder field.2.admitsMissing field.2).toList) := by
  obtain ⟨c, text, htext, hc, hmark⟩ :=
    mark_keyMark field.2 (shapeUnder field.2.admitsMissing field.2).toList
  rw [entryText, htext, entry?, key_shapeKey field.1 hc]
  simp [hmark]

/-- The entries of a record are its keys, marked if they may be missing, with their types. -/
theorem entriesOf_shapeUnder (marked : Bool) {rule : Schema} {fields : List (String × Schema)}
    (hb : rule.base = construct fields) :
    entriesOf (shapeUnder marked rule).toList = fields.map fun field =>
      (field.1, field.2.admitsMissing, (shapeUnder field.2.admitsMissing field.2).toList) := by
  rw [entriesOf, firstMember_shapeUnder, hb]
  cases fields with
  | nil => simp [shape, shapeUnder, pieces, piecesFrom, entry?]
  | cons first rest =>
    have hmoves : ∀ field, Moves ';' (bare 0) (' ' :: entryText field) (bare 0) := fun field =>
      moves_entryText (.inr rfl) (fun _ => rfl) (moves_shapeUnder (.inr rfl) _ fun _ => .inl rfl)
    have hothers : (rest.flatMap fun field => ';' :: ' ' :: entryText field) =
        (rest.map fun field => ' ' :: entryText field).flatMap (';' :: ·) := (List.flatMap_map _ _ _).symm
    have hpieces := pieces_marked (hmoves first)
      (List.forall_mem_map.mpr fun field (_ : field ∈ rest) => hmoves field)
    have hentries : ∀ fields : List (String × Schema),
        (fields.map fun field => ' ' :: entryText field).filterMap entry? = fields.map fun field =>
          (field.1, field.2.admitsMissing, (shapeUnder field.2.admitsMissing field.2).toList) := by
      intro fields
      rw [List.filterMap_map, ← List.filterMap_eq_map]
      exact List.filterMap_congr fun field _ => entry?_entryText field
    rw [shape, shapeUnder_construct_cons, hothers]
    simp only [List.dropLast_concat]
    rw [hpieces]
    exact hentries (first :: rest)

/-- **The entry of a key** is marked if its rule may be missing, and its type is that of the rule. -/
theorem get?_entriesOf (marked : Bool) {rule inner : Schema} {name : String}
    (h : rule.inside? (.field name) = some inner) :
    Members.get? name (entriesOf (shapeUnder marked rule).toList) =
      some (inner.admitsMissing, (shapeUnder inner.admitsMissing inner).toList) := by
  obtain ⟨fields, hb, hget⟩ := inside?_field_eq_some_iff.mp h
  let entry (rule : Schema) := (rule.admitsMissing, (shapeUnder rule.admitsMissing rule).toList)
  rw [entriesOf_shapeUnder marked hb, Members.get?_map entry, hget]
  rfl

/-- The type of the elements is that of their rule, with or without parentheses. -/
theorem item?_shapeUnder (marked : Bool) {rule item : Schema} (hb : rule.base = array item) :
    item? (shapeUnder marked rule).toList = some (shapeUnder false item).toList := by
  rw [item?, firstMember_shapeUnder, hb, shape, shapeUnder_array]
  by_cases hp : item.needsParentheses = true
  · rw [if_pos hp]
    simp
  · obtain ⟨text, last, hmem, htext⟩ := exists_last_shape (isBase_of_not_needsParentheses hp)
    rw [shape] at htext
    have hclose : last ≠ ')' := fun he => absurd (he ▸ hmem) (by decide)
    rw [if_neg hp, htext]
    simp [hclose]

/-- One step into a rule is one step into the text of its type. -/
theorem inside?_shapeUnder {rule inner : Schema} {step : Step} (h : rule.inside? step = some inner)
    (marked : Bool) :
    ∃ marked', inside? (shapeUnder marked rule).toList step = some (shapeUnder marked' inner).toList := by
  cases step with
  | field name => exact ⟨inner.admitsMissing, by rw [inside?, get?_entriesOf marked h]; rfl⟩
  | index i => exact ⟨false, item?_shapeUnder marked (inside?_index_eq_some_iff.mp h)⟩

/-- **A path to a rule leads to its shape**, or to what is written of it under a marked key. -/
theorem typeAt?_shape {rule inner : Schema} {path : Path} (h : rule.at? path = some inner) :
    ∃ marked, typeAt? rule.shape.toList path = some (shapeUnder marked inner).toList := by
  have hstep : ∀ (rule : Schema) (text : List Char), (∃ marked, text = (shapeUnder marked rule).toList) →
      ∀ step inner, rule.inside? step = some inner →
        ∃ text', inside? text step = some text' ∧ ∃ marked, text' = (shapeUnder marked inner).toList := by
    rintro rule _ ⟨marked, rfl⟩ step inner hi
    obtain ⟨marked', he⟩ := inside?_shapeUnder hi marked
    exact ⟨_, he, marked', rfl⟩
  obtain ⟨_, hfollow, marked, rfl⟩ := follow_simulates hstep ⟨false, rfl⟩ h
  exact ⟨marked, hfollow⟩

end ShapeText

end JsonShape

import JsonShape.Projection.Shape
import JsonShape.Proofs.Text.Literal
import JsonShape.Proofs.Validation.Parse

/-!
# What the shape of a schema shows

The shape of a schema is unambiguous but for one thing: under a key that is marked as one that may be
missing, the layers of `optional` are not written.

* `Schema.shownUnder` is the schema that a shape shows, with one layer of `optional` directly under each
  marked key and none further in.
* `ShapeText.type` reads a shape back.  A type begins with a word, a record or parentheses, and the layers
  follow it from the inside out, so that reading a printed type amounts to reading on from the schema that
  it shows (`type_shapeUnder`).
* A schema accepts and makes of its inputs what the schema shown by its shape does
  (`conforms_shownUnder`, `prune_shownUnder`), so schemas of one shape behave alike.
-/

namespace JsonShape

namespace Schema

mutual

/-- The schema that a shape shows; under a marked key without the layers of `optional`. -/
def shownUnder (marked : Bool) : Schema → Schema
  | string => string
  | number => number
  | boolean => boolean
  | construct fields => construct (shownFields fields)
  | nullable inner => nullable (shownUnder marked inner)
  | optional inner => if marked then shownUnder marked inner else optional (shownUnder marked inner)
  | array item => array (shownUnder false item)

/-- Each field that may be missing has one layer of `optional` for it. -/
def shownFields : List (String × Schema) → List (String × Schema)
  | [] => []
  | (name, rule) :: rest =>
    (name, if rule.admitsMissing then optional (shownUnder true rule) else shownUnder false rule) ::
      shownFields rest

end

end Schema

open Schema

/-! ## Reading a shape -/

namespace ShapeText

/-- Takes the layers that are written after a type, the innermost one first. -/
def layers (rule : Schema) : List Char → Schema × List Char
  | '[' :: ']' :: rest => layers (.array rule) rest
  | ' ' :: '|' :: ' ' :: 'n' :: 'u' :: 'l' :: 'l' :: rest => layers (.nullable rule) rest
  | ' ' :: '|' :: ' ' :: 'u' :: 'n' :: 'd' :: 'e' :: 'f' :: 'i' :: 'n' :: 'e' :: 'd' :: rest =>
    layers (.optional rule) rest
  | rest => (rule, rest)

/-- Whether a character can stand in a key without quotation marks. -/
def isKeyChar (c : Char) : Bool := isAlphanumeric c || c == '_' || c == '$'

/-- Takes a key, with or without quotation marks. -/
def key : List Char → Option (String × List Char)
  | '"' :: rest => (literalFrom none rest).map fun (body, rest) => (String.ofList body, rest)
  | text => some (String.ofList (text.takeWhile isKeyChar), text.dropWhile isKeyChar)

/-- Takes what stands between a key and its type: whether the key is marked. -/
def mark : List Char → Option (Bool × List Char)
  | '?' :: ':' :: ' ' :: rest => some (true, rest)
  | ':' :: ' ' :: rest => some (false, rest)
  | _ => none

mutual

/-- Takes a type; parentheses and records take one unit of fuel for what is inside. -/
def type : Nat → List Char → Option (Schema × List Char)
  | 0, _ => none
  | _ + 1, 's' :: 't' :: 'r' :: 'i' :: 'n' :: 'g' :: rest => some (layers .string rest)
  | _ + 1, 'n' :: 'u' :: 'm' :: 'b' :: 'e' :: 'r' :: rest => some (layers .number rest)
  | _ + 1, 'b' :: 'o' :: 'o' :: 'l' :: 'e' :: 'a' :: 'n' :: rest => some (layers .boolean rest)
  | _ + 1, '\x7b' :: '\x7d' :: rest => some (layers (.construct []) rest)
  | fuel + 1, '\x7b' :: ' ' :: rest => do
    let (fields, rest) ← entries fuel rest
    return layers (.construct fields) rest
  | fuel + 1, '(' :: rest => do
    match ← type fuel rest with
    | (rule, ')' :: rest) => return layers rule rest
    | _ => none
  | _ + 1, _ => none

/-- Takes the entries of a record and its closing brace; each further entry takes one unit of fuel. -/
def entries : Nat → List Char → Option (List (String × Schema) × List Char)
  | 0, _ => none
  | fuel + 1, text => do
    let (name, rest) ← key text
    let (marked, rest) ← mark rest
    let (rule, rest) ← type fuel rest
    let field := (name, if marked then .optional rule else rule)
    match rest with
    | ';' :: ' ' :: rest => do
      let (fields, rest) ← entries fuel rest
      return (field :: fields, rest)
    | ' ' :: '\x7d' :: rest => return ([field], rest)
    | _ => none

end

/-! ## Keys -/

theorem isKeyChar_of_isPlainKey {name : String} (h : isPlainKey name = true) :
    name.toList ≠ [] ∧ ∀ c ∈ name.toList, isKeyChar c = true := by
  unfold isPlainKey at h
  split at h
  · cases h
  · rename_i c rest heq
    rw [heq]
    obtain ⟨hfirst, hrest⟩ := (Bool.and_eq_true _ _).mp h
    refine ⟨List.cons_ne_nil _ _, ?_⟩
    intro d hd
    rcases List.mem_cons.mp hd with rfl | hd
    · simp only [isKeyChar, isAlphanumeric, Bool.or_eq_true] at hfirst ⊢
      tauto
    · exact List.all_eq_true.mp hrest d hd

/-- A key reads back before any character that cannot go on with it. -/
theorem key_shapeKey (name : String) {c : Char} (hc : isKeyChar c = false) (rest : List Char) :
    key ((shapeKey name).toList ++ c :: rest) = some (name, c :: rest) := by
  unfold shapeKey
  by_cases hp : isPlainKey name = true
  · rw [if_pos hp]
    obtain ⟨hne, hall⟩ := isKeyChar_of_isPlainKey hp
    obtain ⟨d, others, hd⟩ := List.exists_cons_of_ne_nil hne
    have hquote : d ≠ '"' := by
      rintro rfl
      have : isKeyChar '"' = true := hall _ (by rw [hd]; exact List.mem_cons_self)
      exact absurd this (by decide)
    have hkey : key (name.toList ++ c :: rest) =
        some (String.ofList ((name.toList ++ c :: rest).takeWhile isKeyChar),
          (name.toList ++ c :: rest).dropWhile isKeyChar) := by
      rw [hd, List.cons_append, key.eq_2 _ (fun _ e => hquote (List.cons.inj e).1)]
    rw [hkey, List.takeWhile_append_of_pos hall, List.dropWhile_append_of_pos hall,
      List.takeWhile_cons_of_neg (by simp [hc]), List.dropWhile_cons_of_neg (by simp [hc]),
      List.append_nil, String.ofList_toList]
  · rw [if_neg hp]
    obtain ⟨body, hb, hread⟩ := literalFrom_literal name (c :: rest)
    rw [hb, List.cons_append, key, hread]
    simp

/-- The mark after a key reads back, and it cannot be taken for a part of the key. -/
theorem mark_keyMark (rule : Schema) (rest : List Char) :
    ∃ c text, (keyMark rule).toList ++ rest = c :: text ∧ isKeyChar c = false ∧
      mark (c :: text) = some (rule.admitsMissing, rest) := by
  unfold keyMark
  cases rule.admitsMissing with
  | true => exact ⟨'?', ':' :: ' ' :: rest, by simp, by decide, rfl⟩
  | false => exact ⟨':', ' ' :: rest, by simp, by decide, rfl⟩

/-! ## Types -/

/-- With enough fuel, to read the printed type of a schema is to read on from the schema that it shows. -/
def ReadsBack (marked : Bool) (rule : Schema) : Prop :=
  ∃ enough, ∀ fuel ≥ enough, ∀ rest,
    type fuel ((shapeUnder marked rule).toList ++ rest) = some (layers (shownUnder marked rule) rest)

/-- A reading that takes one unit of fuel for itself. -/
theorem ReadsBack.of_succ {marked : Bool} {rule : Schema} (enough : Nat)
    (h : ∀ fuel ≥ enough, ∀ rest,
      type (fuel + 1) ((shapeUnder marked rule).toList ++ rest) = some (layers (shownUnder marked rule) rest)) :
    ReadsBack marked rule :=
  ⟨enough + 1, fun
    | 0, hf => absurd hf (Nat.not_succ_le_zero _)
    | fuel + 1, hf => h fuel (Nat.le_of_succ_le_succ hf)⟩

/-- An entry whose type reads back, and what is read after it. -/
theorem entries_entry (name : String) (rule : Schema) {fuel : Nat} {text after : List Char} :
    type fuel text = some (shownUnder rule.admitsMissing rule, after) →
    entries (fuel + 1) ((shapeKey name).toList ++ ((keyMark rule).toList ++ text)) =
      match after with
      | ';' :: ' ' :: rest =>
        (entries fuel rest).map fun (fields, rest) => (shownFields [(name, rule)] ++ fields, rest)
      | ' ' :: '\x7d' :: rest => some (shownFields [(name, rule)], rest)
      | _ => none := by
  intro h
  obtain ⟨c, more, hmore, hc, hmark⟩ := mark_keyMark rule text
  have hfield : shownFields [(name, rule)] = [(name, if rule.admitsMissing
      then optional (shownUnder rule.admitsMissing rule) else shownUnder rule.admitsMissing rule)] := by
    cases hm : rule.admitsMissing <;> simp [shownFields, hm]
  rw [hmore, entries, key_shapeKey name hc, hfield]
  simp only [Option.bind_eq_bind, Option.bind_some, hmark, h]
  split
  · rw [Option.map_eq_bind]
    rfl
  · rfl
  · rfl

/-- The entries of a record, of which the first comes without a semicolon. -/
theorem entries_readBack (name : String) (rule : Schema) (others : List (String × Schema))
    (h : ∀ field ∈ (name, rule) :: others, ∀ marked, ReadsBack marked field.2) :
    ∃ enough, ∀ fuel ≥ enough, ∀ rest,
      entries fuel ((shapeKey name).toList ++ ((keyMark rule).toList ++
        ((shapeUnder rule.admitsMissing rule).toList ++
          ((shapeFields others).toList ++ ' ' :: '\x7d' :: rest)))) =
        some (shownFields ((name, rule) :: others), rest) := by
  -- no layer begins as the end of an entry does, so its type is read up to there
  have hlayers : ∀ shown text, layers shown (' ' :: '\x7d' :: text) = (shown, ' ' :: '\x7d' :: text) ∧
      layers shown (';' :: ' ' :: text) = (shown, ';' :: ' ' :: text) := by
    intro shown text
    simp [layers]
  induction others generalizing name rule with
  | nil =>
    obtain ⟨enough, hrule⟩ := h _ List.mem_cons_self rule.admitsMissing
    refine ⟨enough + 1, fun fuel hf rest => ?_⟩
    obtain ⟨fuel, rfl⟩ : ∃ less, fuel = less + 1 := ⟨fuel - 1, by omega⟩
    have htype := hrule fuel (by omega) (' ' :: '\x7d' :: rest)
    rw [(hlayers _ _).1] at htype
    exact entries_entry name rule htype
  | cons next others ih =>
    obtain ⟨enough, hrule⟩ := h _ List.mem_cons_self rule.admitsMissing
    obtain ⟨more, hothers⟩ := ih next.1 next.2 fun field hf => h field (List.mem_cons_of_mem _ hf)
    refine ⟨max enough more + 1, fun fuel hf rest => ?_⟩
    obtain ⟨fuel, rfl⟩ : ∃ less, fuel = less + 1 := ⟨fuel - 1, by omega⟩
    have htext : (shapeFields (next :: others)).toList ++ ' ' :: '\x7d' :: rest =
        ';' :: ' ' :: ((shapeKey next.1).toList ++ ((keyMark next.2).toList ++
          ((shapeUnder next.2.admitsMissing next.2).toList ++
            ((shapeFields others).toList ++ ' ' :: '\x7d' :: rest)))) := by
      simp [shapeFields]
    have htype := hrule fuel (by omega) ((shapeFields (next :: others)).toList ++ ' ' :: '\x7d' :: rest)
    rw [htext, (hlayers _ _).2] at htype
    rw [htext, entries_entry name rule htype]
    simp only [hothers fuel (by omega)]
    rfl

/-- **A shape reads back** as the schema that it shows. -/
theorem type_shapeUnder (rule : Schema) (marked : Bool) : ReadsBack marked rule := by
  -- under a marked key the optional layers of a field are not shown, so the mark goes along
  induction rule generalizing marked with
  | primitive rule hp =>
    refine .of_succ 0 fun fuel _ rest => ?_
    cases rule with
    | string | number | boolean => simp [shapeUnder, shownUnder, type]
    | _ => cases hp
  | construct fields ih =>
    cases fields with
    | nil =>
      refine .of_succ 0 fun fuel _ rest => ?_
      simp [shapeUnder, shownUnder, shownFields, type]
    | cons first others =>
      obtain ⟨enough, hfields⟩ := entries_readBack first.1 first.2 others ih
      refine .of_succ enough fun fuel hf rest => ?_
      have htext : (shapeUnder marked (construct (first :: others))).toList ++ rest =
          '\x7b' :: ' ' :: ((shapeKey first.1).toList ++ ((keyMark first.2).toList ++
            ((shapeUnder first.2.admitsMissing first.2).toList ++
              ((shapeFields others).toList ++ ' ' :: '\x7d' :: rest)))) := by
        simp [shapeUnder]
      rw [htext, type, hfields fuel hf]
      rfl
  | array item ih =>
    obtain ⟨enough, hitem⟩ := ih false
    -- brackets bind closer than bars, so an item with bars stands in parentheses
    by_cases hp : item.needsParentheses = true
    · refine .of_succ enough fun fuel hf rest => ?_
      have htext : (shapeUnder marked (array item)).toList ++ rest =
          '(' :: ((shapeUnder false item).toList ++ ')' :: '[' :: ']' :: rest) := by
        simp [shapeUnder, hp]
      rw [htext, type, hitem fuel hf]
      rfl
    · refine ⟨enough, fun fuel hf rest => ?_⟩
      have htext : (shapeUnder marked (array item)).toList ++ rest =
          (shapeUnder false item).toList ++ '[' :: ']' :: rest := by
        simp [shapeUnder, hp]
      rw [htext, hitem fuel hf]
      rfl
  | layer inner rule hl ih =>
    obtain ⟨enough, hinner⟩ := ih marked
    refine ⟨enough, fun fuel hf rest => ?_⟩
    cases hl with
    | nullable =>
      have htext : (shapeUnder marked (nullable inner)).toList ++ rest =
          (shapeUnder marked inner).toList ++ (" | null".toList ++ rest) := by
        simp [shapeUnder]
      rw [htext, hinner fuel hf]
      rfl
    | optional =>
      cases marked with
      | true => exact hinner fuel hf rest
      | false =>
        have htext : (shapeUnder false (optional inner)).toList ++ rest =
            (shapeUnder false inner).toList ++ (" | undefined".toList ++ rest) := by
          simp [shapeUnder]
        rw [htext, hinner fuel hf]
        rfl

end ShapeText

/-! ## What is shown behaves alike -/

theorem shownUnder_of_primitive {rule : Schema} (h : rule.isPrimitive) (marked : Bool) :
    rule.shownUnder marked = rule := by
  cases rule <;> first | rfl | cases h

theorem shownFields_eq_map (fields : List (String × Schema)) :
    shownFields fields = fields.map fun field =>
      (field.1, if field.2.admitsMissing then optional (shownUnder true field.2)
        else shownUnder false field.2) := by
  induction fields with
  | nil => rfl
  | cons field rest ih => rw [shownFields, ih]; rfl

/-- What is shown accepts the same; under a marked key, of what is present. -/
theorem conforms_shownUnder (rule : Schema) (marked : Bool) {input : Option Json}
    (h : marked = true → input ≠ none) :
    Conforms (rule.shownUnder marked) input ↔ Conforms rule input := by
  induction rule generalizing marked input with
  | primitive rule hp => rw [shownUnder_of_primitive hp]
  | construct fields ih =>
    -- a field that may be missing is shown as optional, whatever layers say so
    have hfield : ∀ field ∈ fields, ∀ input,
        Conforms (if field.2.admitsMissing then optional (shownUnder true field.2)
          else shownUnder false field.2) input ↔ Conforms field.2 input := by
      intro field hf input
      by_cases hm : field.2.admitsMissing = true
      · rw [if_pos hm]
        cases input with
        | none => exact iff_of_true (.missing _) (conforms_none_iff.mpr hm)
        | some value =>
          rw [conforms_layer_iff .optional rfl]
          exact ih field hf true (fun _ => Option.some_ne_none value)
      · rw [if_neg hm]
        exact ih field hf false (fun e => by cases e)
    rw [shownUnder, conforms_construct_iff, conforms_construct_iff]
    refine exists_congr fun members => and_congr_right fun _ => ?_
    rw [shownFields_eq_map, List.forall_mem_map]
    exact forall₂_congr fun field hf => hfield field hf _
  | array item ih =>
    rw [shownUnder, conforms_array_iff, conforms_array_iff]
    refine exists_congr fun items => and_congr_right fun _ => forall₂_congr fun value _ => ?_
    exact ih false (fun e => by cases e)
  | layer inner rule hl ih =>
    cases hl with
    | nullable =>
      rw [shownUnder]
      by_cases hn : input = some .null
      · subst hn
        exact iff_of_true (.null _) (.null _)
      · -- past `null` the layer lets nothing through outright
        have ht : ∀ inner, (nullable inner).letsThrough input = false := by
          intro inner
          rcases input with _ | (_ | _ | _ | _ | _ | _) <;> first | rfl | exact absurd rfl hn
        rw [conforms_layer_iff .nullable (ht _), conforms_layer_iff .nullable (ht _)]
        exact ih marked h
    | optional =>
      cases input with
      | none =>
        cases marked with
        | true => exact absurd rfl (h rfl)
        | false => exact iff_of_true (.missing _) (.missing _)
      | some value =>
        rw [conforms_layer_iff .optional rfl, ← ih marked h, shownUnder]
        cases marked with
        | true => rfl
        | false => exact conforms_layer_iff .optional rfl

theorem prune_shownUnder (rule : Schema) (marked : Bool) (document : Json) :
    (rule.shownUnder marked).prune document = rule.prune document := by
  induction rule generalizing marked document with
  | primitive rule hp => rw [shownUnder_of_primitive hp]
  | construct fields ih =>
    -- being optional is no part of what a rule makes of a document
    have hfields : ∀ members, pruneFields (shownFields fields) members = pruneFields fields members := by
      intro members
      induction fields with
      | nil => rfl
      | cons field rest ihr =>
        have hrule : (if field.2.admitsMissing then optional (shownUnder true field.2)
            else shownUnder false field.2).prune = field.2.prune := by
          funext value
          split
          · exact ih field List.mem_cons_self true value
          · exact ih field List.mem_cons_self false value
        have hrest := ihr fun field hf => ih field (List.mem_cons_of_mem _ hf)
        rw [shownFields, pruneFields, pruneFields, hrest, hrule]
    cases document with
    | object members => rw [shownUnder, prune, prune, hfields]
    | _ => rfl
  | array item ih =>
    cases document with
    | array items =>
      rw [shownUnder, prune, prune, show (item.shownUnder false).prune = item.prune from funext (ih false)]
    | _ => rfl
  | layer inner rule hl ih =>
    cases hl with
    | nullable => exact ih marked document
    | optional =>
      cases marked with
      | true => exact ih true document
      | false => exact ih false document

/-! ## Schemas of one shape -/

theorem shownUnder_eq_of_shape_eq {first second : Schema} (h : first.shape = second.shape) :
    first.shownUnder false = second.shownUnder false := by
  obtain ⟨enough, hfirst⟩ := ShapeText.type_shapeUnder first false
  obtain ⟨more, hsecond⟩ := ShapeText.type_shapeUnder second false
  have hone := hfirst (max enough more) (by omega) []
  have htwo := hsecond (max enough more) (by omega) []
  rw [shape, shape] at h
  rw [h, htwo] at hone
  exact (Prod.mk.inj (Option.some.inj hone)).1.symm

/-- **Schemas of one shape behave alike**: under a cap that covers both, they accept the same and make the
same of it, to the order of the fields. -/
theorem parse_eq_of_shape_eq {first second : Schema} (h : first.shape = second.shape) {cap : Nat}
    (hfirst : first.depth ≤ cap) (hsecond : second.depth ≤ cap) (input out : Option Json) :
    first.parse input cap = .ok out ↔ second.parse input cap = .ok out := by
  have hshown := shownUnder_eq_of_shape_eq h
  have hc : Conforms first input ↔ Conforms second input := by
    rw [← conforms_shownUnder first false (fun e => by cases e), hshown,
      conforms_shownUnder second false (fun e => by cases e)]
  have hp : first.prune = second.prune := by
    funext document
    rw [← prune_shownUnder first false, hshown, prune_shownUnder]
  rw [parse_eq_ok_iff_conforms hfirst, parse_eq_ok_iff_conforms hsecond, hc, hp]

theorem parse_eq_of_shape_eq_sample :
    (construct [("content-type", nullable (optional string)), ("id", number)]).shape =
      (construct [("content-type", optional (nullable (optional string))), ("id", number)]).shape ∧
    (construct [("content-type", nullable (optional string)), ("id", number)]).depth ≤ 5 ∧
    (construct [("content-type", optional (nullable (optional string))), ("id", number)]).depth ≤ 5 ∧
    (construct [("content-type", nullable (optional string)), ("id", number)]).parse
      (some (.object [("id", .number (.integer 7)), ("content-type", .null)])) 5 =
        .ok (some (.object [("content-type", .null), ("id", .number (.integer 7))])) := by
  have hs : (construct [("content-type", nullable (optional string)), ("id", number)]).shape =
      (construct [("content-type", optional (nullable (optional string))), ("id", number)]).shape := by
    simp [shape, shapeUnder, shapeFields, keyMark, admitsMissing]
  have hfirst : (construct [("content-type", nullable (optional string)), ("id", number)]).depth ≤ 5 := by
    decide
  have hsecond :
      (construct [("content-type", optional (nullable (optional string))), ("id", number)]).depth ≤ 5 := by
    decide
  exact ⟨hs, hfirst, hsecond, (parse_eq_of_shape_eq hs hfirst hsecond _ _).mpr rfl⟩

end JsonShape

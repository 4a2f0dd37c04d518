import JsonShape.Proofs.Schema.Induction
import JsonShape.Proofs.Schema.Tags

/-!
# Documents that describe a schema

`Describes tree document` says that the document describes the tree rule by rule: an object with one tag, the
word of the rule, and one member with what is inside the rule, in any order and among any others.  The records
of the tree may name a field twice.

Just the trees that do not are read from such a document (`rule_described`), with the fields in the order of
the document, and all texts of the document are read alike (`descriptor_spelled`).
-/

namespace JsonShape

open Json

mutual

/-- The document is one way to describe the rule. -/
inductive Describes : Schema → Json → Prop
  | primitive {rule : Schema} {entries : List (String × Json)} (hp : rule.isPrimitive)
      (ht : Members.every "type" entries = [.string rule.form.tag]) : Describes rule (.object entries)
  | around {inner rule : Schema} {document : Json} {entries : List (String × Json)}
      (hr : rule.child? = some inner) (ht : Members.every "type" entries = [.string rule.form.tag])
      (ho : Members.every "of" entries = [document]) (h : Describes inner document) :
      Describes rule (.object entries)
  | record {fields : List (String × Schema)} {entries listed : List (String × Json)}
      (ht : Members.every "type" entries = [.string Form.construct.tag])
      (hf : Members.every "fields" entries = [.object listed]) (h : DescribesFields fields listed) :
      Describes (.construct fields) (.object entries)
  | leftOut {entries : List (String × Json)}
      (ht : Members.every "type" entries = [.string Form.construct.tag])
      (hf : Members.every "fields" entries = []) : Describes (.construct []) (.object entries)

/-- The members describe the fields under the same names, one by one. -/
inductive DescribesFields : List (String × Schema) → List (String × Json) → Prop
  | nil : DescribesFields [] []
  | cons {name : String} {field : Schema} {document : Json} {fields : List (String × Schema)}
      {listed : List (String × Json)} (h : Describes field document) (hs : DescribesFields fields listed) :
      DescribesFields ((name, field) :: fields) ((name, document) :: listed)

end

/-- A name that is repeated is at fault. -/
def Fault.IsRepetition (fault : Fault) : Prop := ∃ name, fault = .duplicateName name

namespace Describes

theorem tagged {tree : Schema} {document : Json} (h : Describes tree document) :
    Descriptor.Tagged document := by
  cases h with
  | primitive _ ht => exact ⟨_, ht⟩
  | around _ ht _ _ => exact ⟨_, ht⟩
  | record ht _ _ => exact ⟨_, ht⟩
  | leftOut ht _ => exact ⟨_, ht⟩

end Describes

namespace Descriptor

/-! ## Members by their names -/

theorem innerAmong_eq_readOnly (entries : List (String × Json)) :
    innerAmong entries = readOnly "of" rule (.error (.missingField "of")) entries := by
  induction entries with
  | nil => rfl
  | cons entry rest ih =>
    rw [innerAmong, readOnly, ih]
    by_cases hname : entry.1 = "of"
    · rw [hname]
    · rw [if_neg hname, if_neg hname]

theorem fieldsAmong_eq_readOnly (entries : List (String × Json)) :
    fieldsAmong entries = readOnly "fields" fieldsOf (.ok []) entries := by
  induction entries with
  | nil => rfl
  | cons entry rest ih =>
    rw [fieldsAmong, readOnly, ih]
    by_cases hname : entry.1 = "fields"
    · rw [hname]
    · rw [if_neg hname, if_neg hname]

theorem innerAmong_of_every {entries : List (String × Json)} {document : Json}
    (h : Members.every "of" entries = [document]) : innerAmong entries = rule document :=
  (innerAmong_eq_readOnly entries).trans (readOnly_of_every h)

theorem fieldsAmong_of_every {entries : List (String × Json)} {document : Json}
    (h : Members.every "fields" entries = [document]) : fieldsAmong entries = fieldsOf document :=
  (fieldsAmong_eq_readOnly entries).trans (readOnly_of_every h)

theorem rule_primitive {tree : Schema} (hp : tree.isPrimitive) {entries : List (String × Json)}
    (h : Members.every "type" entries = [.string tree.form.tag]) : rule (.object entries) = .ok tree := by
  rw [rule, formAmong_word h]
  cases tree with
  | string | number | boolean => rfl
  | construct | optional | nullable | array => cases hp

/-- What is inside a rule is read from its one member of that name. -/
theorem rule_around {tree inner : Schema} (hr : tree.child? = some inner) {entries : List (String × Json)}
    {document : Json} (ht : Members.every "type" entries = [.string tree.form.tag])
    (ho : Members.every "of" entries = [document]) {fits : Prop} {kind : Fault → Prop}
    (h : Decides (rule document) inner fits kind) : Decides (rule (.object entries)) tree fits kind := by
  rw [rule, formAmong_word ht]
  cases tree with
  | optional | nullable | array =>
    cases hr
    rw [← innerAmong_of_every ho] at h
    exact h.andThen rfl
  | string | number | boolean | construct => cases hr

/-- The fields of a record are read from its one member of that name. -/
theorem rule_record {fields : List (String × Schema)} {entries listed : List (String × Json)}
    (ht : Members.every "type" entries = [.string Form.construct.tag])
    (hf : Members.every "fields" entries = [.object listed]) {fits : Prop} {kind : Fault → Prop}
    (h : Decides (fieldRules [] listed) fields fits kind) :
    Decides (rule (.object entries)) (.construct fields) fits kind := by
  have hfields : fieldsAmong entries = fieldRules [] listed := fieldsAmong_of_every hf
  have hrule : rule (.object entries) = (do return .construct (← fieldsAmong entries)) := by
    rw [rule, formAmong_word ht]
    rfl
  rw [← hfields] at h
  rw [hrule]
  exact h.andThen rfl

/-- A record has no fields if they are left out. -/
theorem rule_leftOut {entries : List (String × Json)}
    (ht : Members.every "type" entries = [.string Form.construct.tag])
    (hf : Members.every "fields" entries = []) : rule (.object entries) = .ok (.construct []) := by
  have hnone : fieldsAmong entries = .ok [] := (fieldsAmong_eq_readOnly entries).trans (readOnly_of_none hf)
  rw [rule, formAmong_word ht]
  simp only [bind, Except.bind, hnone]
  rfl

/-! ## Rules by their documents -/

/-- Fields are read one by one, up to the first name that is repeated. -/
theorem fieldRules_described {fields : List (String × Schema)} {listed : List (String × Json)}
    (hs : DescribesFields fields listed)
    (h : ∀ field ∈ fields, ∀ document, Describes field.2 document →
      Decides (rule document) field.2 field.2.Distinct Fault.IsRepetition) (names : List String) :
    Decides (fieldRules names listed) fields
      ((∀ name ∈ Members.names fields, name ∉ names) ∧ (Members.names fields).Nodup ∧
        Schema.DistinctFields fields) Fault.IsRepetition := by
  -- the names read so far grow from field to field, and the next name must be none of them
  induction fields generalizing listed names with
  | nil =>
    cases hs with
    | nil => exact .of_ok (by simp [Members.names, Schema.DistinctFields]) rfl
  | cons field rest ih =>
    cases hs with
    | @cons name field document _ others hfield hrest =>
      obtain ⟨hhere, hlater⟩ := List.forall_mem_cons.mp h
      by_cases hname : name ∈ names
      · refine .of_error (fun hf => ?_) ⟨name, rfl⟩ (by rw [fieldRules, if_pos hname])
        exact hf.1 name List.mem_cons_self hname
      · have hothers := ih hrest hlater (name :: names)
        -- being new among the names read so far and the later ones is being new at each step
        have hfits : (field.Distinct ∧ (∀ other ∈ Members.names rest, other ∉ name :: names) ∧
            (Members.names rest).Nodup ∧ Schema.DistinctFields rest) ↔
            (∀ other ∈ Members.names ((name, field) :: rest), other ∉ names) ∧
            (Members.names ((name, field) :: rest)).Nodup ∧
            Schema.DistinctFields ((name, field) :: rest) := by
          have hnames : Members.names ((name, field) :: rest) = name :: Members.names rest := rfl
          rw [hnames, List.forall_mem_cons, List.nodup_cons, Schema.DistinctFields]
          constructor
          · rintro ⟨hd, hfresh, hnodup, hds⟩
            have hnew : name ∉ Members.names rest := fun hm => hfresh name hm List.mem_cons_self
            exact ⟨⟨hname, fun other ho hm => hfresh other ho (List.mem_cons_of_mem _ hm)⟩, ⟨hnew, hnodup⟩,
              hd, hds⟩
          · rintro ⟨⟨-, hfresh⟩, ⟨hnew, hnodup⟩, hd, hds⟩
            refine ⟨hd, fun other ho hm => ?_, hnodup, hds⟩
            rcases List.mem_cons.mp hm with rfl | hm
            · exact hnew ho
            · exact hfresh other ho hm
        rw [fieldRules, if_neg hname]
        exact Decides.of_iff (.bind (hhere document hfield) (.andThen hothers rfl)) hfits

/-- **A document describes its tree if no record of the tree names a field twice**, and otherwise such a name
is at fault. -/
theorem rule_described {tree : Schema} {document : Json} (h : Describes tree document) :
    Decides (rule document) tree tree.Distinct Fault.IsRepetition := by
  -- a repeated name may stand in any record, and the first one in the order of reading is at fault
  induction tree generalizing document with
  | primitive tree hp =>
    have hdistinct : tree.Distinct := by
      cases tree with
      | string | number | boolean => trivial
      | construct | optional | nullable | array => cases hp
    cases h with
    | primitive _ ht => exact .of_ok hdistinct (rule_primitive hp ht)
    -- a rule of a primitive kind has no inner one
    | around hr _ _ _ =>
      cases tree with
      | string | number | boolean => cases hr
      | construct | optional | nullable | array => cases hp
    | record _ _ _ => cases hp
    | leftOut _ _ => cases hp
  | construct fields ih =>
    cases h with
    | primitive hp _ => cases hp
    | around hr _ _ _ => cases hr
    | leftOut ht hf => exact .of_ok ⟨List.nodup_nil, trivial⟩ (rule_leftOut ht hf)
    | record ht hf hs =>
      have hfields := fieldRules_described hs (fun field hm _ hd => ih field hm hd) []
      have hfits : ((∀ name ∈ Members.names fields, name ∉ ([] : List String)) ∧
          (Members.names fields).Nodup ∧ Schema.DistinctFields fields) ↔
          (Schema.construct fields).Distinct := by
        simp [Schema.Distinct]
      exact (rule_record ht hf hfields).of_iff hfits
  | layer inner tree hl ih =>
    have hr : tree.child? = some inner := by cases hl <;> rfl
    have hfits : inner.Distinct ↔ tree.Distinct := by cases hl <;> rfl
    cases h with
    | primitive hp _ => cases hl <;> cases hp
    | around hr' ht ho hd =>
      obtain rfl := Option.some.inj (hr.symm.trans hr')
      exact (rule_around hr ht ho (ih hd)).of_iff hfits
    | record _ _ _ => cases hr
    | leftOut _ _ => cases hr
  | array item ih =>
    cases h with
    | primitive hp _ => cases hp
    | around hr ht ho hd =>
      cases hr
      exact rule_around rfl ht ho (ih hd)

end Descriptor

/-- **All texts of a document that describes a tree are read alike**: as the tree, if no record of it names a
field twice, and otherwise such a name is at fault and nothing else. -/
theorem descriptor_spelled {tree : Schema} {document : Json} {text : String} (h : Describes tree document)
    (hs : SpellsWhole document text.toList) (hl : document.nesting ≤ nestingLimit) :
    (∀ schema, Schema.ofDescriptor text = .ok schema ↔ tree.Distinct ∧ schema = tree) ∧
    (¬ tree.Distinct → ∃ name, Schema.ofDescriptor text = .error ⟨.duplicateName name, none, []⟩) := by
  obtain ⟨before, spelled, after, hbefore, hspelled, -, htext⟩ := hs
  have hfront : Front document text.toList after := ⟨before, spelled, hbefore, hspelled, htext⟩
  have hrule := Descriptor.rule_described h
  rw [Schema.ofDescriptor_spelled hfront hl h.tagged]
  constructor
  · intro schema
    rw [mapError_eq_ok_iff]
    exact hrule.eq_ok_iff
  · intro hn
    obtain ⟨_, herror, name, rfl⟩ := hrule.2 hn
    exact ⟨name, by rw [herror]; rfl⟩

/-- A descriptor with its members in another order, and a further one. -/
def shuffledDescriptor : Json :=
  .object [("of", .object [("type", .string "construct"), ("of", .array [.null])]), ("type", .string "array")]

/-- A descriptor of a record that repeats a name. -/
def repeatedDescriptor : Json :=
  .object [("fields", .object [("a", .object [("type", .string "string")]),
    ("a", .object [("type", .string "number")])]), ("type", .string "construct")]

/-- Members in another order, a further one, blanks and escapes; and a name that is repeated, once in plain
letters and once with an escape. -/
theorem descriptor_spelled_sample :
    Schema.ofDescriptor
        "\x7b\"of\" :\n\x7b\"\\u0074ype\":\"construct\",\"of\":[null]\x7d,\"type\":\"array\"\x7d" =
      .ok (.array (.construct [])) ∧
    ∃ name, Schema.ofDescriptor ("\x7b\"fields\":\x7b\"a\":\x7b\"type\":\"string\"\x7d," ++
        "\"\\u0061\":\x7b\"type\":\"number\"\x7d\x7d,\"type\":\"construct\"\x7d") =
      .error ⟨.duplicateName name, none, []⟩ := by
  have hempty : Describes (.array (.construct [])) shuffledDescriptor :=
    .around rfl rfl rfl (.leftOut rfl rfl)
  have htwice : Describes (.construct [("a", .string), ("a", .number)]) repeatedDescriptor :=
    .record rfl rfl (.cons (.primitive rfl rfl) (.cons (.primitive rfl rfl) .nil))
  have hread : readWhole (value nestingLimit)
      "\x7b\"of\" :\n\x7b\"\\u0074ype\":\"construct\",\"of\":[null]\x7d,\"type\":\"array\"\x7d" =
        .ok shuffledDescriptor := by
    decide +kernel
  have hread' : readWhole (value nestingLimit) ("\x7b\"fields\":\x7b\"a\":\x7b\"type\":\"string\"\x7d," ++
      "\"\\u0061\":\x7b\"type\":\"number\"\x7d\x7d,\"type\":\"construct\"\x7d") = .ok repeatedDescriptor := by
    decide +kernel
  -- what a text spells is read off it by the reader of documents
  obtain ⟨hspelled, hlevels⟩ := readWhole_value_iff.mp hread
  obtain ⟨hspelled', hlevels'⟩ := readWhole_value_iff.mp hread'
  refine ⟨((descriptor_spelled hempty hspelled hlevels).1 _).mpr ⟨?_, rfl⟩,
    (descriptor_spelled htwice hspelled' hlevels').2 ?_⟩
  · simp [Schema.Distinct, Schema.DistinctFields, Members.names]
  · simp [Schema.Distinct, Schema.DistinctFields, Members.names]

end JsonShape

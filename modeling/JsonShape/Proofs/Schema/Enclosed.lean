import JsonShape.Proofs.Schema.Described
import JsonShape.Schema.Bench

/-!
# Descriptors inside others

A document may stand where a rule is wanted: inside a wrapper, or as the only field of a record
(`Enclosure`).  There its tag may also be the number of a form, while the outermost tag must be a word; apart
from that it describes the same schema by itself and inside (`enclosed_descriptor`).
-/

namespace JsonShape

open Json

/-- The form of the rules that a wrapper makes. -/
def Wrapper.form : Wrapper → Form
  | optional => .optional
  | nullable => .nullable
  | array => .array

/-- Where a rule may stand inside another one. -/
inductive Enclosure where
  | around (wrapper : Wrapper)
  | field (name : String)

namespace Enclosure

/-- The rule around another one. -/
def schema : Enclosure → Schema → Schema
  | around wrapper, inner => wrapper.around inner
  | field name, inner => .construct [(name, inner)]

/-- The text around the text of a rule. -/
def text : Enclosure → String → String
  | around wrapper, inner =>
    "\x7b\"type\":\"" ++ wrapper.form.tag ++ "\",\"of\":" ++ inner ++ "\x7d"
  | field name, inner =>
    "\x7b\"type\":\"construct\",\"fields\":\x7b" ++ quoted name ++ ":" ++ inner ++ "\x7d\x7d"

/-- The document around the document of a rule. -/
def document : Enclosure → Json → Json
  | around wrapper, inner => .object [("type", .string wrapper.form.tag), ("of", inner)]
  | field name, inner =>
    .object [("type", .string Form.construct.tag), ("fields", .object [(name, inner)])]

theorem text_around (wrapper : Wrapper) (inner : String) : (around wrapper).text inner =
    "\x7b\"type\":\"" ++ wrapper.form.tag ++ "\",\"of\":" ++ inner ++ "\x7d" := rfl

theorem text_field (name inner : String) : (field name).text inner =
    "\x7b\"type\":\"construct\",\"fields\":\x7b" ++ quoted name ++ ":" ++ inner ++ "\x7d\x7d" := rfl

theorem schema_inj {place : Enclosure} {rule other : Schema} :
    place.schema rule = place.schema other ↔ rule = other := by
  constructor
  · intro h
    cases place with
    | around wrapper => cases wrapper <;> cases h <;> rfl
    | field name =>
      cases h
      rfl
  · rintro rfl
    rfl

theorem tagged (place : Enclosure) (inner : Json) : Descriptor.Tagged (place.document inner) := by
  cases place with
  | around wrapper => exact ⟨wrapper.form, rfl⟩
  | field name => exact ⟨.construct, rfl⟩

theorem nesting_document_le (place : Enclosure) (inner : Json) :
    (place.document inner).nesting ≤ inner.nesting + 2 := by
  cases place <;> simp only [document, nesting, nestingMembers] <;> omega

/-- A rule is read inside another one as it is by itself. -/
theorem rule_document (place : Enclosure) (inner : Json) :
    Descriptor.rule (place.document inner) = (Descriptor.rule inner).map place.schema := by
  cases place with
  | around wrapper =>
    have hinner : Descriptor.innerAmong [("type", .string wrapper.form.tag), ("of", inner)] =
        Descriptor.rule inner := Descriptor.innerAmong_of_every rfl
    rw [document, Descriptor.rule, Descriptor.formAmong_word rfl]
    simp only [bind, Except.bind, hinner]
    cases Descriptor.rule inner <;> cases wrapper <;> rfl
  | field name =>
    have hfields : Descriptor.fieldsAmong [("type", .string Form.construct.tag),
        ("fields", .object [(name, inner)])] = Descriptor.fieldsOf (.object [(name, inner)]) :=
      Descriptor.fieldsAmong_of_every rfl
    rw [document, Descriptor.rule, Descriptor.formAmong_word rfl]
    simp only [bind, Except.bind, hfields, Descriptor.fieldsOf, Descriptor.fieldRules]
    cases Descriptor.rule inner <;> rfl

/-! ## Texts -/

theorem quoted_tag (form : Form) : quoted form.tag = "\"" ++ form.tag ++ "\"" := by
  cases form <;> decide

/-- The text of a rule with its tag in front and the one member that comes after it. -/
theorem spells_tagged (form : Form) (name : String) {inner : Json} {spelled : List Char}
    (h : Spells inner spelled) {before after : List Char} (hb : Blank before) (ha : Blank after) :
    Spells (.object [("type", .string form.tag), (name, inner)])
      ('\x7b' :: ((quoted "type").toList ++ ':' :: ((quoted form.tag).toList ++ ',' ::
        ((quoted name).toList ++ ':' :: (before ++ (spelled ++ (after ++ ['\x7d']))))))) := by
  obtain ⟨typeBody, htype, htypeQuoted⟩ := quoted_toList "type"
  obtain ⟨tagBody, htag, htagQuoted⟩ := quoted_toList form.tag
  obtain ⟨nameBody, hname, hnameQuoted⟩ := quoted_toList name
  have hlast := SpellsMembers.member (.next blank_nil blank_nil) hname blank_nil hb h (.close ha)
  have hmembers := SpellsMembers.member (.first blank_nil) htype blank_nil blank_nil (.string htag) hlast
  rw [htypeQuoted, htagQuoted, hnameQuoted]
  simpa using Spells.object hmembers

theorem spells_member (name : String) {inner : Json} {spelled : List Char} (h : Spells inner spelled)
    {before after : List Char} (hb : Blank before) (ha : Blank after) :
    Spells (.object [(name, inner)])
      ('\x7b' :: ((quoted name).toList ++ ':' :: (before ++ (spelled ++ (after ++ ['\x7d']))))) := by
  obtain ⟨nameBody, hname, hnameQuoted⟩ := quoted_toList name
  have hmembers := SpellsMembers.member (.first blank_nil) hname blank_nil hb h (.close ha)
  rw [hnameQuoted]
  simpa using Spells.object hmembers

/-- Around a text of a document stands a text of the document around it. -/
theorem spells_text (place : Enclosure) {inner : Json} {source : String}
    (h : SpellsWhole inner source.toList) : Spells (place.document inner) (place.text source).toList := by
  obtain ⟨before, spelled, after, hbefore, hspelled, hafter, htext⟩ := h
  have htype : (quoted "type").toList = ['"', 't', 'y', 'p', 'e', '"'] := by simp [quoted, escaped]
  cases place with
  | around wrapper =>
    have hof : (quoted "of").toList = ['"', 'o', 'f', '"'] := by simp [quoted, escaped]
    have hall := spells_tagged wrapper.form "of" hspelled hbefore hafter
    simp only [htype, hof, quoted_tag] at hall
    simpa [text_around, document, htext] using hall
  | field name =>
    have hfields : (quoted "fields").toList = ['"', 'f', 'i', 'e', 'l', 'd', 's', '"'] := by simp [quoted, escaped]
    have hrecord := spells_member name hspelled hbefore hafter
    have hall := spells_tagged .construct "fields" hrecord blank_nil blank_nil
    simp only [htype, hfields, quoted_tag] at hall
    simpa [text_field, document, htext, Form.tag] using hall

end Enclosure

/-- A text of a document describes what the document does, if its tag is a word. -/
theorem Schema.ofDescriptor_whole_eq_ok_iff {document : Json} {text : String} {schema : Schema}
    (h : SpellsWhole document text.toList) (hl : document.nesting ≤ nestingLimit) :
    ofDescriptor text = .ok schema ↔ Descriptor.Tagged document ∧ Descriptor.rule document = .ok schema := by
  obtain ⟨before, spelled, after, hbefore, hspelled, hafter, htext⟩ := h
  have hfront : Front document text.toList after := ⟨before, spelled, hbefore, hspelled, htext⟩
  have hread := (value_of_front hfront nestingLimit fun _ => hafter.afterValue).1 hl
  rw [ofDescriptor_eq_ok_iff]
  constructor
  · rintro ⟨other, rest, hother, hlevels, htagged, hrule⟩
    have hnumber : other.kind ≠ .number := by
      rintro hk
      obtain ⟨form, hform⟩ := htagged
      cases other with
      | number n => cases hform
      | null | bool | string | array | object => cases hk
    have hreadOther := (value_of_front hother nestingLimit fun hk => absurd hk hnumber).1 hlevels
    have hsame := Except.ok.inj (hread.symm.trans hreadOther)
    obtain ⟨rfl, -⟩ := Prod.mk.inj hsame
    exact ⟨htagged, hrule⟩
  · rintro ⟨htagged, hrule⟩
    exact ⟨document, after, hfront, hl, htagged, hrule⟩

/-- **A document describes the same by itself and inside another rule**, except that its tag must be a word
where it stands by itself. -/
theorem enclosed_descriptor (place : Enclosure) {document : Json} {text : String} (schema : Schema)
    (h : SpellsWhole document text.toList) (hl : document.nesting ≤ nestingLimit - 2) :
    Schema.ofDescriptor text = .ok schema ↔
      Schema.ofDescriptor (place.text text) = .ok (place.schema schema) ∧
        ∀ n, Descriptor.tags document ≠ [.number n] := by
  -- an enclosure adds at most two levels, so both texts are shallow enough to be read
  have hwhole : SpellsWhole (place.document document) (place.text text).toList :=
    ⟨[], _, [], blank_nil, place.spells_text h, blank_nil, by simp⟩
  have hlevels : (place.document document).nesting ≤ nestingLimit := by
    have := place.nesting_document_le document
    simp only [nestingLimit] at hl ⊢
    omega
  have hmap : (Descriptor.rule document).map place.schema = .ok (place.schema schema) ↔
      Descriptor.rule document = .ok schema := by
    cases Descriptor.rule document with
    | error fault => simp [Except.map]
    | ok found => simp [Except.map, Enclosure.schema_inj]
  have hself : document.nesting ≤ nestingLimit := hl.trans (Nat.sub_le _ _)
  -- the rules are read alike at both places, but the tag of an outermost rule is asked for before
  rw [Schema.ofDescriptor_whole_eq_ok_iff h hself, Schema.ofDescriptor_whole_eq_ok_iff hwhole hlevels,
    place.rule_document, hmap]
  constructor
  · rintro ⟨⟨form, hform⟩, hrule⟩
    refine ⟨⟨place.tagged document, hrule⟩, fun n hn => ?_⟩
    rw [hform] at hn
    cases hn
  · rintro ⟨⟨-, hrule⟩, hnumber⟩
    rcases Descriptor.tags_of_rule hrule with htagged | ⟨n, hn⟩
    · exact ⟨htagged, hrule⟩
    · exact absurd hn (hnumber n)

/-- Blanks around the descriptor, in a field whose name needs an escape. -/
theorem enclosed_descriptor_sample :
    Schema.ofDescriptor "\x7b\"type\":\"construct\",\"fields\":\x7b\"\\n\": \x7b\"type\" : \"number\"\x7d\n\x7d\x7d" =
      .ok (.construct [("\n", .number)]) := by
  have hread : readWhole (value (nestingLimit - 2)) " \x7b\"type\" : \"number\"\x7d\n" =
      .ok (.object [("type", .string "number")]) := by decide +kernel
  have hself : Schema.ofDescriptor " \x7b\"type\" : \"number\"\x7d\n" = .ok .number := by decide +kernel
  obtain ⟨hspelled, hlevels⟩ := readWhole_value_iff.mp hread
  exact ((enclosed_descriptor (.field "\n") .number hspelled hlevels).mp hself).1

/-- The number of a form is a tag inside another rule, but not by itself. -/
theorem number_as_tag :
    readWhole (value (nestingLimit - 2)) "\x7b\"type\":0\x7d" =
      .ok (.object [("type", .number (.integer 0))]) ∧
    Schema.ofDescriptor "\x7b\"type\":\"optional\",\"of\":\x7b\"type\":0\x7d\x7d" =
      .ok (.optional .string) ∧
    Schema.ofDescriptor "\x7b\"type\":0\x7d" =
      .error ⟨.invalidType (.number (.integer 0)) "variant identifier", some ⟨1, 9⟩, [.key "type"]⟩ := by
  refine ⟨?_, ?_, ?_⟩
  · decide +kernel
  · decide +kernel
  · decide +kernel

end JsonShape

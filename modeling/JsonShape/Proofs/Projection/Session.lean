import JsonShape.Proofs.Projection.Lines
import JsonShape.Proofs.Projection.Slots

/-!
# Files of several roots

What holds of a file after any number of roots, each added by one pass over its slots: the invariant of a whole
session (`session_consistent`), put together from what one root adds (`emit_adds`).
-/

namespace JsonShape

namespace Slots

/-- **One more root only adds items**: it leaves the slots that are there, fills all that it reserves, and the
items in them are those of the root. -/
theorem emit_adds (roots : List (Schema × String)) (schema : Schema) (root : String) : ∃ new,
    ((ofRoots roots).emit schema root).items = (ofRoots roots).items ++ new.map some ∧
      new.length = schema.itemCount ∧ DeclaresRoot schema new := by
  obtain ⟨new, hnew, hdeclares⟩ := (Declarations.ofRoots roots).declare_declares schema root
  refine ⟨new, ?_, hdeclares.length_eq, hdeclares⟩
  rw [ofRoots_eq, emit_ofDeclarations]
  show ((Declarations.ofRoots roots).declare schema root).items.map some = _
  rw [hnew, List.map_append]
  rfl

end Slots

/-- The file is made of the items of its roots, one root after another. -/
theorem Declarations.ofRoots_blocks (roots : List (Schema × String)) : ∃ blocks,
    (ofRoots roots).items = blocks.flatten ∧
      List.Forall₂ (fun root block => DeclaresRoot root.1 block) roots blocks := by
  induction roots using List.reverseRecOn with
  | nil => exact ⟨[], rfl, .nil⟩
  | append_singleton roots root ih =>
    obtain ⟨blocks, hblocks, hall⟩ := ih
    obtain ⟨new, hnew, hdeclares⟩ := (ofRoots roots).declare_declares root.1 root.2
    refine ⟨blocks ++ [new], ?_, ?_⟩
    · rw [ofRoots_concat, hnew, hblocks, List.flatten_append]
      simp
    · exact List.rel_append hall (.cons hdeclares .nil)

/-- **The names of a file are consistent after any session.** -/
theorem session_consistent (roots : List (Schema × String)) :
    let file := Declarations.ofRoots roots
    let slots := Slots.ofRoots roots
    -- the slots hold the items of the file, and their text is its text
    slots.items = file.items.map some ∧ slots.text = file.text ∧
    -- no two items have the same name
    (file.items.map Item.name).Nodup ∧
    -- one more root leaves all items in their places and adds its own, one for each record and a synonym for
    -- a root that is none, without leaving a slot empty
    (∀ schema root, ∃ new, (slots.emit schema root).items = slots.items ++ new.map some ∧
      new.length = schema.itemCount ∧ DeclaresRoot schema new) ∧
    -- every record has an item that is named where the record is the type, under all layers
    (∃ blocks, file.items = blocks.flatten ∧
      List.Forall₂ (fun root block => DeclaresRoot root.1 block) roots blocks) ∧
    -- and that item comes later
    MentionsLater file.items ∧
    -- the function that reads a present key is there just if a field is read by it
    (Declarations.presentReader.toList <:+: slots.text.toList ↔ ∃ item ∈ file.items, ∃ field ∈ item.fields,
      "deserialize_with = \"deserialize_present\"" ∈ field.attributes) := by
  intro file slots
  have htext : slots.text = file.text := Slots.text_ofRoots roots
  refine ⟨?_, htext, (Declarations.nodup_names_ofRoots roots).nodup, Slots.emit_adds roots,
    Declarations.ofRoots_blocks roots, Declarations.mentionsLater_ofRoots roots, ?_⟩
  · exact congrArg Slots.items (Slots.ofRoots_eq roots)
  · rw [htext]
    exact Declarations.presentReader_infix_iff roots

end JsonShape

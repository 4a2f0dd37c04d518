import JsonShape.Proofs.Schema.Induction
import JsonShape.Proofs.Schema.Tags

/-!
# Descriptors at the front of a text

A text is taken as a descriptor as soon as there is a descriptor at its front.  What comes after that is not
looked at, so the text as a whole need not be a document (`descriptor_at_front`).
-/

namespace JsonShape

open Json

theorem Front.append {document : Json} {text rest : List Char} (h : Front document text rest)
    (more : List Char) : Front document (text ++ more) (rest ++ more) := by
  obtain ⟨blanks, spelled, hblanks, hspelled, rfl⟩ := h
  exact ⟨blanks, spelled, hblanks, hspelled, by simp⟩

/-- **A text describes a schema just if some text at its front does that is a document as a whole**, whatever
comes after that one. -/
theorem descriptor_at_front {text : String} {schema : Schema} :
    Schema.ofDescriptor text = .ok schema ↔ ∃ front rest : String, text = front ++ rest ∧
      (∃ document, Json.ofText front = .ok document) ∧ Schema.ofDescriptor front = .ok schema := by
  constructor
  · intro h
    obtain ⟨document, rest, ⟨blanks, spelled, hblanks, hspelled, htext⟩, hlevels, htagged, hrule⟩ :=
      Schema.ofDescriptor_eq_ok_iff.mp h
    have hwhole : SpellsWhole document (String.ofList (blanks ++ spelled)).toList :=
      ⟨blanks, spelled, [], hblanks, hspelled, blank_nil, by simp⟩
    have hfront : Front document (String.ofList (blanks ++ spelled)).toList [] :=
      ⟨blanks, spelled, hblanks, hspelled, by simp⟩
    have hread : Json.ofText (String.ofList (blanks ++ spelled)) = .ok document.merged := by
      rw [Json.ofText, readWhole_value_iff.mpr ⟨hwhole, hlevels⟩]
      rfl
    refine ⟨String.ofList (blanks ++ spelled), String.ofList rest, ?_, ⟨_, hread⟩, ?_⟩
    · rw [← String.toList_inj, htext]
      simp
    · exact Schema.ofDescriptor_eq_ok_iff.mpr ⟨document, [], hfront, hlevels, htagged, hrule⟩
  · rintro ⟨front, rest, rfl, -, h⟩
    obtain ⟨document, left, hfront, hlevels, htagged, hrule⟩ := Schema.ofDescriptor_eq_ok_iff.mp h
    refine Schema.ofDescriptor_eq_ok_iff.mpr ⟨document, left ++ rest.toList, ?_, hlevels, htagged, hrule⟩
    rw [String.toList_append]
    exact hfront.append rest.toList

/-- A closing brace too many is not noticed, although the text is no document. -/
theorem trailing_brace :
    Schema.ofDescriptor "\x7b\"type\":\"string\"\x7d\x7d" = .ok .string ∧
      Json.ofText "\x7b\"type\":\"string\"\x7d\x7d" = .error ⟨.trailing, ⟨1, 18⟩⟩ := by
  constructor
  · decide +kernel
  · decide +kernel

end JsonShape

import JsonShape.Proofs.Projection.FreeNames
import JsonShape.Proofs.Schema.Induction
import Mathlib.Data.List.Induction

/-!
# Names of declared items

`NewNames` says what declaring does to the names: the new items have names that were not taken, no two of
them the same, and these are what is taken besides.  It holds of one schema (`newNames_typeOf`), of one more
root (`Declarations.declare_items`) and so of a whole file.
-/

namespace JsonShape

/-- Items with names that were not taken, no two of them the same; after them, these are taken too. -/
structure NewNames (taken : List String) (items : List Item) (after : List String) : Prop where
  nodup : (items.map Item.name).Nodup
  fresh : ∀ item ∈ items, item.name ∉ taken
  mem_iff : ∀ name, name ∈ after ↔ name ∈ items.map Item.name ∨ name ∈ taken

theorem newNames_nil (taken : List String) : NewNames taken [] taken :=
  ⟨List.nodup_nil, by simp, by simp⟩

theorem NewNames.append {taken between after : List String} {items more : List Item}
    (h : NewNames taken items between) (h' : NewNames between more after) :
    NewNames taken (items ++ more) after := by
  refine ⟨?_, ?_, ?_⟩
  · rw [List.map_append, List.nodup_append]
    refine ⟨h.nodup, h'.nodup, ?_⟩
    -- a name of the first items is taken when the second ones are named
    rintro name hn _ hm rfl
    obtain ⟨item, hitem, rfl⟩ := List.mem_map.mp hm
    exact h'.fresh item hitem ((h.mem_iff _).mpr (.inl hn))
  · intro item hitem
    rcases List.mem_append.mp hitem with hitem | hitem
    · exact h.fresh item hitem
    · exact fun ht => h'.fresh item hitem ((h.mem_iff _).mpr (.inr ht))
  · intro name
    rw [h'.mem_iff, h.mem_iff, List.map_append, List.mem_append]
    constructor
    · rintro (hm | hm | hm)
      · exact .inl (.inr hm)
      · exact .inl (.inl hm)
      · exact .inr hm
    · rintro ((hm | hm) | hm)
      · exact .inr (.inl hm)
      · exact .inl hm
      · exact .inr (.inr hm)

/-- An item whose name is claimed before the items after it. -/
theorem NewNames.cons {taken after : List String} {item : Item} {items : List Item}
    (hfree : item.name ∉ taken) (h : NewNames (item.name :: taken) items after) :
    NewNames taken (item :: items) after := by
  have hfirst : NewNames taken [item] (item.name :: taken) :=
    ⟨List.nodup_singleton _, by simpa using hfree, by simp⟩
  exact hfirst.append h

/-- The names of one schema, as soon as the fields of a record are known to have theirs. -/
theorem newNames_fieldDecls {fields : List (String × Schema)}
    (h : ∀ field ∈ fields, ∀ wanted taken,
      NewNames taken (typeOf wanted taken field.2).2.1 (typeOf wanted taken field.2).2.2)
    (owner : String) (idents taken : List String) :
    NewNames taken (fieldDecls owner idents taken fields).2.1 (fieldDecls owner idents taken fields).2.2 := by
  induction fields generalizing idents taken with
  | nil => exact newNames_nil taken
  | cons field rest ih =>
    obtain ⟨hfield, hrest⟩ := List.forall_mem_cons.mp h
    obtain ⟨key, rule⟩ := field
    exact (hfield _ taken).append (ih hrest _ _)

theorem newNames_typeOf (schema : Schema) (wanted : String) (taken : List String) :
    NewNames taken (typeOf wanted taken schema).2.1 (typeOf wanted taken schema).2.2 := by
  induction schema generalizing wanted taken with
  | primitive schema hp =>
    cases schema <;> first | exact newNames_nil taken | cases hp
  | construct fields ih =>
    have hfields := newNames_fieldDecls ih (freeType wanted taken) [] (freeType wanted taken :: taken)
    rw [typeOf]
    exact .cons (freeType_notMem wanted taken) hfields
  | array item ih => exact ih (wanted ++ "Item") taken
  | layer inner schema hl ih => cases hl <;> exact ih wanted taken

/-! ## Files of several roots -/

namespace Declarations

/-- The items that a root adds, and the names that are then taken. -/
theorem declare_items (d : Declarations) (schema : Schema) (root : String) : ∃ items,
    (d.declare schema root).items = d.items ++ items ∧
      NewNames d.taken items (d.declare schema root).taken := by
  unfold declare
  by_cases hrecord : isRecord schema = true
  · rw [if_pos hrecord]
    exact ⟨_, rfl, newNames_typeOf schema _ _⟩
  · rw [if_neg hrecord]
    have hinner := newNames_typeOf schema (freeType (typeIdent root) d.taken)
      (freeType (typeIdent root) d.taken :: d.taken)
    exact ⟨_, rfl, .cons (freeType_notMem _ _) hinner⟩

/-- The declarations of several roots, one after another. -/
def ofRoots (roots : List (Schema × String)) : Declarations :=
  roots.foldl (fun d root => d.declare root.1 root.2) .empty

theorem ofRoots_concat (roots : List (Schema × String)) (root : Schema × String) :
    ofRoots (roots ++ [root]) = (ofRoots roots).declare root.1 root.2 := by
  rw [ofRoots, List.foldl_append]
  rfl

/-- Later roots leave the items of earlier ones in front. -/
theorem ofRoots_append_items (roots more : List (Schema × String)) :
    ∃ items, (ofRoots (roots ++ more)).items = (ofRoots roots).items ++ items := by
  induction more generalizing roots with
  | nil => exact ⟨[], by simp⟩
  | cons root rest ih =>
    obtain ⟨later, hlater⟩ := ih (roots ++ [root])
    obtain ⟨new, hnew, -⟩ := (ofRoots roots).declare_items root.1 root.2
    rw [List.append_assoc, List.singleton_append] at hlater
    exact ⟨new ++ later, by rw [hlater, ofRoots_concat, hnew, List.append_assoc]⟩

/-- **No two items of a file have the same name.** -/
theorem nodup_names_ofRoots (roots : List (Schema × String)) :
    NewNames [] (ofRoots roots).items (ofRoots roots).taken := by
  induction roots using List.reverseRecOn with
  | nil => exact newNames_nil []
  | append_singleton roots root ih =>
    obtain ⟨new, hnew, hnames⟩ := (ofRoots roots).declare_items root.1 root.2
    rw [ofRoots_concat, hnew]
    exact ih.append hnames

end Declarations

end JsonShape

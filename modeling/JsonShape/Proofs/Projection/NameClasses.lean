import JsonShape.Proofs.Projection.FieldNames

/-!
# Classes of names of items

The name of an item is made of the name of a root by keys, by `Item` and by numbers.  A class of names that is not
left by these steps is `Closed`, and if the roots have names of the class then so have all items
(`Closed.ofRoots`).
-/

namespace JsonShape

/-- A class of names that contains what is made of its names by items of lists, by the keys of another class, and
by numbers. -/
structure Closed (p q : String → Prop) : Prop where
  item : ∀ {name}, p name → p (name ++ "Item")
  below : ∀ {name key}, p name → q key → p (name ++ typeIdent key)
  numbered : ∀ {name} (n : Nat), p name → p (name ++ toString n)

namespace Closed

variable {p q : String → Prop} (h : Closed p q)
include h

theorem freeType {wanted : String} (hw : p wanted) (taken : List String) : p (freeType wanted taken) := by
  rcases firstFree_cases wanted wanted taken with he | ⟨n, he⟩
  · rwa [JsonShape.freeType, he]
  · rw [JsonShape.freeType, he]
    exact h.numbered (n + 2) hw

theorem fieldDecls {fields : List (String × Schema)}
    (hfields : ∀ field ∈ fields, ∀ wanted taken, p wanted → ∀ item ∈ (typeOf wanted taken field.2).2.1, p item.name)
    {owner : String} (ho : p owner) (hk : ∀ key ∈ Members.names fields, q key) (idents taken : List String) :
    ∀ item ∈ (fieldDecls owner idents taken fields).2.1, p item.name := by
  induction fields generalizing idents taken with
  | nil => exact List.forall_mem_nil _
  | cons field rest ih =>
    obtain ⟨hfield, hrest⟩ := List.forall_mem_cons.mp hfields
    obtain ⟨hkey, hkeys⟩ := List.forall_mem_cons.mp hk
    obtain ⟨key, rule⟩ := field
    rw [JsonShape.fieldDecls, List.forall_mem_append]
    exact ⟨hfield _ _ (h.below ho hkey), ih hrest hkeys _ _⟩

theorem typeOf (schema : Schema) (hk : ∀ key ∈ schema.declaredNames, q key) {wanted : String} (hw : p wanted)
    (taken : List String) : ∀ item ∈ (typeOf wanted taken schema).2.1, p item.name := by
  -- the wanted name is made longer on the way in, and stays in the class
  induction schema generalizing wanted taken with
  | primitive schema hp =>
    cases schema with
    | string | number | boolean => exact List.forall_mem_nil _
    | construct | optional | nullable | array => cases hp
  | construct fields ih =>
    have hname := h.freeType hw taken
    rw [JsonShape.typeOf, List.forall_mem_cons]
    refine ⟨hname, h.fieldDecls (fun field hf wanted taken hw => ?_) hname (fun key hm => ?_) _ _⟩
    · exact ih field hf (fun key hm => hk key (Schema.mem_declaredNames_construct.mpr (.inr ⟨field, hf, hm⟩))) hw
        taken
    · exact hk key (Schema.mem_declaredNames_construct.mpr (.inl hm))
  | array item ih =>
    rw [Schema.declaredNames_of_child rfl] at hk
    exact ih hk (h.item hw) taken
  | layer inner schema hl ih =>
    cases hl with
    | optional | nullable =>
      rw [Schema.declaredNames_of_child rfl] at hk
      exact ih hk hw taken

theorem declare {d : Declarations} (hd : ∀ item ∈ d.items, p item.name) {schema : Schema} {root : String}
    (hk : ∀ key ∈ schema.declaredNames, q key) (hr : p (typeIdent root)) :
    ∀ item ∈ (d.declare schema root).items, p item.name := by
  have hname := h.freeType hr d.taken
  unfold Declarations.declare
  by_cases hrecord : Declarations.isRecord schema = true
  · rw [if_pos hrecord, List.forall_mem_append]
    exact ⟨hd, h.typeOf schema hk hr _⟩
  · rw [if_neg hrecord, List.forall_mem_append, List.forall_mem_cons]
    exact ⟨hd, hname, h.typeOf schema hk hname _⟩

/-- **A closed class that has the names of the roots has the names of all items.** -/
theorem ofRoots {roots : List (Schema × String)}
    (hr : ∀ root ∈ roots, p (typeIdent root.2) ∧ ∀ key ∈ root.1.declaredNames, q key) :
    ∀ item ∈ (Declarations.ofRoots roots).items, p item.name := by
  induction roots using List.reverseRecOn with
  | nil => exact List.forall_mem_nil _
  | append_singleton roots root ih =>
    rw [List.forall_mem_append, List.forall_mem_singleton] at hr
    rw [Declarations.ofRoots_concat]
    exact h.declare (ih hr.1) hr.2.2 hr.2.1

end Closed

end JsonShape

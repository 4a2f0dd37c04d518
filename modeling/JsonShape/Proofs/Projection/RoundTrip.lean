import JsonShape.Proofs.Binary64.Rounding
import JsonShape.Proofs.Json.Induction
import JsonShape.Proofs.Projection.Compiled
import JsonShape.Proofs.Validation.Parse
import JsonShape.Proofs.Validation.Pruning

/-!
# Outputs in declared types

What a schema lets through can be read at the type that is declared for it, and is written back as it was
but for its numbers, which are doubles then (`output_carried`), as long as the file compiles
(`declared_type_carries_output`).

The type has an `Option` for every layer, so a place that may be missing or `null` has one and a place that
may be both has two (`option_of_admits`, `option_option_of_admits`).  A value is held as nothing only if it
is `null` (`Carries`), and so a field that is left out for holding nothing was missing.
-/

namespace JsonShape

open Json

/-! ## Numbers -/

/-- A number of a document has a double. -/
theorem Number.FitsWord.toDouble? {n : Number} (h : n.FitsWord) : ∃ x, n.toDouble? = some x := by
  cases n with
  | double x => exact ⟨x, rfl⟩
  | integer n =>
    have hsmall : n.natAbs < 1 <<< 1023 := by
      have hn : n.natAbs ≤ 18446744073709551615 := by
        have := h.1
        have := h.2
        omega
      exact Nat.lt_of_le_of_lt hn (by decide)
    obtain ⟨a, ha⟩ := Magnitude.ofNat?_isSome hsmall
    exact ⟨_, by rw [Number.toDouble?, ha]; rfl⟩

/-! ## Types of layers -/

theorem LayerOver.typeOf {inner rule : Schema} (h : LayerOver inner rule) (wanted : String)
    (taken : List String) :
    typeOf wanted taken rule = (.option (typeOf wanted taken inner).1, (typeOf wanted taken inner).2) := by
  cases h <;> rfl

theorem option_of_admits {rule : Schema} (h : rule.admitsMissing = true ∨ rule.admitsNull = true)
    (wanted : String) (taken : List String) : ∃ type, (typeOf wanted taken rule).1 = .option type := by
  cases rule with
  | optional inner => exact ⟨_, rfl⟩
  | nullable inner => exact ⟨_, rfl⟩
  | _ => rcases h with h | h <;> cases h

theorem option_option_of_admits {rule : Schema} (hm : rule.admitsMissing = true)
    (hn : rule.admitsNull = true) (wanted : String) (taken : List String) :
    ∃ type, (typeOf wanted taken rule).1 = .option (.option type) := by
  cases rule with
  | optional inner =>
    have hinner : inner.admitsNull = true := hn
    obtain ⟨type, htype⟩ := option_of_admits (.inr hinner) wanted taken
    exact ⟨type, congrArg TypeExpr.option htype⟩
  | nullable inner =>
    have hinner : inner.admitsMissing = true := hm
    obtain ⟨type, htype⟩ := option_of_admits (.inl hinner) wanted taken
    exact ⟨type, congrArg TypeExpr.option htype⟩
  | _ => cases hm

/-! ## Fields -/

namespace FieldDecl

theorem wire_eq (f : FieldDecl) : f.wire = f.key := by
  unfold wire isRenamed
  rw [literalValue?_literal]
  by_cases h : unmarked f.ident = f.key <;> simp [h]

variable (f : FieldDecl)

/-- A field goes by its key, as long as the identifier is in normal form. -/
theorem keyIn_eq {normal : String → String} (h : normal (unmarked f.ident) = unmarked f.ident) :
    f.keyIn normal = f.key := by
  rw [keyIn, f.wire_eq]
  by_cases hrenamed : f.isRenamed = true
  · exact if_pos hrenamed
  · have hkey : unmarked f.ident = f.key := by simpa [isRenamed] using hrenamed
    rw [if_neg hrenamed, ← hkey, h]

theorem isDefaulted_eq : f.isDefaulted = f.mayMiss := by
  unfold isDefaulted attributes
  cases f.mayMiss <;> cases f.mayBeNull <;> decide

theorem skipsEmpty_eq : f.skipsEmpty = f.mayMiss := by
  unfold skipsEmpty attributes
  cases f.mayMiss <;> cases f.mayBeNull <;> decide

theorem readsPresent_eq : f.readsPresent = f.needsPresent := by
  unfold readsPresent needsPresent attributes
  cases f.mayMiss <;> cases f.mayBeNull <;> decide

theorem readsOption_eq : f.readsOption = (!f.mayMiss && f.mayBeNull) := by
  unfold readsOption attributes
  cases f.mayMiss <;> cases f.mayBeNull <;> decide

end FieldDecl

theorem readMembers_get? (normal : String → String) (d : Declarations) {members : List (String × Json)}
    (hn : (Members.names members).Nodup) (name : String) :
    givenUnder name (d.readMembers normal members) =
      ((Members.get? name members).map (d.readAt normal)).toList := by
  induction members with
  | nil => rfl
  | cons member rest ih =>
    obtain ⟨key, value⟩ := member
    have hnodup : key ∉ Members.names rest ∧ (Members.names rest).Nodup := List.nodup_cons.mp hn
    have hrest := ih hnodup.2
    unfold givenUnder at hrest ⊢
    rw [Declarations.readMembers, Members.get?]
    by_cases hk : key = name
    · subst hk
      rw [Members.get?_eq_none_of_notMem hnodup.1] at hrest
      simp [hrest]
    · simp [hk, hrest]

/-! ## Values that carry a document -/

/-- At the type the document is read, and is written back with its numbers as doubles; it is held as nothing
only if it is `null`. -/
def Carries (normal : String → String) (d : Declarations) (type : TypeExpr) (document : Json) : Prop :=
  ∃ held, d.readAt normal document type = some held ∧ held.toJson normal = document.inDoubles ∧
    (held.isEmpty = true → document = .null)

variable {normal : String → String}

theorem readAt_option (d : Declarations) {document : Json} (h : document ≠ .null) (type : TypeExpr) :
    d.readAt normal document (.option type) = (d.readAt normal document type).map .filled := by
  cases document with
  | null => exact absurd rfl h
  | _ => rfl

theorem carries_null (d : Declarations) (type : TypeExpr) : Carries normal d (.option type) .null :=
  ⟨.empty, rfl, rfl, fun _ => rfl⟩

theorem Carries.option {d : Declarations} {type : TypeExpr} {document : Json}
    (h : Carries normal d type document) (hn : document ≠ .null) : Carries normal d (.option type) document := by
  obtain ⟨held, hread, hwrite, -⟩ := h
  exact ⟨.filled held, by rw [readAt_option d hn, hread]; rfl, hwrite, fun he => absurd he Bool.false_ne_true⟩

theorem carries_primitive (d : Declarations) {rule : Schema} (hp : rule.isPrimitive) {document : Json}
    (hk : document.kind = rule.expected) (hn : ∀ n ∈ document.numbers, n.FitsWord) (wanted : String)
    (taken : List String) : Carries normal d (typeOf wanted taken rule).1 document := by
  cases rule with
  | string =>
    cases document with
    | string s => exact ⟨.string s, rfl, rfl, fun he => absurd he Bool.false_ne_true⟩
    | _ => cases hk
  | number =>
    cases document with
    | number n =>
      obtain ⟨x, hx⟩ := (hn n (by simp [numbers])).toDouble?
      have hwrite : (Held.number x).toJson normal = (Json.number n).inDoubles := by
        simp [Held.toJson, inDoubles, hx]
      exact ⟨.number x, congrArg (Option.map Held.number) hx, hwrite, fun he => absurd he Bool.false_ne_true⟩
    | _ => cases hk
  | boolean =>
    cases document with
    | bool b => exact ⟨.boolean b, rfl, rfl, fun he => absurd he Bool.false_ne_true⟩
    | _ => cases hk
  | _ => cases hp

theorem carries_list {d : Declarations} {type : TypeExpr} {items : List Json}
    (h : ∀ item ∈ items, Carries normal d type item) : Carries normal d (.list type) (.array items) := by
  have hitems : ∃ helds, d.readItems normal items type = some helds ∧
      Held.toJsonItems normal helds = inDoublesItems items := by
    induction items with
    | nil => exact ⟨[], rfl, rfl⟩
    | cons item rest ih =>
      obtain ⟨⟨held, hread, hwrite, -⟩, hrest⟩ := List.forall_mem_cons.mp h
      obtain ⟨others, hreads, hwrites⟩ := ih hrest
      refine ⟨held :: others, ?_, ?_⟩
      · rw [Declarations.readItems, hread, hreads]
        rfl
      · rw [Held.toJsonItems, inDoublesItems, hwrite, hwrites]
  obtain ⟨helds, hread, hwrite⟩ := hitems
  refine ⟨.list helds, congrArg (Option.map Held.list) hread, ?_, fun he => absurd he Bool.false_ne_true⟩
  rw [Held.toJson, inDoubles, hwrite]

/-! ## Fields that carry a value -/

/-- A field that may be missing and `null` is filled with what is read at its inner `Option`. -/
theorem FieldDecl.whenGiven_of_needsPresent (d : Declarations) (document : Json) {f : FieldDecl} {type : TypeExpr}
    (htype : f.type = .option (.option type)) (hboth : f.needsPresent = true) :
    f.whenGiven true (d.readAt normal document) = (d.readAt normal document (.option type)).map .filled := by
  simp [FieldDecl.whenGiven, htype, f.readsPresent_eq, hboth]

/-- The type of a field has an `Option` for a missing key and one for `null`. -/
structure FieldDecl.HasOptions (f : FieldDecl) : Prop where
  one : f.mayMiss = true ∨ f.mayBeNull = true → ∃ type, f.type = .option type
  two : f.mayMiss = true → f.mayBeNull = true → ∃ type, f.type = .option (.option type)

namespace FieldDecl.HasOptions

variable {f : FieldDecl} (ho : f.HasOptions)
include ho

theorem whenMissing (hm : f.mayMiss = true) : f.whenMissing = some .empty := by
  obtain ⟨type, htype⟩ := ho.one (.inl hm)
  rw [FieldDecl.whenMissing, f.isDefaulted_eq, hm, if_pos rfl, htype]
  rfl

/-- A field that is at most one of these is read at its type. -/
theorem whenGiven_of_not_needsPresent (d : Declarations) (document : Json) (hone : ¬ f.needsPresent = true)
    (helper : Bool) : f.whenGiven helper (d.readAt normal document) = d.readAt normal document f.type := by
  have hpresent : f.readsPresent = false := by rwa [f.readsPresent_eq, ← Bool.not_eq_true]
  cases hoption : f.readsOption with
  | true =>
    have hn : f.mayBeNull = true := by
      rw [f.readsOption_eq, Bool.and_eq_true] at hoption
      exact hoption.2
    obtain ⟨type, htype⟩ := ho.one (.inr hn)
    simp [FieldDecl.whenGiven, htype, hpresent]
  | false =>
    rw [FieldDecl.whenGiven, hpresent, hoption]
    generalize f.type = type
    cases type <;> rfl

/-- A value that its type carries is also read as the field, and it is not left out. -/
theorem whenGiven {d : Declarations} {document : Json} (h : Carries normal d f.type document)
    (hnull : document = .null → f.mayBeNull = true) {helper : Bool}
    (hhelper : f.needsPresent = true → helper = true) : ∃ held,
    f.whenGiven helper (d.readAt normal document) = some held ∧ held.toJson normal = document.inDoubles ∧
      (f.skipsEmpty && held.isEmpty) = false := by
  obtain ⟨held, hread, hwrite, hempty⟩ := h
  by_cases hboth : f.needsPresent = true
  · -- `null` is read at the inner `Option`, and the outer one is filled with it
    obtain ⟨hm, hn⟩ : f.mayMiss = true ∧ f.mayBeNull = true := by simpa [needsPresent] using hboth
    obtain ⟨type, htype⟩ := ho.two hm hn
    rw [hhelper hboth, whenGiven_of_needsPresent d document htype hboth]
    by_cases hd : document = .null
    · subst hd
      exact ⟨.filled .empty, rfl, rfl, Bool.and_false _⟩
    · rw [htype, readAt_option d hd] at hread
      obtain ⟨inner, hinner, rfl⟩ := Option.map_eq_some_iff.mp hread
      exact ⟨.filled inner, by rw [hinner]; rfl, hwrite, Bool.and_false _⟩
  · refine ⟨held, by rw [ho.whenGiven_of_not_needsPresent d document hboth, hread], hwrite, ?_⟩
    -- a field that is left out when it holds nothing may be missing, so it would hold nothing only for `null`
    rw [f.skipsEmpty_eq, Bool.and_eq_false_iff, ← Bool.not_eq_true, ← Bool.not_eq_true]
    by_cases hm : f.mayMiss = true
    · right
      intro he
      have hn := hnull (hempty he)
      exact hboth (by rw [needsPresent, hm, hn]; rfl)
    · exact .inl hm

end FieldDecl.HasOptions

/-- A field is written as its value is, or left out if its key was missing. -/
theorem readFrom_carried (d : Declarations) {f : FieldDecl} (ho : f.HasOptions)
    (hkey : f.keyIn normal = f.key) (value : Option Json)
    (hmissing : value = none → f.mayMiss = true)
    (hnull : value = some .null → f.mayBeNull = true)
    (hcarries : ∀ document, value = some document → Carries normal d f.type document) {helper : Bool}
    (hhelper : f.needsPresent = true → helper = true) : ∃ held,
    f.readFrom helper (value.map (d.readAt normal)).toList = some held ∧
      ∀ others, Held.toJsonFields normal ((f, held) :: others) =
        inDoublesMembers (value.map fun document => (f.key, document)).toList ++ Held.toJsonFields normal others := by
  cases value with
  | none =>
    have hm := hmissing rfl
    refine ⟨.empty, ho.whenMissing hm, fun others => ?_⟩
    have hskip : (f.skipsEmpty && Held.empty.isEmpty) = true := by rw [f.skipsEmpty_eq, hm]; rfl
    rw [Held.toJsonFields, if_pos hskip]
    rfl
  | some document =>
    obtain ⟨held, hread, hwrite, hkept⟩ := ho.whenGiven (hcarries document rfl)
      (fun hd => hnull (congrArg some hd)) hhelper
    refine ⟨held, hread, fun others => ?_⟩
    rw [Held.toJsonFields, hkept, if_neg Bool.false_ne_true, hkey, hwrite]
    rfl

/-- The field that is declared for a rule carries what the rule makes of the inputs that conform to it. -/
theorem readFrom_pruned (d : Declarations) (ident key : String) {rule : Schema} {wanted : String}
    {taken : List String} {input : Option Json} (hconform : Conforms rule input)
    (hcarries : ∀ document, input = some document →
      Carries normal d (typeOf wanted taken rule).1 (rule.prune document)) {helper : Bool} :
    let f : FieldDecl := ⟨ident, key, rule.admitsMissing, rule.admitsNull, (typeOf wanted taken rule).1⟩
    f.keyIn normal = key → (f.needsPresent = true → helper = true) → ∃ held,
      f.readFrom helper ((input.map rule.prune).map (d.readAt normal)).toList = some held ∧
        ∀ others, Held.toJsonFields normal ((f, held) :: others) =
          inDoublesMembers ((input.map rule.prune).map fun document => (key, document)).toList ++
            Held.toJsonFields normal others := by
  intro f hkey hhelper
  have ho : f.HasOptions := ⟨fun h => option_of_admits h _ _, fun hm hn => option_option_of_admits hm hn _ _⟩
  refine readFrom_carried d ho hkey _ ?_ ?_ ?_ hhelper
  · intro hv
    rw [Option.map_eq_none_iff.mp hv] at hconform
    exact conforms_none_iff.mp hconform
  · intro hv
    obtain ⟨document, rfl, hprune⟩ := Option.map_eq_some_iff.mp hv
    rw [Schema.prune_eq_null_iff.mp hprune] at hconform
    exact conforms_null_iff.mp hconform
  · intro pruned hv
    obtain ⟨document, hdocument, rfl⟩ := Option.map_eq_some_iff.mp hv
    exact hcarries document hdocument

/-! ## Records -/

theorem pruneFields_cons (name : String) (rule : Schema) (rest : List (String × Schema))
    (members : List (String × Json)) :
    Schema.pruneFields ((name, rule) :: rest) members =
      (((Members.get? name members).map rule.prune).map fun document => (name, document)).toList ++
        Schema.pruneFields rest members := by
  rw [Schema.pruneFields]
  cases Members.get? name members <;> rfl

theorem inDoublesMembers_append (members more : List (String × Json)) :
    inDoublesMembers (members ++ more) = inDoublesMembers members ++ inDoublesMembers more := by
  induction members with
  | nil => rfl
  | cons member rest ih => rw [List.cons_append, inDoublesMembers, ih]; rfl

/-- The fields of a record are read and written one by one. -/
theorem readFields_carried {d : Declarations} {fields : List (String × Schema)}
    {members : List (String × Json)} {readings : List (String × Reading)}
    (hconforms : ∀ field ∈ fields, Conforms field.2 (Members.get? field.1 members))
    (hgiven : ∀ field ∈ fields, givenUnder field.1 readings =
      (((Members.get? field.1 members).map field.2.prune).map (d.readAt normal)).toList)
    (hcarries : ∀ field ∈ fields, ∀ wanted taken, (typeOf wanted taken field.2).2.1 ⊆ d.items →
      ∀ document, Members.get? field.1 members = some document →
        Carries normal d (typeOf wanted taken field.2).1 (field.2.prune document))
    {owner : String} {idents taken : List String} {helper : Bool}
    (hitems : (fieldDecls owner idents taken fields).2.1 ⊆ d.items)
    (hkeys : ∀ f ∈ (fieldDecls owner idents taken fields).1, f.keyIn normal = f.key)
    (hhelper : ∀ f ∈ (fieldDecls owner idents taken fields).1, f.needsPresent = true → helper = true) :
    ∃ helds, readFields normal helper readings (fieldDecls owner idents taken fields).1 = some helds ∧
      Held.toJsonFields normal helds = inDoublesMembers (Schema.pruneFields fields members) := by
  -- every field passes on the identifiers and names that are then taken; the readings stay
  induction fields generalizing idents taken with
  | nil => exact ⟨[], rfl, rfl⟩
  | cons field rest ih =>
    obtain ⟨key, rule⟩ := field
    obtain ⟨hconform, hconforms⟩ := List.forall_mem_cons.mp hconforms
    obtain ⟨hgive, hgiven⟩ := List.forall_mem_cons.mp hgiven
    obtain ⟨hcarry, hcarries⟩ := List.forall_mem_cons.mp hcarries
    let ident := freeField (fieldIdent key) idents
    let typed := typeOf (owner ++ typeIdent key) taken rule
    let f : FieldDecl := ⟨ident, key, rule.admitsMissing, rule.admitsNull, typed.1⟩
    have hdecls : fieldDecls owner idents taken ((key, rule) :: rest) =
        (f :: (fieldDecls owner (ident :: idents) typed.2.2 rest).1,
          typed.2.1 ++ (fieldDecls owner (ident :: idents) typed.2.2 rest).2.1,
          (fieldDecls owner (ident :: idents) typed.2.2 rest).2.2) := rfl
    rw [hdecls] at hitems hkeys hhelper ⊢
    obtain ⟨hfirst, hothers⟩ := List.append_subset.mp hitems
    obtain ⟨hkey, hkeys⟩ := List.forall_mem_cons.mp hkeys
    obtain ⟨hhelp, hhelper⟩ := List.forall_mem_cons.mp hhelper
    obtain ⟨helds, hreads, hwrites⟩ := ih hconforms hgiven hcarries hothers hkeys hhelper
    obtain ⟨held, hread, hwrite⟩ := readFrom_pruned d ident key hconform (hcarry _ _ hfirst) hkey hhelp
    refine ⟨(f, held) :: helds, ?_, ?_⟩
    · rw [readFields, hkey, hgive, hread, hreads]
      rfl
    · rw [hwrite, hwrites, pruneFields_cons, inDoublesMembers_append]

namespace Declarations

variable {d : Declarations}

/-- No two items have the same name, and every field goes by its key. -/
structure WellKeyed (normal : String → String) (d : Declarations) : Prop where
  names : (d.items.map Item.name).Nodup
  keys : ∀ item ∈ d.items, ∀ f ∈ item.fields, f.keyIn normal = f.key

/-- A declared record is found under its name if no other item has the name. -/
theorem record?_of_mem (hn : (d.items.map Item.name).Nodup) {name : String} {fields : List FieldDecl}
    (h : .struct name fields ∈ d.items) : d.record? name = some fields := by
  unfold record?
  generalize d.items = items at hn h
  induction items with
  | nil => cases h
  | cons item rest ih =>
    have hnodup : item.name ∉ rest.map Item.name ∧ (rest.map Item.name).Nodup := List.nodup_cons.mp hn
    rw [List.findSome?_cons]
    rcases List.mem_cons.mp h with rfl | hmem
    · simp [Item.recordNamed?]
    · have hne : item.name ≠ name := fun he => hnodup.1 (he ▸ List.mem_map_of_mem hmem)
      have hskip : item.recordNamed? name = none := by
        cases item with
        | struct own fields => exact if_neg hne
        | synonym own type => rfl
      rw [hskip]
      exact ih hnodup.2 hmem

theorem needsPresent_of_mem {name : String} {fields : List FieldDecl} (h : .struct name fields ∈ d.items)
    {f : FieldDecl} (hf : f ∈ fields) (hp : f.needsPresent = true) : d.needsPresent = true :=
  List.any_eq_true.mpr ⟨_, h, List.any_eq_true.mpr ⟨f, hf, hp⟩⟩

end Declarations

/-- The declared record carries an object if the types of its fields carry what stands under their keys. -/
theorem carries_record {d : Declarations} (hkeyed : d.WellKeyed normal)
    {fields : List (String × Schema)} (hn : (Members.names fields).Nodup) {members : List (String × Json)}
    (hconforms : ∀ field ∈ fields, Conforms field.2 (Members.get? field.1 members))
    (hcarries : ∀ field ∈ fields, ∀ wanted taken, (typeOf wanted taken field.2).2.1 ⊆ d.items →
      ∀ document, Members.get? field.1 members = some document →
        Carries normal d (typeOf wanted taken field.2).1 (field.2.prune document))
    (wanted : String) (taken : List String)
    (hitems : (typeOf wanted taken (.construct fields)).2.1 ⊆ d.items) :
    Carries normal d (typeOf wanted taken (.construct fields)).1 (.object (Schema.pruneFields fields members)) := by
  let name := freeType wanted taken
  let decls := fieldDecls name [] (name :: taken) fields
  have htype : typeOf wanted taken (.construct fields) =
      (.named name, .struct name decls.1 :: decls.2.1, decls.2.2) := rfl
  rw [htype] at hitems ⊢
  obtain ⟨hrecord, hothers⟩ := List.cons_subset.mp hitems
  -- no key comes twice, so the reader does not refuse one that does
  have hpruned : (Members.names (Schema.pruneFields fields members)).Nodup := by
    rw [Schema.names_pruneFields]
    exact hn.filter _
  have hgiven : ∀ field ∈ fields,
      givenUnder field.1 (d.readMembers normal (Schema.pruneFields fields members)) =
        (((Members.get? field.1 members).map field.2.prune).map (d.readAt normal)).toList := by
    intro field hf
    rw [readMembers_get? normal d hpruned, Schema.get?_pruneFields hn hf]
  -- the helper stands in the file if one of these fields needs it
  obtain ⟨helds, hreads, hwrites⟩ := readFields_carried hconforms hgiven hcarries hothers (hkeyed.keys _ hrecord)
    fun f hf => Declarations.needsPresent_of_mem hrecord hf
  refine ⟨.record helds, ?_, ?_, fun he => absurd he Bool.false_ne_true⟩
  · rw [Declarations.readAt]
    show (d.record? name).bind _ = _
    rw [Declarations.record?_of_mem hkeyed.names hrecord]
    exact congrArg (Option.map Held.record) hreads
  · rw [Held.toJson, inDoubles, hwrites]

/-- **What a schema lets through, its type carries**, in a file that has the items of the type, no two of the same
name, and in which every field goes by its key. -/
theorem output_carried {d : Declarations} (hkeyed : d.WellKeyed normal) {rule : Schema}
    (hd : rule.Distinct) (wanted : String) (taken : List String)
    (hitems : (typeOf wanted taken rule).2.1 ⊆ d.items) {document : Json}
    (h : Conforms rule (some document))
    (hnumbers : ∀ n ∈ (rule.prune document).numbers, n.FitsWord) :
    Carries normal d (typeOf wanted taken rule).1 (rule.prune document) := by
  -- the items of a rule further in are among those of the outer one, and so in the file
  induction rule generalizing wanted taken document with
  | primitive rule hp =>
    rw [Schema.prune_of_primitive hp] at hnumbers ⊢
    exact carries_primitive d hp ((conforms_primitive_iff hp).mp h) hnumbers wanted taken
  | construct fields ih =>
    obtain ⟨hn, hdistinct⟩ := hd
    obtain ⟨members, he, hconforms⟩ := conforms_construct_iff.mp h
    obtain rfl := Option.some.inj he
    refine carries_record hkeyed hn hconforms ?_ wanted taken hitems
    intro field hf wanted taken hsub document hdocument
    have hconform := hconforms field hf
    rw [hdocument] at hconform
    have hmem : (field.1, field.2.prune document) ∈ Schema.pruneFields fields members := by
      refine Members.mem_of_get? ?_
      rw [Schema.get?_pruneFields hn hf, hdocument]
      rfl
    refine ih field hf (Schema.distinctFields_iff.mp hdistinct field hf) wanted taken hsub hconform ?_
    intro n hn
    exact hnumbers n (mem_numbers_object.mpr ⟨_, hmem, hn⟩)
  | array item ih =>
    obtain ⟨items, he, hconforms⟩ := conforms_array_iff.mp h
    obtain rfl := Option.some.inj he
    refine carries_list ?_
    intro pruned hp
    obtain ⟨value, hv, rfl⟩ := List.mem_map.mp hp
    refine ih hd (wanted ++ "Item") taken hitems (hconforms value hv) fun n hn => ?_
    exact hnumbers n (mem_numbers_array.mpr ⟨_, hp, hn⟩)
  | layer inner rule hl ih =>
    rw [hl.typeOf] at hitems ⊢
    rw [hl.prune] at hnumbers ⊢
    -- `null` is read at the layer, and any other document fills its `Option`
    by_cases hnull : document = .null
    · rw [Schema.prune_eq_null_iff.mpr hnull]
      exact carries_null d _
    · have hconform := (hl.conforms_iff_of_ne_null hnull).mp h
      exact (ih (hl.distinct hd) wanted taken hitems hconform hnumbers).option
        fun he => hnull (Schema.prune_eq_null_iff.mp he)

/-! ## Files of several roots -/

/-- The first of the items that a root adds stands for the type of the root, and the items of that type are
among them. -/
theorem Declarations.declare_type (d : Declarations) (schema : Schema) (root : String) :
    ∃ item items wanted taken, (d.declare schema root).items = d.items ++ item :: items ∧
      item.type = (typeOf wanted taken schema).1 ∧ (typeOf wanted taken schema).2.1 ⊆ item :: items := by
  unfold declare
  by_cases hrecord : isRecord schema = true
  · rw [if_pos hrecord]
    cases schema with
    | construct fields => exact ⟨_, _, typeIdent root, d.taken, rfl, rfl, List.Subset.refl _⟩
    | _ => cases hrecord
  · rw [if_neg hrecord]
    exact ⟨_, _, freeType (typeIdent root) d.taken, freeType (typeIdent root) d.taken :: d.taken, rfl, rfl,
      List.subset_cons_self _ _⟩

namespace Declarations

variable (roots : List (Schema × String))

/-- In normal form, the identifiers of a file stand for the keys that they are declared for. -/
theorem wellKeyed_ofRoots (hnormal : ∀ name ∈ (ofRoots roots).identifiers, normal name = name) :
    (ofRoots roots).WellKeyed normal := by
  refine ⟨(nodup_names_ofRoots roots).nodup, fun item hi f hf => f.keyIn_eq ?_⟩
  obtain ⟨taken, he⟩ := exists_freeField_of_mem roots hi hf
  have hname : FieldName f.ident := by
    rw [he]
    exact fieldName_freeField f.key taken
  rw [hname.unmarked_eq]
  exact hnormal _ (unraw_mem_identifiers hi hf)

/-- The item of a root comes right after the items of the roots before it. -/
theorem exists_item_of_root (before after : List (Schema × String)) (schema : Schema) (root : String) :
    ∃ item wanted taken,
      (ofRoots (before ++ (schema, root) :: after)).items[(ofRoots before).items.length]? = some item ∧
      item.type = (typeOf wanted taken schema).1 ∧
      (typeOf wanted taken schema).2.1 ⊆ (ofRoots (before ++ (schema, root) :: after)).items := by
  obtain ⟨item, new, wanted, taken, hnew, htype, hsubset⟩ := (ofRoots before).declare_type schema root
  obtain ⟨later, hlater⟩ := ofRoots_append_items (before ++ [(schema, root)]) after
  rw [List.append_assoc, List.singleton_append, ofRoots_concat, hnew] at hlater
  rw [hlater]
  refine ⟨item, wanted, taken, ?_, htype, fun own hown => ?_⟩
  · rw [List.append_assoc, List.getElem?_append_right (Nat.le_refl _), Nat.sub_self]
    rfl
  · exact List.mem_append_left _ (List.mem_append_right _ (hsubset hown))

end Declarations

/-- **Declared types carry outputs just if the file has no other identifiers than the language**: in a file of several
roots, what `parse` lets through under a root is read at the type that the root is declared as, and is written back
with the same keys in the same order, `null` where it was, and numbers that are the same doubles, if and only if every
identifier of the file has the form of one.  The names of the items are none of the library, and identifiers are in
normal form. -/
theorem declared_type_carries_output (normal : String → String) (before after : List (Schema × String))
    {schema : Schema} (hd : schema.Distinct) (root : String) {cap : Nat} (hcap : schema.depth ≤ cap)
    {input : Option Json} {output : Json} (hparse : schema.parse input cap = .ok (some output))
    (hnumbers : ∀ n ∈ output.numbers, n.FitsWord)
    (hnames : ∀ item ∈ (Declarations.ofRoots (before ++ (schema, root) :: after)).items,
      item.name ∉ Declarations.libraryNames)
    (hnormal : ∀ name ∈ (Declarations.ofRoots (before ++ (schema, root) :: after)).identifiers, normal name = name) :
    (∃ item held,
      (Declarations.ofRoots (before ++ (schema, root) :: after)).items[
        (Declarations.ofRoots before).items.length]? = some item ∧
      (Declarations.ofRoots (before ++ (schema, root) :: after)).read normal item.type output = some held ∧
      held.toJson normal = output.inDoubles) ↔
        ∀ name ∈ (Declarations.ofRoots (before ++ (schema, root) :: after)).identifiers,
          hasIdentifierForm name.toList = true := by
  let d := Declarations.ofRoots (before ++ (schema, root) :: after)
  rw [← Declarations.compiles_iff _ hnames hnormal]
  show _ ↔ d.Compiles normal
  constructor
  · -- nothing is read from a file that does not compile
    rintro ⟨item, held, -, hread, -⟩
    rw [Declarations.read] at hread
    by_contra hrefused
    rw [if_neg hrefused] at hread
    cases hread
  · intro hcompiles
    obtain ⟨item, wanted, taken, hitem, htype, hown⟩ :=
      Declarations.exists_item_of_root before after schema root
    -- the output is a pruned input that conforms, and that is what types carry
    obtain ⟨hconforms, houtput⟩ := (parse_eq_ok_iff_conforms hcap).mp hparse
    obtain ⟨document, rfl, rfl⟩ := Option.map_eq_some_iff.mp houtput.symm
    obtain ⟨held, hread, hwrite, -⟩ := output_carried (Declarations.wellKeyed_ofRoots _ hnormal) hd wanted taken
      hown hconforms hnumbers
    refine ⟨item, held, hitem, ?_, hwrite⟩
    rw [htype, Declarations.read, if_pos hcompiles, hread]

/-- The normal form of names in which U+09DF is the only letter that has another one; composition leaves it in two. -/
def normalYya (name : String) : String :=
  String.ofList (name.toList.flatMap fun c => if c = '\u09DF' then ['\u09AF', '\u09BC'] else [c])

/-- A key that is `null`, one that is missing, and one that could be either. -/
theorem declared_type_carries_output_sample :
    let schema : Schema := .construct [("userId", .number), ("nick", .optional (.nullable .string)),
      ("age", .optional .number), ("tags", .array (.construct [("type", .nullable .boolean)]))]
    let output : Json := .object [("userId", .number (.integer 7)), ("nick", .null),
      ("tags", .array [.object [("type", .null)]])]
    let d := Declarations.ofRoots [(.optional .string, "user"), (schema, "user")]
    schema.parse (some output) 5 = .ok (some output) ∧
      ∃ item held, d.items[1]? = some item ∧ d.read normalYya item.type output = some held ∧
        held.toJson normalYya = output.inDoubles := by
  intro schema output d
  have hdistinct : schema.Distinct := by
    simp [schema, Schema.Distinct, Schema.DistinctFields, Members.names]
  -- the four fields: required, missing or `null`, missing, and a list of records
  have hconforms : Conforms schema (some output) := by
    refine .construct ?_
    simp only [List.forall_mem_cons]
    refine ⟨.primitive rfl rfl, .optional (.null _), .missing _, .array ?_, by simp⟩
    simp only [List.forall_mem_cons]
    refine ⟨.construct ?_, by simp⟩
    simp only [List.forall_mem_cons]
    exact ⟨.null _, by simp⟩
  have hparse : schema.parse (some output) 5 = .ok (some output) :=
    (parse_eq_ok_iff_conforms (by decide)).mpr ⟨hconforms, rfl⟩
  have hnumbers : ∀ n ∈ output.numbers, n.FitsWord := by
    simp [output, numbers, numbersOfMembers, numbersOfItems, Number.FitsWord]
  have hcarries := declared_type_carries_output normalYya [(.optional .string, "user")] [] hdistinct "user"
    (by decide) hparse hnumbers (by decide +kernel) (by decide +kernel)
  exact ⟨hparse, hcarries.mpr (by decide +kernel)⟩

/-- A key with a superscript is let through, and nothing is read from the file that has it as a field.  The file with
the field U+09DF compiles, but the key of that name is not read, since the identifier stands for another one. -/
theorem keys_not_carried :
    let document (key : String) : Json := .object [(key, .number (.integer 1))]
    let d (key : String) := Declarations.ofRoots [(.construct [(key, .number)], "name")]
    (∀ key ∈ ["x²", "\u09DF"],
      (Schema.construct [(key, .number)]).parse (some (document key)) 2 = .ok (some (document key))) ∧
      (∀ type, (d "x²").read normalYya type (document "x²") = none) ∧
      (d "\u09DF").Compiles normalYya ∧
      (d "\u09DF").read normalYya (.named "Name") (document "\u09DF") = none := by
  intro document d
  have hparse (key : String) :
      (Schema.construct [(key, .number)]).parse (some (document key)) 2 = .ok (some (document key)) := by
    have hgiven : Members.get? key [(key, Json.number (.integer 1))] = some (.number (.integer 1)) := by
      simp [Members.get?]
    refine (parse_eq_ok_iff_conforms (Nat.le_refl 2)).mpr ⟨.construct ?_, ?_⟩
    · rw [List.forall_mem_singleton, hgiven]
      exact .primitive rfl rfl
    · simp [document, Schema.prune, Schema.pruneFields, hgiven]
  have hrefused : ¬ (d "x²").Compiles normalYya := by decide +kernel
  have hunread : ((d "\u09DF").read normalYya (.named "Name") (document "\u09DF")).isNone := by decide +kernel
  exact ⟨fun key _ => hparse key, fun type => if_neg hrefused, by decide +kernel, Option.isNone_iff_eq_none.mp hunread⟩

end JsonShape

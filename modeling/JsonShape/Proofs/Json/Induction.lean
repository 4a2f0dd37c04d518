import JsonShape.Json.Basic
import Mathlib.Data.List.Basic

/-!
# Induction over documents

`Json.induct` has one case for each kind of value, with a hypothesis for every element of an array and
every member of an object.  The recursive definitions that go through a second function for elements or
members are restated with membership.  `Json.numbers` lists the numbers of a document.  Nothing is merged where
no name is repeated (`Members.merge_of_nodup`).  Equality of documents is decided by `Json.isEqual`.
-/

namespace JsonShape

namespace Members

variable {α : Type}

theorem put_of_notMem {name : String} {entries : List (String × α)} (h : name ∉ names entries) (value : α) :
    put name value entries = entries ++ [(name, value)] := by
  induction entries with
  | nil => rfl
  | cons entry rest ih =>
    obtain ⟨hname, hrest⟩ := not_or.mp (List.mem_cons.not.mp h)
    rw [put, if_neg (Ne.symm hname), ih hrest, List.cons_append]

/-- Entries none of which repeats a name are left as they are. -/
theorem merge_of_nodup {entries : List (String × α)} (h : (names entries).Nodup) :
    merge entries = entries := by
  suffices ∀ merged : List (String × α), (names (merged ++ entries)).Nodup →
      entries.foldl (fun m entry => put entry.1 entry.2 m) merged = merged ++ entries from
    this [] (by simpa using h)
  clear h
  induction entries with
  | nil => simp
  | cons entry rest ih =>
    intro merged h
    have hsplit : merged ++ entry :: rest = merged ++ [entry] ++ rest := by simp
    rw [hsplit] at h ⊢
    have hnew : entry.1 ∉ names merged := by
      simp only [names, List.map_append, List.nodup_append] at h
      exact fun hm => h.1.2.2 _ hm _ (by simp) rfl
    rw [List.foldl_cons, put_of_notMem hnew]
    exact ih _ h

end Members

namespace Json

@[elab_as_elim, induction_eliminator]
theorem induct {motive : Json → Prop} (null : motive null) (bool : ∀ b, motive (bool b))
    (number : ∀ n, motive (number n)) (string : ∀ s, motive (string s))
    (array : ∀ items, (∀ item ∈ items, motive item) → motive (array items))
    (object : ∀ members, (∀ member ∈ members, motive member.2) → motive (object members))
    (document : Json) : motive document :=
  @Json.rec motive (fun items => ∀ item ∈ items, motive item)
    (fun members => ∀ member ∈ members, motive member.2) (fun member => motive member.2)
    null bool number string array object (by simp)
    (fun _ _ first others => List.forall_mem_cons.mpr ⟨first, others⟩) (by simp)
    (fun _ _ first others => List.forall_mem_cons.mpr ⟨first, others⟩) (fun _ _ value => value) document

/-! ## Levels -/

theorem nestingItems_le_iff {items : List Json} {levels : Nat} :
    nestingItems items ≤ levels ↔ ∀ item ∈ items, item.nesting ≤ levels := by
  induction items with
  | nil => simp [nestingItems]
  | cons item rest ih => rw [nestingItems, Nat.max_le, ih, List.forall_mem_cons]

theorem nestingMembers_le_iff {members : List (String × Json)} {levels : Nat} :
    nestingMembers members ≤ levels ↔ ∀ member ∈ members, member.2.nesting ≤ levels := by
  induction members with
  | nil => simp [nestingMembers]
  | cons member rest ih => rw [nestingMembers, Nat.max_le, ih, List.forall_mem_cons]

/-! ## Numbers -/

mutual

/-- The numbers of a document, in order. -/
def numbers : Json → List Number
  | number n => [n]
  | array items => numbersOfItems items
  | object members => numbersOfMembers members
  | _ => []

def numbersOfItems : List Json → List Number
  | [] => []
  | item :: rest => numbers item ++ numbersOfItems rest

def numbersOfMembers : List (String × Json) → List Number
  | [] => []
  | (_, value) :: rest => numbers value ++ numbersOfMembers rest

end

theorem mem_numbers_array {n : Number} {items : List Json} :
    n ∈ (array items).numbers ↔ ∃ item ∈ items, n ∈ item.numbers := by
  rw [numbers]
  induction items with
  | nil => simp [numbersOfItems]
  | cons item rest ih => simp [numbersOfItems, ih]

theorem mem_numbers_object {n : Number} {members : List (String × Json)} :
    n ∈ (object members).numbers ↔ ∃ member ∈ members, n ∈ member.2.numbers := by
  rw [numbers]
  induction members with
  | nil => simp [numbersOfMembers]
  | cons member rest ih =>
    obtain ⟨name, value⟩ := member
    simp [numbersOfMembers, ih]

/-! ## Repeated names -/

theorem mergedItems_eq_self {items : List Json} (h : ∀ item ∈ items, item.merged = item) :
    mergedItems items = items := by
  induction items with
  | nil => rfl
  | cons item rest ih =>
    obtain ⟨hitem, hrest⟩ := List.forall_mem_cons.mp h
    rw [mergedItems, hitem, ih hrest]

theorem names_mergedMembers (members : List (String × Json)) :
    Members.names (mergedMembers members) = Members.names members := by
  induction members with
  | nil => rfl
  | cons member rest ih =>
    obtain ⟨name, value⟩ := member
    exact congrArg (name :: ·) ih

/-- An object that repeats no name keeps its members. -/
theorem merged_object {members : List (String × Json)} (h : (Members.names members).Nodup) :
    (object members).merged = object (mergedMembers members) := by
  rw [merged, Members.merge_of_nodup (by rwa [names_mergedMembers])]

/-! ## Equality -/

mutual

/-- Whether two documents are the same. -/
def isEqual : Json → Json → Bool
  | null, null => true
  | bool a, bool b => a == b
  | number a, number b => a == b
  | string a, string b => a == b
  | array items, array others => isEqualItems items others
  | object members, object others => isEqualMembers members others
  | _, _ => false

def isEqualItems : List Json → List Json → Bool
  | [], [] => true
  | item :: rest, other :: others => isEqual item other && isEqualItems rest others
  | _, _ => false

def isEqualMembers : List (String × Json) → List (String × Json) → Bool
  | [], [] => true
  | (name, value) :: rest, (key, other) :: others =>
    name == key && (isEqual value other && isEqualMembers rest others)
  | _, _ => false

end

theorem isEqualItems_iff {items : List Json} (h : ∀ item ∈ items, ∀ other, isEqual item other = true ↔ item = other)
    (others : List Json) : isEqualItems items others = true ↔ items = others := by
  induction items generalizing others with
  | nil => cases others <;> simp [isEqualItems]
  | cons item rest ih =>
    obtain ⟨hitem, hrest⟩ := List.forall_mem_cons.mp h
    cases others with
    | nil => simp [isEqualItems]
    | cons other others => simp [isEqualItems, hitem, ih hrest]

theorem isEqualMembers_iff {members : List (String × Json)}
    (h : ∀ member ∈ members, ∀ other, isEqual member.2 other = true ↔ member.2 = other)
    (others : List (String × Json)) : isEqualMembers members others = true ↔ members = others := by
  induction members generalizing others with
  | nil => cases others <;> simp [isEqualMembers]
  | cons member rest ih =>
    obtain ⟨hmember, hrest⟩ := List.forall_mem_cons.mp h
    cases others with
    | nil => simp [isEqualMembers]
    | cons other others => simp [isEqualMembers, hmember, ih hrest, Prod.ext_iff, and_assoc]

theorem isEqual_iff {first second : Json} : first.isEqual second = true ↔ first = second := by
  induction first generalizing second with
  | array items ih =>
    have hitems := isEqualItems_iff fun item hi other => ih item hi
    cases second <;> simp [isEqual, hitems]
  | object members ih =>
    have hmembers := isEqualMembers_iff fun member hm other => ih member hm
    cases second <;> simp [isEqual, hmembers]
  | _ => cases second <;> simp [isEqual]

instance : DecidableEq Json := fun _ _ => decidable_of_iff _ isEqual_iff

end Json

end JsonShape

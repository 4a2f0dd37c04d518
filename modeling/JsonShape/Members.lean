/-!
# Named entries in order

Objects and records are lists of named entries.  `put` gives a name a value: a name that is already
there keeps its place and takes the new value, a new one goes to the end.  `merge` puts the entries of
a list one by one, so no name is left twice.
-/

namespace JsonShape.Members

variable {α : Type}

/-- The names, in order. -/
def names (entries : List (String × α)) : List String := entries.map Prod.fst

/-- The value of the first entry with that name. -/
def get? (name : String) : List (String × α) → Option α
  | [] => none
  | (key, value) :: rest => if key = name then some value else get? name rest

/-- Gives `name` the value, in its old place if it has one and at the end otherwise. -/
def put (name : String) (value : α) : List (String × α) → List (String × α)
  | [] => [(name, value)]
  | (key, old) :: rest =>
    if key = name then (key, value) :: rest else (key, old) :: put name value rest

/-- Each name once, in its first place and with its last value. -/
def merge (entries : List (String × α)) : List (String × α) :=
  entries.foldl (fun merged entry => put entry.1 entry.2 merged) []

theorem get?_eq_none_of_notMem {name : String} {entries : List (String × α)}
    (h : name ∉ names entries) : get? name entries = none := by
  induction entries with
  | nil => rfl
  | cons entry rest ih =>
    rw [names, List.map_cons, List.mem_cons, not_or] at h
    obtain ⟨hne, hrest⟩ := h
    rw [get?, if_neg (fun e => hne e.symm)]
    exact ih hrest

theorem mem_of_get? {name : String} {value : α} {entries : List (String × α)}
    (h : get? name entries = some value) : (name, value) ∈ entries := by
  induction entries with
  | nil => cases h
  | cons entry rest ih =>
    obtain ⟨key, first⟩ := entry
    rw [get?] at h
    split at h
    · rename_i hk
      obtain rfl := Option.some.inj h
      rw [hk]
      exact List.mem_cons_self
    · exact List.mem_cons_of_mem _ (ih h)

theorem get?_put (name other : String) (value : α) (entries : List (String × α)) :
    get? other (put name value entries) = if name = other then some value else get? other entries := by
  induction entries with
  | nil => simp [put, get?]
  | cons entry rest ih =>
    obtain ⟨key, old⟩ := entry
    by_cases h : key = name
    · subst h
      by_cases ho : key = other <;> simp [put, get?, ho]
    · by_cases ho : key = other
      · subst ho
        simpa [put, get?, h] using fun e : name = key => absurd e.symm h
      · simp [put, get?, h, ho, ih]

theorem names_put (name : String) (value : α) (entries : List (String × α)) :
    names (put name value entries) =
      if name ∈ names entries then names entries else names entries ++ [name] := by
  induction entries with
  | nil => simp [put, names]
  | cons entry rest ih =>
    obtain ⟨key, old⟩ := entry
    by_cases h : key = name
    · simp [put, names, h]
    · have h' : ¬ name = key := fun e => h e.symm
      simp only [names] at ih
      simp only [put, h, if_false, names, List.map_cons, ih, List.mem_cons, h', false_or]
      split <;> rename_i hm <;> simp [hm]

theorem nodup_put {entries : List (String × α)} (h : (names entries).Nodup) (name : String)
    (value : α) : (names (put name value entries)).Nodup := by
  rw [names_put]
  split
  · exact h
  · rename_i hn
    rw [List.nodup_append]
    refine ⟨h, by simp, ?_⟩
    rintro a ha b hb rfl
    simp only [List.mem_singleton] at hb
    exact hn (hb ▸ ha)

/-- No name is left twice. -/
theorem nodup_merge (entries : List (String × α)) : (names (merge entries)).Nodup := by
  suffices ∀ merged : List (String × α), (names merged).Nodup →
      (names (entries.foldl (fun m entry => put entry.1 entry.2 m) merged)).Nodup from
    this [] (by simp [names])
  induction entries with
  | nil => exact fun _ h => h
  | cons entry rest ih => exact fun merged h => ih _ (nodup_put h _ _)

end JsonShape.Members

import JsonShape.Files.Tree
import JsonShape.Proofs.Json.Steps

/-!
# Trees with proper names

The name of a file is a piece of a path that stands for something below a directory: it is not empty, has no
separator in it, and is neither of the two dot names.  A tree is proper if everything in it is under such a name
(`Entry.Proper`); sorting keeps that, and then so does all that a path leads to.
-/

namespace JsonShape

/-- A name that a file or a directory can have. -/
def IsFileName (name : String) : Prop := name ∉ ["", ".", ".."] ∧ '/' ∉ name.toList

instance (name : String) : Decidable (IsFileName name) := inferInstanceAs (Decidable (_ ∧ _))

/-- Everything below has the name of a file. -/
inductive Entry.Proper : Entry → Prop
  | file (bytes : ByteArray) : Proper (.file bytes)
  | directory {entries : List (String × Entry)} (hnames : ∀ name entry, (name, entry) ∈ entries → IsFileName name)
      (hentries : ∀ name entry, (name, entry) ∈ entries → Proper entry) : Proper (.directory entries)

namespace Entry

theorem Proper.nil : (Entry.directory []).Proper :=
  .directory (fun _ _ he => absurd he List.not_mem_nil) fun _ _ he => absurd he List.not_mem_nil

theorem Proper.cons {name : String} {entry : Entry} {rest : List (String × Entry)} (hname : IsFileName name)
    (hentry : entry.Proper) (hrest : (Entry.directory rest).Proper) :
    (Entry.directory ((name, entry) :: rest)).Proper := by
  cases hrest with
  | directory hnames hentries =>
    refine .directory (fun other inner he => ?_) fun other inner he => ?_
    · rcases List.mem_cons.mp he with he | he
      · cases he
        exact hname
      · exact hnames other inner he
    · rcases List.mem_cons.mp he with he | he
      · cases he
        exact hentry
      · exact hentries other inner he

theorem mem_insertByName {new : String × Entry} {entries : List (String × Entry)} {entry : String × Entry} :
    entry ∈ insertByName new entries ↔ entry = new ∨ entry ∈ entries := by
  induction entries with
  | nil => simp [insertByName]
  | cons other rest ih =>
    rw [insertByName]
    split
    · exact List.mem_cons
    · rw [List.mem_cons, ih, List.mem_cons]
      exact or_left_comm

theorem mem_sortedEntries {entries : List (String × Entry)} {name : String} {sorted : Entry} :
    (name, sorted) ∈ sortedEntries entries ↔ ∃ entry, (name, entry) ∈ entries ∧ sorted = entry.sorted := by
  induction entries with
  | nil => simp [sortedEntries]
  | cons first rest ih =>
    obtain ⟨key, value⟩ := first
    simp only [sortedEntries, mem_insertByName, ih, List.mem_cons, Prod.mk.injEq]
    constructor
    · rintro (⟨rfl, rfl⟩ | ⟨entry, hentry, rfl⟩)
      · exact ⟨value, .inl ⟨rfl, rfl⟩, rfl⟩
      · exact ⟨entry, .inr hentry, rfl⟩
    · rintro ⟨entry, ⟨rfl, rfl⟩ | hentry, rfl⟩
      · exact .inl ⟨rfl, rfl⟩
      · exact .inr ⟨entry, hentry, rfl⟩

theorem Proper.sorted {entry : Entry} (h : entry.Proper) : entry.sorted.Proper := by
  induction h with
  | file bytes => exact .file bytes
  | directory hnames _ ih =>
    refine .directory (fun name entry he => ?_) fun name entry he => ?_
    · obtain ⟨inner, hinner, -⟩ := mem_sortedEntries.mp he
      exact hnames name inner hinner
    · obtain ⟨inner, hinner, rfl⟩ := mem_sortedEntries.mp he
      exact ih name inner hinner

theorem Proper.of_directory {entries : List (String × Entry)} (h : (Entry.directory entries).Proper) :
    ∀ name entry, (name, entry) ∈ entries → IsFileName name ∧ entry.Proper := by
  cases h with
  | directory hnames hentries => exact fun name entry he => ⟨hnames name entry he, hentries name entry he⟩

end Entry

section Trees

variable {root : Entry} {trail : Trail}

theorem Trail.proper_last (hroot : root.Proper) (htrail : ∀ name entry, (name, entry) ∈ trail → entry.Proper) :
    (trail.last root).Proper := by
  cases trail with
  | nil => exact hroot
  | cons first rest => exact htrail first.1 first.2 List.mem_cons_self

/-- A step along a path stays in what is proper. -/
theorem Trail.proper_follow (hroot : root.Proper) (htrail : ∀ name entry, (name, entry) ∈ trail → entry.Proper)
    {piece : String} {further : Trail} (h : trail.follow root piece = .ok further) :
    ∀ name entry, (name, entry) ∈ further → entry.Proper := by
  have hlast := Trail.proper_last hroot htrail
  unfold Trail.follow at h
  split at h
  · cases h
  · rename_i entries hentries
    rw [hentries] at hlast
    -- a point stays, two points go back along the trail, and a name goes on to what it is under
    split at h
    · cases h
      exact htrail
    split at h
    · cases h
      exact fun name entry he => htrail name entry (List.mem_of_mem_drop he)
    split at h
    · cases h
    split at h
    · rename_i found hfound
      cases h
      rintro name entry (_ | ⟨_, he⟩)
      · exact (hlast.of_directory _ _ (Members.mem_of_get? hfound)).2
      · exact htrail name entry he
    · cases h

theorem FileTree.proper_trail {tree : FileTree} (hroot : tree.root.Proper) {path : String}
    (h : tree.trail path = .ok trail) : ∀ name entry, (name, entry) ∈ trail → entry.Proper := by
  obtain ⟨-, -, h⟩ := bind_eq_ok_iff.mp h
  have hstart : ∀ name entry, (name, entry) ∈ ([] : Trail) → entry.Proper :=
    fun _ _ he => absurd he List.not_mem_nil
  unfold FileTree.walk at h
  generalize tree.origin path ++ FileTree.steps path = pieces at h
  generalize ([] : Trail) = start at h hstart
  induction pieces generalizing start with
  | nil =>
    cases h
    exact hstart
  | cons piece rest ih =>
    rw [List.foldlM_cons] at h
    obtain ⟨further, hfurther, h⟩ := bind_eq_ok_iff.mp h
    exact ih further h (Trail.proper_follow hroot hstart hfurther)

/-- What a directory of a proper tree holds is under proper names. -/
theorem FileTree.proper_entries {tree : FileTree} (hroot : tree.root.Proper) {path : String}
    {entries : List (String × Entry)} (h : tree.entries path = .ok entries) : (Entry.directory entries).Proper := by
  obtain ⟨trail, htrail, h⟩ := bind_eq_ok_iff.mp h
  have hlast := Trail.proper_last hroot (tree.proper_trail hroot htrail)
  split at h
  · rename_i found hfound
    cases h
    exact hfound ▸ hlast
  · cases h

end Trees

/-- The empty text leads nowhere. -/
theorem FileTree.pathExists_empty (tree : FileTree) : tree.pathExists "" = false := rfl

end JsonShape

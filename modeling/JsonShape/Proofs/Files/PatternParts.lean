import JsonShape.Files.Glob
import JsonShape.Proofs.Files.Components
import JsonShape.Proofs.Json.Steps

/-!
# The components of a pattern

A pattern is read piece by piece.  A piece without wildcards is a component of its own text, and only such a piece
is (`PathPattern.mem_pieces_of_plain`).
-/

namespace JsonShape

open PathText

theorem Wildcard.plain?_cons_eq_some {wildcard : Wildcard} {others : List Wildcard} {name : List Char}
    (h : plain? (wildcard :: others) = some name) :
    ∃ c rest, wildcard = .char c ∧ plain? others = some rest ∧ name = c :: rest := by
  cases wildcard with
  | char c =>
    obtain ⟨rest, hrest, rfl⟩ := Option.map_eq_some_iff.mp h
    exact ⟨c, rest, rfl, hrest, rfl⟩
  | _ => cases h

theorem Wildcard.ne_char_of_set? {text after : List Char} {set : Wildcard} (h : set? text = some (set, after))
    (c : Char) : set ≠ .char c := by
  rintro rfl
  unfold set? at h
  split at h <;>
  · obtain ⟨_, -, h⟩ := Option.map_eq_some_iff.mp h
    cases h

/-- A reading that puts a wildcard before what is read further on has one character of a plain text there. -/
theorem Wildcard.plain?_of_front {front : Wildcard} {outcome : Except BadPattern (List Wildcard)}
    {wildcards : List Wildcard} {name : List Char} (h : (do return front :: (← outcome)) = Except.ok wildcards)
    (hp : plain? wildcards = some name) :
    ∃ c others rest, front = .char c ∧ outcome = .ok others ∧ plain? others = some rest ∧ name = c :: rest := by
  obtain ⟨others, hothers, h⟩ := bind_eq_ok_iff.mp h
  cases h
  obtain ⟨c, rest, hc, hrest, hname⟩ := plain?_cons_eq_some hp
  exact ⟨c, others, rest, hc, hothers, hrest, hname⟩

/-- In a reading without wildcards the first character stands for itself, and the rest is read after it. -/
theorem Wildcard.readFrom_cons_plain {c : Char} {text name : List Char} {fuel index : Nat} {before : Option Char}
    {wildcards : List Wildcard} (h : readFrom (fuel + 1) index before (c :: text) = .ok wildcards)
    (hp : plain? wildcards = some name) :
    ∃ others rest, readFrom fuel (index + 1) (some c) text = .ok others ∧ plain? others = some rest ∧
      name = c :: rest := by
  -- of all that a reading can begin with, only a character is plain
  rw [readFrom] at h
  split at h
  · obtain ⟨_, _, _, hfront, -⟩ := plain?_of_front h hp
    cases hfront
  split at h
  · -- one star or two
    dsimp only at h
    split at h
    · obtain ⟨_, _, _, hfront, -⟩ := plain?_of_front h hp
      cases hfront
    · split at h
      · split at h
        · cases h
          cases hp
        · split at h
          · obtain ⟨_, _, _, hfront, -⟩ := plain?_of_front h hp
            cases hfront
          · cases h
      · cases h
    · cases h
  split at h
  · split at h
    · cases h
    · rename_i hset
      obtain ⟨d, _, _, hfront, -⟩ := plain?_of_front h hp
      exact absurd hfront (ne_char_of_set? hset d)
  · obtain ⟨d, others, rest, hfront, hothers, hrest, hname⟩ := plain?_of_front h hp
    cases hfront
    exact ⟨others, rest, hothers, hrest, hname⟩

/-- A component that is read without wildcards is its own text. -/
theorem Wildcard.eq_of_plain? {text name : List Char} {fuel index : Nat} {before : Option Char}
    {wildcards : List Wildcard} (hfuel : text.length ≤ fuel) (h : readFrom fuel index before text = .ok wildcards)
    (hp : plain? wildcards = some name) : name = text := by
  induction text generalizing fuel index before wildcards name with
  | nil =>
    have hempty : wildcards = [] := by
      cases fuel <;> exact (Except.ok.inj h).symm
    subst hempty
    exact (Option.some.inj hp).symm
  | cons c text ih =>
    obtain ⟨fuel, rfl⟩ := Nat.exists_eq_succ_of_ne_zero (Nat.ne_of_gt (Nat.lt_of_lt_of_le (Nat.succ_pos _) hfuel))
    obtain ⟨others, rest, hothers, hrest, rfl⟩ := readFrom_cons_plain h hp
    rw [ih (Nat.le_of_succ_le_succ hfuel) hothers hrest]

theorem PatternPart.mem_of_mem_collapse {part : PatternPart} {parts : List PatternPart}
    (h : part ∈ collapse parts) : part ∈ parts := by
  induction parts using collapse.induct with
  | case1 rest ih =>
    rw [collapse] at h
    exact List.mem_cons_of_mem _ (ih h)
  | case2 first rest _ ih =>
    rw [collapse] at h
    · exact (List.mem_cons.mp h).elim (fun e => e ▸ List.mem_cons_self) fun h => List.mem_cons_of_mem _ (ih h)
    · assumption
  | case3 => exact h

theorem PatternPart.plain?_of_ofWildcards {wildcards : List Wildcard} {name : String}
    (h : ofWildcards wildcards = .plain name) : Wildcard.plain? wildcards = some name.toList := by
  unfold ofWildcards at h
  split at h
  · rename_i text htext
    cases h
    rw [htext, String.toList_ofList]
  · split at h <;> cases h

theorem PathPattern.mem_of_mem_piecesOf {text piece : List Char} (h : piece ∈ PathPattern.piecesOf text) :
    piece ∈ PathText.piecesOf text := by
  unfold PathPattern.piecesOf at h
  dsimp only at h
  split at h
  · exact List.dropLast_subset _ h
  · exact h

theorem PathPattern.origin_cases {text : String} {pattern : PathPattern} (h : PathPattern.ofText text = .ok pattern) :
    pattern.origin = "/" ∨ pattern.origin = "." := by
  obtain ⟨_, -, h⟩ := bind_eq_ok_iff.mp h
  obtain ⟨_, -, h⟩ := bind_eq_ok_iff.mp h
  cases h
  cases isAbsolute text
  · exact .inr rfl
  · exact .inl rfl

/-- A component without wildcards is a piece of the pattern. -/
theorem PathPattern.mem_pieces_of_plain {text name : String} {pattern : PathPattern}
    (h : PathPattern.ofText text = .ok pattern) (hname : .plain name ∈ pattern.parts) :
    name ∈ PathText.pieces text := by
  obtain ⟨-, -, h⟩ := bind_eq_ok_iff.mp h
  obtain ⟨read, hread, h⟩ := bind_eq_ok_iff.mp h
  cases h
  obtain ⟨wildcards, hwildcards, hplain⟩ := List.mem_map.mp (PatternPart.mem_of_mem_collapse hname)
  obtain ⟨piece, hpiece, hpart⟩ := exists_of_forall₂ (mapM_eq_ok_iff.mp hread).flip hwildcards
  have htext : name.toList = piece :=
    Wildcard.eq_of_plain? (Nat.le_succ _) hpart (PatternPart.plain?_of_ofWildcards hplain)
  refine List.mem_map.mpr ⟨piece, ?_, by rw [← htext, String.ofList_toList]⟩
  rw [PathText.piecesOf_eq_front]
  exact List.mem_append_right _ (PathPattern.mem_of_mem_piecesOf hpiece)

end JsonShape

import JsonShape.Proofs.Text.Unbroken

/-!
# Texts that are cut at the top level

`pieces mark text` cuts a text at every mark that stands neither inside brackets nor inside a string literal.
What decides this is the `Nesting` at a character, which changes from character to character.

`Moves mark start text final` says that a text leads from one nesting to another and is not cut on the way.
Such texts put together, with marks between them, are what the cuts give back (`pieces_marked`).  Literals are
never cut (`moves_literal`), nor is a text with the brackets around it (`moves_brackets`).
-/

namespace JsonShape

/-- Where a character stands: inside as many brackets, in a literal there, or after a backslash in one. -/
inductive Nesting where
  | bare (depth : Nat)
  | quoted (depth : Nat)
  | escaped (depth : Nat)
deriving DecidableEq

namespace Nesting

/-- The nesting after a character. -/
def after (c : Char) : Nesting → Nesting
  | bare depth =>
    if c = '"' then quoted depth
    else if c ∈ ['(', '[', '\x7b'] then bare (depth + 1)
    else if c ∈ [')', ']', '\x7d'] then bare (depth - 1)
    else bare depth
  | quoted depth => if c = '\\' then escaped depth else if c = '"' then bare depth else quoted depth
  | escaped depth => quoted depth

/-- The characters that change a nesting. -/
def delimiters : List Char := ['"', '\\', '(', '[', '\x7b', ')', ']', '\x7d']

theorem after_bare {c : Char} (h : c ∉ delimiters) (depth : Nat) : (bare depth).after c = bare depth := by
  simp only [delimiters, List.mem_cons, List.not_mem_nil, or_false, not_or] at h
  simp [after, h]

theorem after_quoted {c : Char} (h : c ∉ ['\\', '"']) (depth : Nat) :
    (quoted depth).after c = quoted depth := by
  simp only [List.mem_cons, List.not_mem_nil, or_false, not_or] at h
  simp [after, h]

end Nesting

open Nesting

/-- The pieces of a text between the marks that are read outside of brackets and literals. -/
def piecesFrom (mark : Char) : Nesting → List Char → List (List Char)
  | _, [] => [[]]
  | nesting, c :: rest =>
    if nesting = bare 0 ∧ c = mark then [] :: piecesFrom mark nesting rest
    else (piecesFrom mark (nesting.after c) rest).modifyHead (c :: ·)

/-- The pieces of a text between the marks outside of all brackets and literals. -/
def pieces (mark : Char) (text : List Char) : List (List Char) := piecesFrom mark (bare 0) text

/-- The text leads from one nesting to the other, and no mark in it is one to cut at. -/
def Moves (mark : Char) (start : Nesting) (text : List Char) (final : Nesting) : Prop :=
  ∀ rest, piecesFrom mark start (text ++ rest) = (piecesFrom mark final rest).modifyHead (text ++ ·)

variable {mark : Char} {start between final : Nesting} {depth : Nat}

namespace Moves

theorem nil : Moves mark start [] start := fun _ => (congrFun List.modifyHead_id _).symm

theorem append {text more : List Char} (h : Moves mark start text between)
    (h' : Moves mark between more final) : Moves mark start (text ++ more) final := by
  intro rest
  rw [List.append_assoc, h, h', List.modifyHead_modifyHead]
  simp only [Function.comp_def, List.append_assoc]

theorem char {c : Char} (h : ¬ (start = bare 0 ∧ c = mark)) : Moves mark start [c] (start.after c) :=
  fun _ => if_neg h

theorem cons {c : Char} {text : List Char} (hc : ¬ (start = bare 0 ∧ c = mark))
    (h : Moves mark (start.after c) text final) : Moves mark start (c :: text) final :=
  (char hc).append h

theorem flatMap {α : Type} {items : List α} {write : α → List Char}
    (h : ∀ item ∈ items, Moves mark start (write item) start) :
    Moves mark start (items.flatMap write) start := by
  induction items with
  | nil => exact .nil
  | cons item rest ih =>
    obtain ⟨hitem, hrest⟩ := List.forall_mem_cons.mp h
    exact hitem.append (ih hrest)

end Moves

/-- None of the characters stands in the text. -/
def Avoids (characters text : List Char) : Prop := ∀ c ∈ text, c ∉ characters

instance (characters text : List Char) : Decidable (Avoids characters text) :=
  List.decidableBAll (· ∉ characters) text

/-- A text that changes no nesting, and in which no mark is one to cut at. -/
theorem moves_still {text : List Char} (h : ∀ c ∈ text, start.after c = start)
    (hm : start = bare 0 → mark ∉ text) : Moves mark start text start := by
  induction text with
  | nil => exact .nil
  | cons c rest ih =>
    obtain ⟨hc, hrest⟩ := List.forall_mem_cons.mp h
    refine .cons (fun ⟨hs, he⟩ => hm hs (he ▸ List.mem_cons_self)) ?_
    rw [hc]
    exact ih hrest fun hs hmem => hm hs (List.mem_cons_of_mem _ hmem)

theorem moves_bare {text : List Char} (h : Avoids delimiters text) (hm : depth = 0 → mark ∉ text) :
    Moves mark (bare depth) text (bare depth) :=
  moves_still (fun c hc => after_bare (h c hc) depth) fun hs => hm (Nesting.bare.inj hs)

theorem moves_quoted {text : List Char} (h : Avoids ['\\', '"'] text) :
    Moves mark (quoted depth) text (quoted depth) :=
  moves_still (fun c hc => after_quoted (h c hc) depth) (by simp)

/-! ## Brackets and literals -/

/-- The brackets that belong together. -/
def brackets : List (Char × Char) := [('(', ')'), ('[', ']'), ('\x7b', '\x7d')]

/-- A text with brackets around it is read one level further in. -/
theorem moves_brackets (hm : mark ∉ delimiters) {opening closing : Char}
    (hb : (opening, closing) ∈ brackets) {text : List Char}
    (h : Moves mark (bare (depth + 1)) text (bare (depth + 1))) :
    Moves mark (bare depth) (opening :: (text ++ [closing])) (bare depth) := by
  obtain ⟨hdelimiter, hin, hout⟩ : opening ∈ delimiters ∧ (bare depth).after opening = bare (depth + 1) ∧
      (bare (depth + 1)).after closing = bare depth := by
    simp only [brackets, List.mem_cons, List.not_mem_nil, or_false, Prod.mk.injEq] at hb
    rcases hb with ⟨rfl, rfl⟩ | ⟨rfl, rfl⟩ | ⟨rfl, rfl⟩ <;> exact ⟨by decide, rfl, rfl⟩
  refine .cons (fun hc => hm (hc.2 ▸ hdelimiter)) ?_
  rw [hin]
  have hclose : Moves mark (bare (depth + 1)) [closing] ((bare (depth + 1)).after closing) := .char (by simp)
  rw [hout] at hclose
  exact h.append hclose

theorem moves_escape (c : Char) : Moves mark (quoted depth) ['\\', c] (quoted depth) :=
  .cons (by simp) (.char (by simp [after]))

theorem digitChar_ne_quote : ∀ digit < 16, Nat.digitChar digit ∉ ['\\', '"'] := by decide

theorem moves_literalChar (c : Char) : Moves mark (quoted depth) (literalChar c) (quoted depth) := by
  unfold literalChar
  split
  · exact moves_escape _
  · exact moves_escape _
  · exact moves_escape _
  · exact moves_escape _
  · exact moves_escape _
  · exact moves_escape _
  · rename_i hslash hquote
    by_cases hp : (isPrintable c && !isExtending c) = true
    · rw [if_pos hp]
      exact moves_quoted (List.forall_mem_singleton.mpr (by simpa using ⟨hslash, hquote⟩))
    · rw [if_neg hp, codePointEscape]
      have hdigits : Moves mark (quoted depth) (Nat.toDigits 16 c.toNat) (quoted depth) :=
        moves_quoted (forall_mem_toDigits (by decide) digitChar_ne_quote _)
      have hopen : Moves mark (quoted depth) ['\\', 'u', '\x7b'] (quoted depth) :=
        (moves_escape 'u').append (moves_quoted (by decide))
      exact (hopen.append hdigits).append (moves_quoted (by decide))

theorem moves_literal (hm : mark ∉ delimiters) (s : String) :
    Moves mark (bare depth) (literal s).toList (bare depth) := by
  have hbody : Moves mark (quoted depth) (s.toList.flatMap literalChar) (quoted depth) :=
    .flatMap fun c _ => moves_literalChar c
  rw [literal, String.toList_ofList]
  have hopen : Moves mark (bare depth) ['"'] (quoted depth) := .char fun h => hm (h.2 ▸ by decide)
  exact (hopen.append hbody).append (.char (by simp))

/-! ## Cuts -/

/-- A text that is not to be cut is its only piece. -/
theorem pieces_eq_singleton {text : List Char} (h : Moves mark (bare 0) text (bare 0)) :
    pieces mark text = [text] := by
  have hpieces := h []
  rw [List.append_nil] at hpieces
  rw [pieces, hpieces, piecesFrom, List.modifyHead_cons, List.append_nil]

/-- **The cuts are made where the texts were put together.** -/
theorem pieces_marked {text : List Char} (h : Moves mark (bare 0) text (bare 0)) {others : List (List Char)}
    (hs : ∀ other ∈ others, Moves mark (bare 0) other (bare 0)) :
    pieces mark (text ++ others.flatMap (mark :: ·)) = text :: others := by
  induction others generalizing text with
  | nil => rw [List.flatMap_nil, List.append_nil, pieces_eq_singleton h]
  | cons other rest ih =>
    obtain ⟨hother, hrest⟩ := List.forall_mem_cons.mp hs
    have hcut : piecesFrom mark (bare 0) (mark :: (other ++ rest.flatMap (mark :: ·))) =
        [] :: piecesFrom mark (bare 0) (other ++ rest.flatMap (mark :: ·)) := if_pos ⟨rfl, rfl⟩
    rw [List.flatMap_cons, List.cons_append, pieces, h, hcut, List.modifyHead_cons, List.append_nil]
    exact congrArg (text :: ·) (ih hother hrest)

end JsonShape

import JsonShape.Proofs.Text.Unbroken

/-!
# Readers of lines

A `LineReader` takes a text line by line, from the last line to the first, and adds what each of them says to what is
found after it.  So what it finds in a text with more behind it depends on the rest by what is found there
(`LineReader.read_append`), and lines that say nothing are passed over (`LineReader.Skips`).
-/

namespace JsonShape

/-- What is found where there are no more lines, and what a line makes of what is found after it. -/
structure LineReader (σ : Type) where
  start : σ
  take : List Char → σ → σ

namespace LineReader

variable {σ : Type} (r : LineReader σ)

/-- What is found in a text. -/
def read (text : List Char) : σ := (text.splitOn '\n').foldr r.take r.start

theorem read_append (text rest : List Char) :
    r.read (text ++ '\n' :: rest) = (text.splitOn '\n').foldr r.take (r.read rest) := by
  rw [read, List.splitOn_append_cons_self, List.foldr_append]
  rfl

theorem read_line {line : List Char} (hb : Unbroken line) (rest : List Char) :
    r.read (line ++ '\n' :: rest) = r.take line (r.read rest) := by
  rw [read_append, List.splitOn_eq_singleton hb]
  rfl

/-- The lines say nothing. -/
def Skips (text : List Char) : Prop := ∀ rest, r.read (text ++ rest) = r.read rest

variable {r}

theorem Skips.nil : r.Skips [] := fun _ => rfl

theorem Skips.append {text more : List Char} (h : r.Skips text) (h' : r.Skips more) : r.Skips (text ++ more) := by
  intro rest
  rw [List.append_assoc, h, h']

theorem skips_lines {lines : List Char} (h : ∀ line ∈ lines.splitOn '\n', ∀ found, r.take line found = found) :
    r.Skips (lines ++ ['\n']) := by
  intro rest
  rw [List.append_assoc, List.singleton_append, read_append]
  generalize lines.splitOn '\n' = lines at h
  -- line by line, from the last to the first
  induction lines with
  | nil => rfl
  | cons line others ih =>
    obtain ⟨hline, hothers⟩ := List.forall_mem_cons.mp h
    rw [List.foldr_cons, hline, ih hothers]

theorem skips_text {text : String} (hlast : text.toList.getLast? = some '\n')
    (h : ∀ line ∈ text.toList.dropLast.splitOn '\n', ∀ found, r.take line found = found) : r.Skips text.toList := by
  rw [← List.dropLast_append_getLast? '\n' hlast]
  exact skips_lines h

end LineReader

end JsonShape

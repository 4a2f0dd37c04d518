import JsonShape.Mismatch.Basic
import JsonShape.Proofs.Text.Digits
import Mathlib.Data.List.DropRight

/-!
# Texts of paths

As long as no name in it has a point or an opening bracket, the text of a path can be taken apart again: every
step but the first begins with a mark, and what follows the mark has none.

Two things are not shown.  The whole document has the text of a field `$`, and fields with an empty name at the
front of a path leave no trace, since a point is written only after some text.  `Step.shown` is what remains, and
two paths have the same text just if they show the same (`render_eq_iff`).
-/

namespace JsonShape

/-- A text without the characters that a step can begin with. -/
def Markless (text : List Char) : Prop := '.' ∉ text ∧ '[' ∉ text

theorem Markless.right {text gap : List Char} (h : Markless (text ++ gap)) : Markless gap :=
  ⟨fun hm => h.1 (List.mem_append_right _ hm), fun hm => h.2 (List.mem_append_right _ hm)⟩

/-- A name without a point or an opening bracket. -/
def PlainName (name : String) : Prop := Markless name.toList

/-- All names in a path are plain. -/
def PlainPath (path : Path) : Prop := ∀ name, .field name ∈ path → PlainName name

theorem plainPath_cons_iff {step : Step} {path : Path} :
    PlainPath (step :: path) ↔ (∀ name, step = .field name → PlainName name) ∧ PlainPath path := by
  constructor
  · intro h
    exact ⟨fun name hs => h name (hs ▸ List.mem_cons_self), fun name hn => h name (List.mem_cons_of_mem _ hn)⟩
  · rintro ⟨hstep, hpath⟩ name hn
    rcases List.mem_cons.mp hn with hs | hn
    · exact hstep name hs.symm
    · exact hpath name hn

namespace Step

/-! ## Marked pieces -/

/-- What a step after the first one begins with. -/
def mark : Step → Char
  | field _ => '.'
  | index _ => '['

/-- What follows the mark of a step. -/
def body : Step → List Char
  | field name => name.toList
  | index i => (toString i).toList ++ [']']

/-- The text of a step after the first one. -/
def piece (step : Step) : List Char := step.mark :: step.body

theorem mark_eq (step : Step) : step.mark = '.' ∨ step.mark = '[' := by
  cases step with
  | field name => exact .inl rfl
  | index i => exact .inr rfl

theorem markless_body {step : Step} (h : ∀ name, step = field name → PlainName name) :
    Markless step.body := by
  cases step with
  | field name => exact h name rfl
  | index i =>
    have hdigits := List.all_eq_true.mp (all_toString (p := Char.isDigit) (fun c hc => hc) i)
    have hnone : ∀ c : Char, c.isDigit = false → c ≠ ']' → c ∉ (index i).body := by
      intro c hc hne hm
      rcases List.mem_append.mp hm with hm | hm
      · exact absurd (hdigits c hm) (by simp [hc])
      · exact hne (List.mem_singleton.mp hm)
    exact ⟨hnone '.' (by decide) (by decide), hnone '[' (by decide) (by decide)⟩

theorem eq_of_piece {step other : Step} (hmark : step.mark = other.mark) (hbody : step.body = other.body) :
    step = other := by
  cases step with
  | field name =>
    cases other with
    | field name' => exact congrArg field (String.toList_inj.mp hbody)
    | index i => exact absurd hmark (by simp [mark])
  | index i =>
    cases other with
    | field name => exact absurd hmark (by simp [mark])
    | index j => exact congrArg index (toString_nat_inj (String.toList_inj.mp (List.append_cancel_right hbody)))

/-- Marked pieces begin with a mark. -/
theorem eq_nil_of_markless {gap rest : List Char} (h : Markless gap) {path : Path}
    (he : path.flatMap piece = gap ++ rest) : gap = [] := by
  cases gap with
  | nil => rfl
  | cons c more =>
    cases path with
    | nil => cases he
    | cons step others =>
      obtain ⟨rfl, -⟩ := List.cons.inj he
      rcases step.mark_eq with hm | hm
      · exact absurd List.mem_cons_self (hm ▸ h.1)
      · exact absurd List.mem_cons_self (hm ▸ h.2)

/-- A text ends where the next mark stands, so two texts before marked pieces agree only as a whole. -/
theorem eq_of_markless {text text' : List Char} (h : Markless text) (h' : Markless text') {path path' : Path}
    (he : text ++ path.flatMap piece = text' ++ path'.flatMap piece) :
    text = text' ∧ path.flatMap piece = path'.flatMap piece := by
  rcases List.append_eq_append_iff.mp he with ⟨gap, rfl, hrest⟩ | ⟨gap, rfl, hrest⟩
  · obtain rfl := eq_nil_of_markless h'.right hrest
    exact ⟨(List.append_nil _).symm, hrest⟩
  · obtain rfl := eq_nil_of_markless h.right hrest
    exact ⟨List.append_nil _, hrest.symm⟩

/-- **Marked pieces can be taken apart.** -/
theorem flatMap_piece_inj {path other : Path} (hp : PlainPath path) (ho : PlainPath other)
    (h : path.flatMap piece = other.flatMap piece) : path = other := by
  induction path generalizing other with
  | nil =>
    cases other with
    | nil => rfl
    | cons step rest => cases h
  | cons step rest ih =>
    cases other with
    | nil => cases h
    | cons step' rest' =>
      obtain ⟨hstep, hrest⟩ := plainPath_cons_iff.mp hp
      obtain ⟨hstep', hrest'⟩ := plainPath_cons_iff.mp ho
      obtain ⟨hmark, hmore⟩ := List.cons.inj h
      obtain ⟨hbody, hothers⟩ := eq_of_markless (markless_body hstep) (markless_body hstep') hmore
      rw [eq_of_piece hmark hbody, ih hrest hrest' hothers]

/-! ## The first step -/

/-- The text of a path that does not begin with an empty name: a field at the front has no point. -/
def frontText : Path → List Char
  | field name :: rest => name.toList ++ rest.flatMap piece
  | path => path.flatMap piece

/-- Puts the point before a field at the front. -/
def pointed : List Char → List Char
  | [] => []
  | '[' :: rest => '[' :: rest
  | text => '.' :: text

/-- With a point before a field at the front, the text is made of marked pieces only. -/
theorem pointed_frontText {path : Path} (hp : PlainPath path) (hf : path.head? ≠ some (field "")) :
    pointed (frontText path) = path.flatMap piece := by
  cases path with
  | nil => rfl
  | cons step rest =>
    cases step with
    | index i => rfl
    | field name =>
      have hplain := hp name List.mem_cons_self
      -- a plain name begins neither with a bracket nor with nothing
      cases hname : name.toList with
      | nil => exact absurd (by rw [String.toList_eq_nil_iff.mp hname]; rfl) hf
      | cons c more =>
        have hc : c ≠ '[' := by
          rintro rfl
          exact hplain.2 (hname ▸ List.mem_cons_self)
        have hpoint : ∀ text, pointed (c :: text) = '.' :: c :: text := by
          intro text
          unfold pointed
          split
          · rename_i he
            cases he
          · rename_i he
            exact absurd (List.cons.inj he).1 hc
          · rfl
        simp [frontText, piece, mark, body, hname, hpoint]

theorem frontText_inj {path other : Path} (hp : PlainPath path) (ho : PlainPath other)
    (hf : path.head? ≠ some (field "")) (hf' : other.head? ≠ some (field ""))
    (h : frontText path = frontText other) : path = other := by
  refine flatMap_piece_inj hp ho ?_
  rw [← pointed_frontText hp hf, h, pointed_frontText ho hf']

/-! ## What is shown -/

def isNameless (step : Step) : Bool := step == field ""

theorem isNameless_iff {step : Step} : step.isNameless = true ↔ step = field "" := beq_iff_eq

/-- What the text of a path shows: the whole document as a field `$`, and no empty names at the front. -/
def shown : Path → Path
  | [] => [field "$"]
  | path => path.dropWhile isNameless

theorem shown_cons (step : Step) (rest : Path) :
    shown (step :: rest) = (step :: rest).dropWhile isNameless := rfl

theorem toList_renderAfter {text : String} (h : text ≠ "") (path : Path) :
    (renderAfter text path).toList = text.toList ++ path.flatMap piece := by
  induction path generalizing text with
  | nil => simp [renderAfter]
  | cons step rest ih =>
    have hlonger : ∀ more : String, text ++ more ≠ "" := fun more he => h (by simp_all)
    cases step with
    | field name =>
      rw [renderAfter, if_neg h, String.append_assoc, ih (hlonger _)]
      simp [piece, mark, body]
    | index i =>
      rw [renderAfter, String.append_assoc, String.append_assoc, ih (hlonger _)]
      simp [piece, mark, body]

theorem toList_renderAfter_empty (path : Path) :
    (renderAfter "" path).toList = frontText (path.dropWhile isNameless) := by
  induction path with
  | nil => rfl
  | cons step rest ih =>
    cases step with
    | field name =>
      by_cases hn : name = ""
      · subst hn
        exact ih
      · have hstep : ¬ (field name).isNameless = true := by simpa [isNameless_iff] using hn
        rw [renderAfter, if_pos rfl, toList_renderAfter hn, List.dropWhile_cons_of_neg hstep]
        rfl
    | index i =>
      have hstep : ¬ (index i).isNameless = true := by simp [isNameless_iff]
      rw [renderAfter, toList_renderAfter (by simp), List.dropWhile_cons_of_neg hstep]
      simp [frontText, piece, mark, body]

theorem toList_render (path : Path) : (render path).toList = frontText (shown path) := by
  cases path with
  | nil => rfl
  | cons step rest => exact toList_renderAfter_empty (step :: rest)

theorem plainPath_shown {path : Path} (h : PlainPath path) : PlainPath (shown path) := by
  cases path with
  | nil =>
    intro name hn
    obtain rfl := field.inj (List.mem_singleton.mp hn)
    exact ⟨by decide, by decide⟩
  | cons step rest =>
    intro name hn
    rw [shown_cons] at hn
    exact h name ((List.dropWhile_sublist _).subset hn)

theorem head?_shown (path : Path) : (shown path).head? ≠ some (field "") := by
  cases path with
  | nil => simp [shown]
  | cons step rest =>
    intro hhead
    have hnot := List.head?_dropWhile_not isNameless (step :: rest)
    rw [← shown_cons, hhead] at hnot
    simp [isNameless] at hnot

/-- **Paths with the same text show the same.** -/
theorem shown_eq_of_render_eq {path other : Path} (hp : PlainPath path) (ho : PlainPath other)
    (h : render path = render other) : shown path = shown other := by
  refine frontText_inj (plainPath_shown hp) (plainPath_shown ho) (head?_shown path) (head?_shown other) ?_
  rw [← toList_render, h, toList_render]

/-- A path that begins with no empty name is shown as it is, unless it is that of the whole document. -/
theorem shown_of_named {path : Path} (hne : path ≠ []) (h : path.head? ≠ some (field "")) : shown path = path := by
  cases path with
  | nil => exact absurd rfl hne
  | cons step rest =>
    have hstep : ¬ step.isNameless = true := by simpa [isNameless_iff] using h
    exact List.dropWhile_cons_of_neg hstep

/-- Of paths that begin with no empty name, only that of the whole document shares its text with another one. -/
theorem eq_or_root_of_render_eq {path other : Path} (hp : PlainPath path) (ho : PlainPath other)
    (hf : path.head? ≠ some (field "")) (hf' : other.head? ≠ some (field ""))
    (h : render path = render other) :
    path = other ∨ (path = [] ∧ other = [field "$"]) ∨ (path = [field "$"] ∧ other = []) := by
  have hshown := shown_eq_of_render_eq hp ho h
  rcases eq_or_ne path [] with rfl | hpath
  · rcases eq_or_ne other [] with rfl | hother
    · exact .inl rfl
    · rw [shown_of_named hother hf'] at hshown
      exact .inr (.inl ⟨rfl, hshown.symm⟩)
  · rw [shown_of_named hpath hf] at hshown
    rcases eq_or_ne other [] with rfl | hother
    · exact .inr (.inr ⟨hshown, rfl⟩)
    · rw [shown_of_named hother hf'] at hshown
      exact .inl hshown

/-- **Two paths have the same text just if they show the same**, as long as no name in them has a point or an
opening bracket.  So different paths have different texts if neither begins with an empty name and neither is
that of a field `$`. -/
theorem render_eq_iff {path other : Path} (hp : PlainPath path) (ho : PlainPath other) :
    (render path = render other ↔ shown path = shown other) ∧
    (path.head? ≠ some (field "") → other.head? ≠ some (field "") →
      path ≠ [field "$"] → other ≠ [field "$"] → path ≠ other → render path ≠ render other) := by
  constructor
  · refine ⟨shown_eq_of_render_eq hp ho, fun h => String.toList_inj.mp ?_⟩
    rw [toList_render, h, toList_render]
  · intro hf hf' hroot hroot' hne h
    rcases eq_or_root_of_render_eq hp ho hf hf' h with he | ⟨-, he⟩ | ⟨he, -⟩
    · exact hne he
    · exact hroot' he
    · exact hroot he

/-- A dollar sign and an empty name at places other than the first, and digits that are a name. -/
theorem render_eq_iff_sample :
    let path : Path := [.index 0, .field "", .field "$", .field "2]"]
    let other : Path := [.index 0, .field "", .field "$", .index 2]
    PlainPath path ∧ PlainPath other ∧ render path = "[0]..$.2]" ∧ render other = "[0]..$[2]" ∧
      (render path = render other ↔ shown path = shown other) ∧ render path ≠ render other := by
  intro path other
  have hp : PlainPath path := by
    intro name hn
    simp only [path, List.mem_cons, field.injEq, reduceCtorEq, List.not_mem_nil, false_or, or_false] at hn
    rcases hn with rfl | rfl | rfl <;> exact ⟨by decide, by decide⟩
  have ho : PlainPath other := by
    intro name hn
    simp only [other, List.mem_cons, field.injEq, reduceCtorEq, List.not_mem_nil, false_or, or_false] at hn
    rcases hn with rfl | rfl <;> exact ⟨by decide, by decide⟩
  obtain ⟨hiff, hdiffer⟩ := render_eq_iff hp ho
  exact ⟨hp, ho, by decide, by decide, hiff, hdiffer (by decide) (by decide) (by decide) (by decide) (by decide)⟩

/-- An empty name at the front is lost: a field of a field without a name has the text of a field of its own. -/
theorem empty_name_lost :
    let path : Path := [.field "", .field "a"]
    let other : Path := [.field "a"]
    PlainPath path ∧ PlainPath other ∧ path ≠ [.field "$"] ∧ other ≠ [.field "$"] ∧ path ≠ other ∧
      render path = render other := by
  intro path other
  have hplain : ∀ name ∈ ["", "a"], PlainName name := by
    intro name hn
    simp only [List.mem_cons, List.not_mem_nil, or_false] at hn
    rcases hn with rfl | rfl <;> exact ⟨by decide, by decide⟩
  refine ⟨fun name hn => hplain name ?_, fun name hn => hplain name ?_, by decide, by decide, by decide, rfl⟩
  · simpa [path] using hn
  · obtain rfl : name = "a" := by simpa [other] using hn
    simp

end Step

end JsonShape

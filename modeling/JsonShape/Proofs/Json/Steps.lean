import JsonShape.Json.Reader
import Mathlib.Data.List.Forall2

/-!
# One step of a reader

What it takes for a reader to succeed, said once for each reader: in an array or object the next entry and
the reading of the others (`itemsFrom_succ_eq_ok_iff`, `membersFrom_succ_eq_ok_iff`), in a document what its
first character leads to (`ReadFrom`).  `Decides` is the kind of statement about an outcome that goes from the
steps of a reader to the whole: a value if a condition holds, and otherwise an error of a known kind.
-/

namespace JsonShape

open Json

/-! ## Outcomes -/

theorem bind_eq_ok_iff {ε α β : Type} {outcome : Except ε α} {next : α → Except ε β} {result : β} :
    (outcome >>= next) = .ok result ↔ ∃ value, outcome = .ok value ∧ next value = .ok result := by
  cases outcome with
  | error fault => simp [bind, Except.bind]
  | ok value => simp [bind, Except.bind]

theorem mapError_eq_ok_iff {ε ε' α : Type} {rename : ε → ε'} {outcome : Except ε α} {result : α} :
    outcome.mapError rename = .ok result ↔ outcome = .ok result := by
  cases outcome <;> simp [Except.mapError]

theorem atPlace_eq_ok_iff {α : Type} {step : PlaceStep} {outcome : Except Failure α} {result : α} :
    atPlace step outcome = .ok result ↔ outcome = .ok result := mapError_eq_ok_iff

section Outcomes

variable {ε α β : Type} {f : α → Except ε β}

/-- The results over a list are those of its elements. -/
theorem mapM_eq_ok_iff {xs : List α} {ys : List β} :
    xs.mapM f = .ok ys ↔ List.Forall₂ (fun x y => f x = .ok y) xs ys := by
  induction xs generalizing ys with
  | nil =>
    rw [List.mapM_nil, List.forall₂_nil_left_iff]
    exact ⟨fun h => (Except.ok.inj h).symm, fun h => h ▸ rfl⟩
  | cons x rest ih =>
    rw [List.mapM_cons, bind_eq_ok_iff, List.forall₂_cons_left_iff]
    constructor
    · rintro ⟨y, hy, h⟩
      obtain ⟨others, hothers, h⟩ := bind_eq_ok_iff.mp h
      cases h
      exact ⟨y, others, hy, ih.mp hothers, rfl⟩
    · rintro ⟨y, others, hy, hothers, rfl⟩
      exact ⟨y, hy, bind_eq_ok_iff.mpr ⟨others, ih.mpr hothers, rfl⟩⟩

/-- A list is gone through up to the first element that fails. -/
theorem mapM_eq_error {before : List α} {x : α} {error : ε}
    (hbefore : ∀ y ∈ before, ∃ result, f y = .ok result) (hx : f x = .error error) (after : List α) :
    (before ++ x :: after).mapM f = .error error := by
  induction before with
  | nil => simp [hx, bind, Except.bind]
  | cons y rest ih =>
    obtain ⟨⟨result, hy⟩, hrest⟩ := List.forall_mem_cons.mp hbefore
    rw [List.cons_append, List.mapM_cons, hy, ih hrest]
    rfl

end Outcomes

/-- The outcome is the value if that fits, and otherwise an error of a kind. -/
def Decides {ε α : Type} (outcome : Except ε α) (value : α) (fits : Prop) (kind : ε → Prop) : Prop :=
  (fits → outcome = .ok value) ∧ (¬ fits → ∃ error, outcome = .error error ∧ kind error)

namespace Decides

variable {ε α β : Type} {outcome : Except ε α} {value : α} {fits : Prop} {kind : ε → Prop}

theorem of_ok (hf : fits) (h : outcome = .ok value) : Decides outcome value fits kind :=
  ⟨fun _ => h, fun hn => absurd hf hn⟩

theorem of_error (hf : ¬ fits) {error : ε} (hk : kind error) (h : outcome = .error error) :
    Decides outcome value fits kind :=
  ⟨fun hn => absurd hn hf, fun _ => ⟨error, h, hk⟩⟩

theorem of_iff {other : Prop} (h : Decides outcome value fits kind) (hiff : fits ↔ other) :
    Decides outcome value other kind :=
  ⟨fun ho => h.1 (hiff.mpr ho), fun hn => h.2 fun hf => hn (hiff.mp hf)⟩

/-- Two steps decide together what each of them decides. -/
theorem bind {next : α → Except ε β} {result : β} {more : Prop} (h : Decides outcome value fits kind)
    (hnext : Decides (next value) result more kind) :
    Decides (outcome >>= next) result (fits ∧ more) kind := by
  obtain ⟨hok, herror⟩ := h
  obtain ⟨hnextok, hnexterror⟩ := hnext
  constructor
  · rintro ⟨hf, hm⟩
    rw [hok hf]
    exact hnextok hm
  · intro hn
    by_cases hf : fits
    · rw [hok hf]
      exact hnexterror fun hm => hn ⟨hf, hm⟩
    · obtain ⟨error, herror, hkind⟩ := herror hf
      exact ⟨error, by rw [herror]; rfl, hkind⟩

theorem andThen {next : α → Except ε β} {result : β} (h : Decides outcome value fits kind)
    (hnext : next value = .ok result) : Decides (outcome >>= next) result fits kind :=
  (h.bind (of_ok trivial hnext)).of_iff (Iff.of_eq (and_true fits))

theorem eq_ok_iff (h : Decides outcome value fits kind) {result : α} :
    outcome = .ok result ↔ fits ∧ result = value := by
  obtain ⟨hok, herror⟩ := h
  by_cases hf : fits
  · rw [hok hf, Except.ok.injEq]
    exact ⟨fun e => ⟨hf, e.symm⟩, fun e => e.2.symm⟩
  · obtain ⟨error, he, -⟩ := herror hf
    rw [he]
    exact ⟨fun e => (nomatch e), fun e => absurd e.1 hf⟩

end Decides

/-! ## Entries -/

/-- Where each element of a list is related to something, there is a list that it is related to. -/
theorem exists_forall₂ {α β : Type} {related : α → β → Prop} {xs : List α}
    (h : ∀ x ∈ xs, ∃ y, related x y) : ∃ ys, List.Forall₂ related xs ys := by
  induction xs with
  | nil => exact ⟨[], .nil⟩
  | cons x rest ih =>
    obtain ⟨⟨y, hy⟩, hrest⟩ := List.forall_mem_cons.mp h
    obtain ⟨ys, hys⟩ := ih hrest
    exact ⟨y :: ys, .cons hy hys⟩

/-- What is related to a list has something for each of its elements. -/
theorem exists_of_forall₂ {α β : Type} {related : α → β → Prop} {xs : List α} {ys : List β}
    (h : List.Forall₂ related xs ys) {x : α} (hx : x ∈ xs) : ∃ y ∈ ys, related x y := by
  induction h with
  | nil => cases hx
  | cons hfirst _ ih =>
    rcases List.mem_cons.mp hx with rfl | hx
    · exact ⟨_, List.mem_cons_self, hfirst⟩
    · obtain ⟨y, hy, hrelated⟩ := ih hx
      exact ⟨y, List.mem_cons_of_mem _ hy, hrelated⟩

/-- What is related to two lists, one after the other, is two such lists. -/
theorem exists_append_of_forall₂ {α β : Type} {related : α → β → Prop} {xs xs' : List α} {ys : List β}
    (h : List.Forall₂ related (xs ++ xs') ys) : ∃ us vs, ys = us ++ vs ∧
      List.Forall₂ related xs us ∧ List.Forall₂ related xs' vs :=
  ⟨_, _, (List.take_append_drop xs.length ys).symm, (List.forall₂_take_append _ _ _ h.flip).flip,
    (List.forall₂_drop_append _ _ _ h.flip).flip⟩

theorem itemsFrom_succ_eq_ok_iff {α : Type} {read : Reader α} {fuel index : Nat} {text rest : List Char}
    {items : List α} : itemsFrom read (fuel + 1) index text = .ok (items, rest) ↔
      (∃ left, nextItem (index == 0) text = .ok (.finish left) ∧ items = [] ∧ rest = left.drop 1) ∨
      ∃ left item more others, nextItem (index == 0) text = .ok (.entry left) ∧
        read left = .ok (item, more) ∧ itemsFrom read fuel (index + 1) more = .ok (others, rest) ∧
        items = item :: others := by
  rw [itemsFrom, bind_eq_ok_iff]
  constructor
  · rintro ⟨left | left, hnext, h⟩
    · cases h
      exact .inl ⟨left, hnext, rfl, rfl⟩
    · obtain ⟨⟨item, more⟩, hread, h⟩ := bind_eq_ok_iff.mp h
      obtain ⟨⟨others, last⟩, hothers, h⟩ := bind_eq_ok_iff.mp h
      cases h
      exact .inr ⟨left, item, more, others, hnext, atPlace_eq_ok_iff.mp hread, hothers, rfl⟩
  · rintro (⟨left, hnext, rfl, rfl⟩ | ⟨left, item, more, others, hnext, hread, hothers, rfl⟩)
    · exact ⟨.finish left, hnext, rfl⟩
    · refine ⟨.entry left, hnext, bind_eq_ok_iff.mpr ⟨(item, more), atPlace_eq_ok_iff.mpr hread, ?_⟩⟩
      exact bind_eq_ok_iff.mpr ⟨(others, rest), hothers, rfl⟩

theorem membersFrom_succ_eq_ok_iff {α : Type} {read : List String → String → Reader α} {fuel : Nat}
    {names : List String} {text rest : List Char} {members : List (String × α)} :
    membersFrom read (fuel + 1) names text = .ok (members, rest) ↔
      (∃ left, nextName names.isEmpty text = .ok (.finish left) ∧ members = [] ∧ rest = left.drop 1) ∨
      ∃ left name after member more others, nextName names.isEmpty text = .ok (.entry left) ∧
        stringAfterQuote left = .ok (name, after) ∧ read names name after = .ok (member, more) ∧
        membersFrom read fuel (name :: names) more = .ok (others, rest) ∧
        members = (name, member) :: others := by
  rw [membersFrom, bind_eq_ok_iff]
  -- either the brace closes the object, or a name, its value and the other members are read in turn
  constructor
  · rintro ⟨left | left, hnext, h⟩
    · cases h
      exact .inl ⟨left, atPlace_eq_ok_iff.mp hnext, rfl, rfl⟩
    · obtain ⟨⟨name, after⟩, hname, h⟩ := bind_eq_ok_iff.mp h
      obtain ⟨⟨member, more⟩, hread, h⟩ := bind_eq_ok_iff.mp h
      obtain ⟨⟨others, last⟩, hothers, h⟩ := bind_eq_ok_iff.mp h
      cases h
      exact .inr ⟨left, name, after, member, more, others, atPlace_eq_ok_iff.mp hnext,
        atPlace_eq_ok_iff.mp hname, hread, hothers, rfl⟩
  · rintro (⟨left, hnext, rfl, rfl⟩ |
      ⟨left, name, after, member, more, others, hnext, hname, hread, hothers, rfl⟩)
    · exact ⟨.finish left, atPlace_eq_ok_iff.mpr hnext, rfl⟩
    · refine ⟨.entry left, atPlace_eq_ok_iff.mpr hnext, ?_⟩
      refine bind_eq_ok_iff.mpr ⟨(name, after), atPlace_eq_ok_iff.mpr hname, ?_⟩
      refine bind_eq_ok_iff.mpr ⟨(member, more), hread, ?_⟩
      exact bind_eq_ok_iff.mpr ⟨(others, rest), hothers, rfl⟩

/-! ## Documents -/

theorem wordRest_eq_ok_iff {letters text rest : List Char} :
    wordRest letters text = .ok rest ↔ text = letters ++ rest := by
  induction letters generalizing text with
  | nil => simp [wordRest]
  | cons letter letters ih =>
    cases text with
    | nil => simp [wordRest, faultBefore]
    | cons c more =>
      rw [wordRest]
      by_cases hc : c = letter
      · simp [hc, ih]
      · simp [hc, faultAt]

/-- What a document is read from at the front of a text that does not begin with a blank. -/
inductive ReadFrom (levels : Nat) : List Char → Json → List Char → Prop
  | null {rest : List Char} : ReadFrom levels ('n' :: 'u' :: 'l' :: 'l' :: rest) .null rest
  | isTrue {rest : List Char} : ReadFrom levels ('t' :: 'r' :: 'u' :: 'e' :: rest) (.bool true) rest
  | isFalse {rest : List Char} :
      ReadFrom levels ('f' :: 'a' :: 'l' :: 's' :: 'e' :: rest) (.bool false) rest
  | string {s : String} {text rest : List Char} (h : stringAfterQuote text = .ok (s, rest)) :
      ReadFrom levels ('"' :: text) (.string s) rest
  | negative {n : Number} {text rest : List Char} (h : unsignedNumber true text = .ok (n, rest)) :
      ReadFrom levels ('-' :: text) (.number n) rest
  | positive {n : Number} {c : Char} {text rest : List Char} (hc : c.isDigit)
      (h : unsignedNumber false (c :: text) = .ok (n, rest)) :
      ReadFrom levels (c :: text) (.number n) rest
  | array {less : Nat} {elements : List Json} {text rest : List Char} (hl : levels = less + 1)
      (h : items (value less) text = .ok (elements, rest)) :
      ReadFrom levels ('[' :: text) (.array elements) rest
  | object {less : Nat} {entries : List (String × Json)} {text rest : List Char} (hl : levels = less + 1)
      (h : members (fun _ name => memberValue (value less) name) text = .ok (entries, rest)) :
      ReadFrom levels ('\x7b' :: text) (.object entries) rest

/-- A word at the front of a text, of which the first letter has been taken. -/
theorem wordRest_document_eq_ok_iff {letters text rest : List Char} {word document : Json} :
    (do return (word, ← wordRest letters text)) = (.ok (document, rest) : Except Failure (Json × List Char)) ↔
      document = word ∧ text = letters ++ rest := by
  rw [bind_eq_ok_iff]
  constructor
  · rintro ⟨left, hrest, h⟩
    cases h
    exact ⟨rfl, wordRest_eq_ok_iff.mp hrest⟩
  · rintro ⟨rfl, htext⟩
    exact ⟨rest, wordRest_eq_ok_iff.mpr htext, rfl⟩

/-- A document is read just if what it is made of is. -/
theorem made_eq_ok_iff {α : Type} {outcome : Except Failure (α × List Char)} {make : α → Json}
    {document : Json} {rest : List Char} :
    (outcome >>= fun read => pure (make read.1, read.2)) = .ok (document, rest) ↔
      ∃ inside, outcome = .ok (inside, rest) ∧ document = make inside := by
  rw [bind_eq_ok_iff]
  constructor
  · rintro ⟨⟨inside, left⟩, hread, h⟩
    cases h
    exact ⟨inside, hread, rfl⟩
  · rintro ⟨inside, hread, rfl⟩
    exact ⟨(inside, rest), hread, rfl⟩

theorem readFrom_of_value {levels : Nat} {text rest : List Char} {document : Json}
    (h : value levels text = .ok (document, rest)) :
    ReadFrom levels (skipBlanks text) document rest := by
  rw [value.eq_def] at h
  generalize skipBlanks text = start at h ⊢
  cases start with
  | nil => cases h
  | cons c more =>
    simp only at h
    -- the first character decides; the tests stand in the order of the reader
    by_cases hn : c = 'n'
    · rw [if_pos hn] at h
      obtain ⟨rfl, rfl⟩ := wordRest_document_eq_ok_iff.mp h
      exact hn ▸ .null
    rw [if_neg hn] at h
    by_cases ht : c = 't'
    · rw [if_pos ht] at h
      obtain ⟨rfl, rfl⟩ := wordRest_document_eq_ok_iff.mp h
      exact ht ▸ .isTrue
    rw [if_neg ht] at h
    by_cases hf : c = 'f'
    · rw [if_pos hf] at h
      obtain ⟨rfl, rfl⟩ := wordRest_document_eq_ok_iff.mp h
      exact hf ▸ .isFalse
    rw [if_neg hf] at h
    by_cases hquote : c = '"'
    · rw [if_pos hquote] at h
      obtain ⟨s, hread, rfl⟩ := made_eq_ok_iff.mp h
      exact hquote ▸ .string hread
    rw [if_neg hquote] at h
    by_cases hminus : c = '-'
    · rw [if_pos hminus] at h
      obtain ⟨n, hread, rfl⟩ := made_eq_ok_iff.mp h
      exact hminus ▸ .negative hread
    rw [if_neg hminus] at h
    by_cases hdigit : c.isDigit
    · rw [if_pos hdigit] at h
      obtain ⟨n, hread, rfl⟩ := made_eq_ok_iff.mp h
      exact .positive hdigit hread
    rw [if_neg hdigit] at h
    by_cases hbracket : c = '['
    · rw [if_pos hbracket] at h
      cases levels with
      | zero => cases h
      | succ less =>
        obtain ⟨elements, hread, rfl⟩ := made_eq_ok_iff.mp h
        exact hbracket ▸ .array rfl hread
    rw [if_neg hbracket] at h
    by_cases hbrace : c = '\x7b'
    · rw [if_pos hbrace] at h
      cases levels with
      | zero => cases h
      | succ less =>
        obtain ⟨entries, hread, rfl⟩ := made_eq_ok_iff.mp h
        exact hbrace ▸ .object rfl hread
    rw [if_neg hbrace] at h
    cases h

theorem value_of_readFrom {levels : Nat} {text rest : List Char} {document : Json}
    (h : ReadFrom levels (skipBlanks text) document rest) : value levels text = .ok (document, rest) := by
  rw [value.eq_def]
  generalize skipBlanks text = start at h ⊢
  cases h with
  | null => rfl
  | isTrue => rfl
  | isFalse => rfl
  | string h => simp [h, bind, Except.bind, pure, Except.pure]
  | negative h => simp [h, bind, Except.bind, pure, Except.pure]
  | @positive n c text rest hc h =>
    -- a digit is none of the characters that are tested before
    have hne : ∀ d : Char, d.isDigit = false → c ≠ d := by
      rintro d hd rfl
      rw [hd] at hc
      cases hc
    simp [hne 'n' rfl, hne 't' rfl, hne 'f' rfl, hne '"' rfl, hne '-' rfl, hc, h, bind, Except.bind, pure,
      Except.pure]
  | array hl h =>
    subst hl
    simp [h, bind, Except.bind, pure, Except.pure]
  | object hl h =>
    subst hl
    simp [h, bind, Except.bind, pure, Except.pure]

end JsonShape

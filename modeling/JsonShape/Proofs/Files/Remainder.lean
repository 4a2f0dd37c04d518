import JsonShape.Proofs.Files.Components

/-!
# What is left of a path after a base

The names of a path are its components without the point that may stand at the front, so points and repeated
separators do not matter for them.  If a path begins with the components of a base, the text after these has the
names that are left (`names_after?`).
-/

namespace JsonShape.PathText

/-- The components of a path without points. -/
def names (path : String) : List String := (components path).filter (· ≠ ".")

variable {base path label : String}

/-! ## Names -/

theorem point_notMem_names (path : String) : "." ∉ names path := by simp [names]

/-- The components are the names, after a point or not. -/
theorem components_cases (path : String) : components path = names path ∨ components path = "." :: names path :=
  filter_components path

/-- If the components begin with the names of a base, then so do the names. -/
theorem names_prefix_names (h : names base <+: components path) : names base <+: names path := by
  have hfilter := h.filter (· ≠ ".")
  rwa [List.filter_eq_self.mpr fun name hname => ?_] at hfilter
  exact decide_eq_true fun e => point_notMem_names base (e ▸ hname)

theorem ne_point_of_counts {pieces : List String} :
    ∀ piece ∈ pieces.filter fun piece => !isIdle piece, piece ≠ "." := by
  intro piece hp e
  have hcounts := (List.mem_filter.mp hp).2
  rw [e] at hcounts
  cases hcounts

/-- Of the pieces that count none is a point. -/
theorem filter_counting (pieces : List String) :
    (pieces.filter fun piece => !isIdle piece).filter (· ≠ ".") = pieces.filter fun piece => !isIdle piece :=
  List.filter_eq_self.mpr fun piece hp => decide_eq_true (ne_point_of_counts piece hp)

/-- The names of a path are its pieces that count, after the separator of an absolute one. -/
theorem names_eq (path : String) : names path =
    (if isAbsolute path then ["/"] else []) ++ (pieces path).filter fun piece => !isIdle piece := by
  by_cases hempty : path = ""
  · rw [hempty]
    rfl
  · obtain ⟨first, rest, hpieces, habsolute, hcomponents⟩ := exists_front hempty
    rw [names, hcomponents, hpieces, habsolute, List.filter_cons, List.filter_cons, filter_counting]
    by_cases hfirst : first = ""
    · simp [hfirst, isIdle]
    · by_cases hpoint : first = "."
      · simp [hpoint, isIdle]
      · simp [hfirst, hpoint, isIdle]

/-! ## Pieces after a number of components -/

section PiecesAfter

variable {piece : String} {n : Nat} {rest : List String}

theorem piecesAfter_of_isIdle (h : isIdle piece = true) : piecesAfter n (piece :: rest) = piecesAfter n rest := by
  cases n <;> exact if_pos h

theorem piecesAfter_zero_of_counts (h : ¬ isIdle piece = true) : piecesAfter 0 (piece :: rest) = piece :: rest :=
  if_neg h

theorem piecesAfter_succ_of_counts (h : ¬ isIdle piece = true) :
    piecesAfter (n + 1) (piece :: rest) = piecesAfter n rest := if_neg h

/-- They are the pieces at the end, after so many that count, and the first of them counts too. -/
theorem piecesAfter_spec (n : Nat) (pieces : List String) :
    piecesAfter n pieces <:+ pieces ∧ (∀ piece ∈ (piecesAfter n pieces).head?, isIdle piece = false) ∧
      (piecesAfter n pieces).filter (fun piece => !isIdle piece) =
        (pieces.filter fun piece => !isIdle piece).drop n := by
  induction pieces generalizing n with
  | nil => cases n <;> exact ⟨List.suffix_refl _, by simp [piecesAfter], rfl⟩
  | cons piece rest ih =>
    by_cases hidle : isIdle piece = true
    · obtain ⟨hend, hhead, hfilter⟩ := ih n
      rw [piecesAfter_of_isIdle hidle, List.filter_cons_of_neg (by simp [hidle])]
      exact ⟨hend.trans (List.suffix_cons piece rest), hhead, hfilter⟩
    · cases n with
      | zero =>
        rw [piecesAfter_zero_of_counts hidle]
        exact ⟨List.suffix_refl _, by simpa using hidle, rfl⟩
      | succ n =>
        obtain ⟨hend, hhead, hfilter⟩ := ih n
        rw [piecesAfter_succ_of_counts hidle, List.filter_cons_of_pos (by simp [hidle]), List.drop_succ_cons]
        exact ⟨hend.trans (List.suffix_cons piece rest), hhead, hfilter⟩

end PiecesAfter

/-- The names of pieces that are joined, the first of which counts. -/
theorem names_joined {pieces : List String} (hslash : ∀ piece ∈ pieces, '/' ∉ piece.toList)
    (hhead : ∀ piece ∈ pieces.head?, isIdle piece = false) :
    names (joined pieces) = pieces.filter fun piece => !isIdle piece := by
  cases pieces with
  | nil => rfl
  | cons first rest =>
    have hfirst : isIdle first = false := hhead first rfl
    have hcut := pieces_joined hslash
    -- what is joined is neither empty nor absolute, since its first piece counts
    have hne : joined (first :: rest) ≠ "" := by
      intro he
      rw [he] at hcut
      obtain ⟨rfl, -⟩ := List.cons.inj (hcut : [""] = first :: rest)
      cases hfirst
    obtain ⟨front, more, hpieces, habsolute, -⟩ := exists_front hne
    obtain ⟨rfl, rfl⟩ := List.cons.inj (hcut.symm.trans hpieces)
    have hrelative : isAbsolute (joined (first :: rest)) = false := by
      rw [habsolute, beq_eq_false_iff_ne]
      rintro rfl
      cases hfirst
    rw [names_eq, hrelative, hcut]
    rfl

/-! ## The text after a base -/

/-- After all components of a base, the pieces that are left are joined. -/
theorem after?_eq_some (h : components base <+: components path) :
    after? base path = some (if components base = [] then path
      else joined (piecesAfter ((components base).length - 1) (pieces path).tail)) := by
  rw [after?, if_neg (not_not_intro (List.prefix_iff_eq_take.mp h))]
  by_cases hnone : components base = []
  · rw [if_pos hnone, if_pos (List.length_eq_zero_iff.mpr hnone)]
  · have hlength : (components base).length ≠ 0 := mt List.length_eq_zero_iff.mp hnone
    have hne : path ≠ "" := by
      rintro rfl
      exact hnone (List.prefix_nil.mp h)
    obtain ⟨first, rest, hpieces, habsolute, -⟩ := exists_front hne
    rw [if_neg hnone, if_neg hlength, hpieces, habsolute]
    -- a first piece that is idle stands for the root or for the place itself; both are one component
    by_cases hidle : isIdle first = true
    · simp [hidle]
    · have hfirst : (first == "") = false := by
        rw [beq_eq_false_iff_ne]
        rintro rfl
        exact hidle rfl
      obtain ⟨n, hn⟩ := Nat.exists_eq_succ_of_ne_zero hlength
      simp [hfirst, hidle, hn, piecesAfter_succ_of_counts hidle]

theorem after?_eq_none_iff : after? base path = none ↔ ¬ components base <+: components path := by
  constructor
  · intro h hprefix
    rw [after?_eq_some hprefix] at h
    cases h
  · intro h
    rw [after?, if_pos (mt List.prefix_iff_eq_take.mpr h)]

/-- **The names of a path** are those of the base and those of the text after it. -/
theorem names_after? (h : after? base path = some label) : names base ++ names label = names path := by
  have hprefix : components base <+: components path := by
    refine not_not.mp fun hn => ?_
    rw [after?_eq_none_iff.mpr hn] at h
    cases h
  rw [after?_eq_some hprefix] at h
  obtain ⟨more, hmore⟩ := hprefix
  obtain rfl := Option.some.inj h
  -- names leave out the points, so one that is dropped with the base does not count
  have hpath : names path = names base ++ more.filter (· ≠ ".") := by
    rw [names, ← hmore, List.filter_append]
    rfl
  by_cases hnone : components base = []
  · rw [if_pos hnone, names, hnone]
    rfl
  · have hne : path ≠ "" := by
      rintro rfl
      exact hnone (List.append_eq_nil_iff.mp hmore).1
    obtain ⟨first, rest, hpieces, -, hcomponents⟩ := exists_front hne
    obtain ⟨hend, hhead, hfilter⟩ := piecesAfter_spec ((components base).length - 1) rest
    have hslash : ∀ piece ∈ piecesAfter ((components base).length - 1) rest, '/' ∉ piece.toList := by
      intro piece hp
      have hpiece : piece ∈ pieces path := hpieces ▸ List.mem_cons_of_mem _ (hend.subset hp)
      exact notMem_of_mem_pieces hpiece
    -- both sides are now lists of pieces: what is left of the components, and of the pieces after the base
    have hleft : more = (rest.filter fun piece => !isIdle piece).drop ((components base).length - 1) := by
      obtain ⟨n, hn⟩ := Nat.exists_eq_succ_of_ne_zero (mt List.length_eq_zero_iff.mp hnone)
      have hdrop : (components base ++ more).drop (components base).length = more := List.drop_left
      rw [hmore, hcomponents, hn, List.drop_succ_cons] at hdrop
      rw [hn, ← hdrop]
      rfl
    have hnames : more.filter (· ≠ ".") = more := by
      refine List.filter_eq_self.mpr fun piece hp => decide_eq_true ?_
      rw [hleft] at hp
      exact ne_point_of_counts piece (List.mem_of_mem_drop hp)
    rw [if_neg hnone, hpieces, List.tail_cons, names_joined hslash hhead, hfilter, ← hleft, hpath, hnames]

end JsonShape.PathText

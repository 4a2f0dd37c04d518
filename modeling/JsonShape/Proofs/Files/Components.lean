import JsonShape.Files.PathText
import Mathlib.Data.List.Basic

/-!
# The components of paths

A path is cut into pieces at its separators, and its components are the pieces that count.  A name put after a
path is one more component (`components_join`).  A point counts at the very front alone, so it is never among
the later components (`point_notMem_tail`).
-/

namespace JsonShape.PathText

/-! ## Pieces -/

theorem piecesOf_ne_nil (text : List Char) : piecesOf text ≠ [] := by
  cases text with
  | nil => exact List.cons_ne_nil _ _
  | cons c rest =>
    rw [piecesOf]
    split
    · exact List.cons_ne_nil _ _
    · split <;> exact List.cons_ne_nil _ _

theorem piecesOf_cons_of_ne {c : Char} (h : c ≠ '/') {rest piece : List Char} {more : List (List Char)}
    (hrest : piecesOf rest = piece :: more) : piecesOf (c :: rest) = (c :: piece) :: more := by
  rw [piecesOf, if_neg h, hrest]

/-- Two texts with a separator between them are cut one by one. -/
theorem piecesOf_append_separator (text rest : List Char) :
    piecesOf (text ++ '/' :: rest) = piecesOf text ++ piecesOf rest := by
  induction text with
  | nil => exact if_pos rfl
  | cons c text ih =>
    by_cases hc : c = '/'
    · subst hc
      rw [List.cons_append, piecesOf, if_pos rfl, piecesOf, if_pos rfl, ih, List.cons_append]
    · obtain ⟨piece, more, hpieces⟩ := List.exists_cons_of_ne_nil (piecesOf_ne_nil text)
      rw [hpieces, List.cons_append] at ih
      rw [List.cons_append, piecesOf_cons_of_ne hc ih, piecesOf_cons_of_ne hc hpieces, List.cons_append]

theorem piecesOf_of_notMem {text : List Char} (h : '/' ∉ text) : piecesOf text = [text] := by
  induction text with
  | nil => rfl
  | cons c rest ih =>
    rw [List.mem_cons, not_or] at h
    exact piecesOf_cons_of_ne (Ne.symm h.1) (ih h.2)

/-- A piece is made of characters of the text, but not of separators. -/
theorem mem_of_mem_piecesOf {text piece : List Char} {c : Char} (h : piece ∈ piecesOf text) (hc : c ∈ piece) :
    c ∈ text ∧ c ≠ '/' := by
  induction text generalizing piece with
  | nil =>
    rw [List.mem_singleton.mp h] at hc
    cases hc
  | cons d rest ih =>
    have hrest {piece : List Char} (h : piece ∈ piecesOf rest) (hc : c ∈ piece) : c ∈ d :: rest ∧ c ≠ '/' :=
      (ih h hc).imp_left (List.mem_cons_of_mem d)
    -- a separator begins a new piece, any other character goes to the first of the rest
    by_cases hd : d = '/'
    · rw [piecesOf, if_pos hd, List.mem_cons] at h
      rcases h with rfl | h
      · cases hc
      · exact hrest h hc
    · obtain ⟨first, more, hpieces⟩ := List.exists_cons_of_ne_nil (piecesOf_ne_nil rest)
      rw [piecesOf_cons_of_ne hd hpieces, List.mem_cons] at h
      rcases h with rfl | h
      · rcases List.mem_cons.mp hc with rfl | hc
        · exact ⟨List.mem_cons_self, hd⟩
        · exact hrest (hpieces ▸ List.mem_cons_self) hc
      · exact hrest (hpieces ▸ List.mem_cons_of_mem _ h) hc

theorem notMem_of_mem_piecesOf {text piece : List Char} (h : piece ∈ piecesOf text) : '/' ∉ piece :=
  fun hc => (mem_of_mem_piecesOf h hc).2 rfl

section Paths

variable {path longer name : String}

theorem exists_pieces (path : String) : ∃ first rest, pieces path = first :: rest := by
  refine List.exists_cons_of_ne_nil fun h => piecesOf_ne_nil path.toList ?_
  exact List.map_eq_nil_iff.mp h

theorem pieces_of_notMem (h : '/' ∉ name.toList) : pieces name = [name] := by
  rw [pieces, piecesOf_of_notMem h, List.map_singleton, String.ofList_toList]

theorem notMem_of_mem_pieces (h : name ∈ pieces path) : '/' ∉ name.toList := by
  obtain ⟨piece, hpiece, rfl⟩ := List.mem_map.mp h
  rw [String.toList_ofList]
  exact notMem_of_mem_piecesOf hpiece

theorem pieces_append (path rest : String) : pieces (path ++ "/" ++ rest) = pieces path ++ pieces rest := by
  have htext : (path ++ "/" ++ rest).toList = path.toList ++ '/' :: rest.toList := by
    rw [String.toList_append, String.toList_append, List.append_assoc]
    rfl
  rw [pieces, htext, piecesOf_append_separator, List.map_append]
  rfl

theorem pieces_append_separator (path : String) (h : '/' ∉ name.toList) :
    pieces (path ++ "/" ++ name) = pieces path ++ [name] := by
  rw [pieces_append, pieces_of_notMem h]

/-- Pieces that are joined are cut again. -/
theorem pieces_joined {first : String} {rest : List String} (h : ∀ piece ∈ first :: rest, '/' ∉ piece.toList) :
    pieces (joined (first :: rest)) = first :: rest := by
  induction rest generalizing first with
  | nil => rw [joined, String.intercalate_singleton, pieces_of_notMem (h first List.mem_cons_self)]
  | cons second more ih =>
    obtain ⟨hfirst, hrest⟩ := List.forall_mem_cons.mp h
    rw [joined, String.intercalate_cons_cons, pieces_append, pieces_of_notMem hfirst]
    exact congrArg (first :: ·) (ih hrest)

theorem isAbsolute_append (h : path ≠ "") (more : String) : isAbsolute (path ++ more) = isAbsolute path := by
  obtain ⟨c, rest, hpath⟩ := List.exists_cons_of_ne_nil (mt String.toList_eq_nil_iff.mp h)
  simp only [isAbsolute, String.toList_append, hpath, List.cons_append, List.head?_cons]

theorem isAbsolute_of_notMem (h : '/' ∉ name.toList) : isAbsolute name = false :=
  beq_eq_false_iff_ne.mpr fun hhead => h (List.mem_of_mem_head? hhead)

/-- The separator at the front of an absolute path cuts off an empty piece. -/
theorem piecesOf_eq_front (path : String) : piecesOf path.toList = (if isAbsolute path then [[]] else []) ++
    piecesOf (if isAbsolute path then path.toList.drop 1 else path.toList) := by
  cases habsolute : isAbsolute path with
  | false => rfl
  | true =>
    obtain ⟨rest, hpath⟩ := List.head?_eq_some_iff.mp (beq_iff_eq.mp habsolute)
    rw [hpath, piecesOf, if_pos rfl]
    rfl

/-! ## Components -/

/-- The first piece of a path is empty if the path is absolute, and counts for the separator; the pieces after it
count if they are not idle. -/
theorem exists_front (h : path ≠ "") : ∃ first rest, pieces path = first :: rest ∧
    isAbsolute path = (first == "") ∧
    components path = (if first = "" then "/" else first) :: rest.filter fun piece => !isIdle piece := by
  obtain ⟨c, text, hpath⟩ := List.exists_cons_of_ne_nil (mt String.toList_eq_nil_iff.mp h)
  by_cases hc : c = '/'
  · have habsolute : isAbsolute path = true := by rw [isAbsolute, hpath, hc]; rfl
    have hpieces : pieces path = "" :: (piecesOf text).map String.ofList := by
      rw [pieces, hpath, piecesOf, if_pos hc]
      rfl
    exact ⟨_, _, hpieces, habsolute, by rw [components, hpieces]; simp only [habsolute, if_pos]⟩
  · have habsolute : isAbsolute path = false := by rw [isAbsolute, hpath]; simpa using hc
    obtain ⟨piece, more, hmore⟩ := List.exists_cons_of_ne_nil (piecesOf_ne_nil text)
    have hpieces : pieces path = String.ofList (c :: piece) :: more.map String.ofList := by
      rw [pieces, hpath, piecesOf_cons_of_ne hc hmore]
      rfl
    have hfirst : String.ofList (c :: piece) ≠ "" := by simp [← String.toList_inj]
    refine ⟨_, _, hpieces, by simp [habsolute], ?_⟩
    simp only [components, hpieces, habsolute, Bool.false_eq_true, if_false, if_neg hfirst]

/-- A path and a longer one with the same front: the components of the longer one are those of the path, and
what its other pieces add. -/
theorem components_of_pieces {first : String} {rest more others : List String}
    (hpath : pieces path = first :: rest) (hlonger : pieces longer = first :: more)
    (habsolute : isAbsolute longer = isAbsolute path)
    (h : (more.filter fun piece => !isIdle piece) = (rest.filter fun piece => !isIdle piece) ++ others) :
    components longer = components path ++ others := by
  simp only [components, hpath, hlonger, habsolute, h]
  split
  · rfl
  · split <;> rfl

/-- **A name after a path** is one more component, unless it counts for nothing. -/
theorem components_join (hpath : path ≠ "") (hname : '/' ∉ name.toList) :
    components (join path name) = components path ++ if isIdle name then [] else [name] := by
  have hlast (rest : List String) : ((rest ++ [name]).filter fun piece => !isIdle piece) =
      (rest.filter fun piece => !isIdle piece) ++ if isIdle name then [] else [name] := by
    rw [List.filter_append]
    cases h : isIdle name <;> simp [h]
  rw [join, if_neg (by simp [isAbsolute_of_notMem hname, hpath])]
  split
  · -- a separator at the end of the path leaves an empty last piece, which the name takes the place of
    rename_i hend
    obtain ⟨before, hbefore⟩ := List.getLast?_eq_some_iff.mp hend
    obtain rfl : path = String.ofList before ++ "/" := by
      rw [← String.toList_inj, String.toList_append, String.toList_ofList, hbefore]
      rfl
    obtain ⟨first, rest, hpieces⟩ := exists_pieces (String.ofList before)
    have hpath' : pieces (String.ofList before ++ "/") = first :: (rest ++ [""]) := by
      rw [← List.cons_append, ← hpieces, ← pieces_append_separator _ (show '/' ∉ "".toList from List.not_mem_nil),
        String.append_empty]
    have hlonger : pieces (String.ofList before ++ "/" ++ name) = first :: (rest ++ [name]) := by
      rw [pieces_append_separator _ hname, hpieces, List.cons_append]
    refine components_of_pieces hpath' hlonger (isAbsolute_append hpath name) ?_
    rw [hlast, List.filter_append]
    simp [isIdle]
  · obtain ⟨first, rest, hpieces⟩ := exists_pieces path
    have hlonger : pieces (path ++ "/" ++ name) = first :: (rest ++ [name]) := by
      rw [pieces_append_separator _ hname, hpieces, List.cons_append]
    refine components_of_pieces hpieces hlonger ?_ (hlast rest)
    rw [String.append_assoc, isAbsolute_append hpath]

theorem components_of_name (hname : '/' ∉ name.toList) (hne : name ≠ "") : components name = [name] := by
  simp [components, pieces_of_notMem hname, isAbsolute_of_notMem hname, hne]

/-- Only the first component can be a point. -/
theorem point_notMem_tail {first : String} {rest : List String} (h : components path = first :: rest) :
    "." ∉ rest := by
  obtain ⟨piece, more, hpieces⟩ := exists_pieces path
  have hothers : "." ∉ more.filter fun piece => !isIdle piece := by simp [isIdle]
  simp only [components, hpieces] at h
  split at h
  · cases h
    exact hothers
  · split at h
    · rw [h] at hothers
      exact fun hmem => hothers (List.mem_cons_of_mem _ hmem)
    · cases h
      exact hothers

/-- The components without points are all but the first, or all. -/
theorem filter_components (path : String) :
    components path = (components path).filter (· ≠ ".") ∨
      components path = "." :: (components path).filter (· ≠ ".") := by
  cases hcomponents : components path with
  | nil => exact .inl rfl
  | cons first rest =>
    have hrest : rest.filter (· ≠ ".") = rest := by
      refine List.filter_eq_self.mpr fun name hname => decide_eq_true fun e => ?_
      exact point_notMem_tail hcomponents (e ▸ hname)
    by_cases hfirst : first = "."
    · exact .inr (by rw [List.filter_cons_of_neg (by simp [hfirst]), hrest, hfirst])
    · exact .inl (by rw [List.filter_cons_of_pos (by simp [hfirst]), hrest])

end Paths

end JsonShape.PathText

/-!
# Path patterns

A pattern is a path in which `?` stands for any character, `*` for any run of characters, and brackets
for one character of a set or, after `!`, for one outside of it.  A component `**` stands for any number
of directories.

* `Wildcard.ofText` reads a pattern and refuses stars and brackets that make no sense.
* `Wildcard.matchAll` matches a whole name.
-/

namespace JsonShape

/-- The characters from a first to a last one; there are none if they are in the wrong order. -/
structure CharRange where
  first : Char
  last : Char
deriving DecidableEq

def CharRange.holds (r : CharRange) (c : Char) : Bool :=
  decide (r.first ≤ c) && decide (c ≤ r.last)

/-- What a pattern is made of. -/
inductive Wildcard where
  | char (c : Char)
  | anyChar
  | anyRun
  | anyDirectories
  | oneOf (ranges : List CharRange)
  | noneOf (ranges : List CharRange)
deriving DecidableEq

/-- What is wrong with a pattern. -/
inductive PatternFault where
  | stars
  | lonelyStars
  | brackets
deriving DecidableEq

def PatternFault.message : PatternFault → String
  | stars => "wildcards are either regular `*` or recursive `**`"
  | lonelyStars => "recursive wildcards must form a single path component"
  | brackets => "invalid range pattern"

/-- A fault and the index of the character it lies at. -/
structure BadPattern where
  fault : PatternFault
  index : Nat
deriving DecidableEq

def BadPattern.message (e : BadPattern) : String :=
  "Pattern syntax error near position " ++ toString e.index ++ ": " ++ e.fault.message

namespace Wildcard

/-- The ranges of a set: a hyphen between two characters makes a range of them. -/
def ranges : List Char → List CharRange
  | a :: '-' :: b :: rest => ⟨a, b⟩ :: ranges rest
  | a :: rest => ⟨a, a⟩ :: ranges rest
  | [] => []

/-- Splits at the first closing bracket, which may not be the first character. -/
def bracketed : List Char → Option (List Char × List Char)
  | [] => none
  | c :: rest =>
    match rest.span (· != ']') with
    | (_, []) => none
    | (inside, _ :: rest) => some (c :: inside, rest)

/-- The set that follows an opening bracket, and what follows the closing one. -/
def set? : List Char → Option (Wildcard × List Char)
  | '!' :: rest => (bracketed rest).map fun (inside, rest) => (noneOf (ranges inside), rest)
  | text => (bracketed text).map fun (inside, rest) => (oneOf (ranges inside), rest)

/-- Whether the stars stand alone between separators. -/
def standAlone (before : Option Char) : Bool := before == none || before == some '/'

/-- Reads a pattern from the given index on, after the given character.  Every step takes at least one
character. -/
def readFrom : Nat → Nat → Option Char → List Char → Except BadPattern (List Wildcard)
  | 0, _, _, _ => .ok []
  | _ + 1, _, _, [] => .ok []
  | fuel + 1, index, before, c :: rest =>
    if c = '?' then do return anyChar :: (← readFrom fuel (index + 1) (some c) rest)
    else if c = '*' then
      let more := rest.takeWhile (· == '*')
      let after := rest.dropWhile (· == '*')
      match more.length with
      | 0 => do return anyRun :: (← readFrom fuel (index + 1) (some c) rest)
      | 1 =>
        if standAlone before then
          match after with
          | [] => .ok [anyDirectories]
          | d :: after =>
            if d = '/' then do
              return anyDirectories :: (← readFrom fuel (index + 3) (some d) after)
            else .error ⟨.lonelyStars, index + 2⟩
        else .error ⟨.lonelyStars, index - 1⟩
      | _ => .error ⟨.stars, index + 2⟩
    else if c = '[' then
      match set? rest with
      | none => .error ⟨.brackets, index⟩
      | some (set, after) => do
        return set :: (← readFrom fuel (index + 1 + (rest.length - after.length)) (some ']') after)
    else do return char c :: (← readFrom fuel (index + 1) (some c) rest)

/-- Reads a pattern. -/
def ofText (text : List Char) : Except BadPattern (List Wildcard) :=
  readFrom (text.length + 1) 0 none text

/-- What is left of a name after one character that the wildcard stands for. -/
def take? : Wildcard → List Char → Option (List Char)
  | char c, d :: rest => if c = d then some rest else none
  | anyChar, _ :: rest => some rest
  | oneOf ranges, d :: rest => if ranges.any (·.holds d) then some rest else none
  | noneOf ranges, d :: rest => if ranges.any (·.holds d) then none else some rest
  | _, _ => none

/-- All the ends of a name, the longest first. -/
def ends : List Char → List (List Char)
  | [] => [[]]
  | c :: rest => (c :: rest) :: ends rest

/-- What may be left of a name after a wildcard, given what may be left before it, the longest first.
A run leads from the longest of these to all that it can lead to from the others. -/
def after : Wildcard → List (List Char) → List (List Char)
  | anyRun, longest :: _ => ends longest
  | anyDirectories, longest :: _ => ends longest
  | wildcard, rests => rests.filterMap wildcard.take?

/-- Whether a pattern matches the whole of a name: nothing may be left of it in the end. -/
def matchAll (wildcards : List Wildcard) (name : List Char) : Bool :=
  (wildcards.foldl (fun rests wildcard => wildcard.after rests) [name]).contains []

/-- The characters of a pattern without wildcards. -/
def plain? : List Wildcard → Option (List Char)
  | [] => some []
  | char c :: rest => (plain? rest).map (c :: ·)
  | _ :: _ => none

end Wildcard

end JsonShape

/-!
# Glob

Shell patterns for paths. A star stands for any characters, slashes and line feeds included, a
question mark for any one character, and brackets for one character of a set. A bracket that is
never closed stands for itself.

Matching computes, from the end of the pattern to its start, at which positions of the text the rest
of the pattern matches the rest of the text. So it takes no more steps than pattern and text have
pairs of positions.
-/

namespace Provenance.Glob

/-! ## Sets of characters -/

/-- A member of a set: a character, or a range of them. -/
inductive Member where
  | single (c : Char)
  | range (low high : Char)
  deriving DecidableEq

def Member.has (c : Char) : Member → Bool
  | .single d => c == d
  | .range low high => low ≤ c && c ≤ high

/-- The members that a set spells. A hyphen between two characters makes a range of them; a range
whose ends are in the wrong order has no characters and is left out. -/
def members : List Char → List Member
  | low :: '-' :: high :: rest =>
    if low ≤ high then .range low high :: members rest else members rest
  | c :: rest => .single c :: members rest
  | [] => []

/-- A set of characters: its members, or all characters but its members. -/
structure CharSet where
  negated : Bool
  members : List Member
  deriving DecidableEq

def CharSet.has (s : CharSet) (c : Char) : Bool := s.members.any (Member.has c) != s.negated

/-- The set that the text between brackets spells. An exclamation mark in front negates it, also one
that comes to stand in front because a range without characters was left out. -/
def CharSet.ofText : List Char → CharSet
  | '!' :: rest => ⟨true, Glob.members rest⟩
  | cs =>
    match Glob.members cs with
    | .single '!' :: rest => ⟨true, rest⟩
    | .range '!' high :: rest => ⟨true, .single '-' :: .single high :: rest⟩
    | ms => ⟨false, ms⟩

/-! ## Patterns -/

/-- An element of a pattern. -/
inductive Element where
  /-- Any characters. -/
  | star
  /-- Any one character. -/
  | any
  | set (s : CharSet)
  | char (c : Char)
  deriving DecidableEq

/-- Whether an element stands for a character by itself. -/
def Element.accepts (c : Char) : Element → Bool
  | .star => false
  | .any => true
  | .set s => s.has c
  | .char d => c == d

/-- The text between brackets, behind the opening one, and what follows the closing one. A closing
bracket in front of all else, or behind the exclamation mark in front, belongs to the set. -/
def closeBracket? (cs : List Char) : Option (List Char × List Char) :=
  let front := match cs with
    | '!' :: ']' :: _ => 2
    | '!' :: _ => 1
    | ']' :: _ => 1
    | _ => 0
  let inner := (cs.drop front).takeWhile (· != ']')
  match cs.drop (front + inner.length) with
  | [] => none
  | _ :: after => some (cs.take front ++ inner, after)

theorem length_of_closeBracket? {cs inner after : List Char}
    (h : closeBracket? cs = some (inner, after)) : after.length < cs.length := by
  simp only [closeBracket?] at h
  split at h
  · simp at h
  · rename_i c rest hd
    simp only [Option.some.injEq, Prod.mk.injEq] at h
    obtain ⟨_, rfl⟩ := h
    have := congrArg List.length hd
    simp only [List.length_drop, List.length_cons] at this
    omega

/-- The pattern that a text spells. -/
def pattern : List Char → List Element
  | [] => []
  | '*' :: cs => .star :: pattern cs
  | '?' :: cs => .any :: pattern cs
  | '[' :: cs =>
    match h : closeBracket? cs with
    | some (inner, after) =>
      have := length_of_closeBracket? h
      .set (CharSet.ofText inner) :: pattern after
    | none => .char '[' :: pattern cs
  | c :: cs => .char c :: pattern cs
termination_by cs => cs.length

/-! ## Matching -/

/-- Whether something holds here or at some later position, for each position. -/
def orLater : List Bool → List Bool
  | [] => []
  | b :: bs =>
    match orLater bs with
    | [] => [b]
    | later :: rest => (b || later) :: later :: rest

/-- For each position of a text, its end included, whether the pattern matches the text from there
on. -/
def matchesFrom (cs : List Char) : List Element → List Bool
  | [] => (cs.map fun _ => false) ++ [true]
  | .star :: ps => orLater (matchesFrom cs ps)
  | p :: ps =>
    List.zipWith (fun c later => p.accepts c && later) cs ((matchesFrom cs ps).drop 1) ++ [false]

/-- Whether a pattern matches a whole text. -/
def accepts (ps : List Element) (cs : List Char) : Bool := (matchesFrom cs ps).headD false

/-- Whether the pattern that a text spells matches another text. -/
def fits (spelled s : String) : Bool := accepts (pattern spelled.toList) s.toList

end Provenance.Glob

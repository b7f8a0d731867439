import Mathlib.Data.List.TakeWhile
import Provenance.Lexis.Name
import Provenance.Proofs.Lexis.Literal

/-!
# Proofs — Lexis — Shape

How a line of code is cut into tokens. The classes of characters that tokens are made of lie apart,
so the first character of a token decides what it is (`tokens_name`, `tokens_number`,
`tokens_operator`, `tokens_mark`); later proofs use these equations. A name goes on as long as its
characters do, whatever stands behind it (`EndsName`).
-/

namespace Provenance.Lexis

open Text

/-! ## Characters of names -/

theorem isUpper_iff {c : Char} : c.isUpper = true ↔ 65 ≤ c.toNat ∧ c.toNat ≤ 90 :=
  decide_eq_true_iff

theorem isLower_iff {c : Char} : c.isLower = true ↔ 97 ≤ c.toNat ∧ c.toNat ≤ 122 :=
  (Bool.and_eq_true_iff (x := decide _)).trans (and_congr decide_eq_true_iff decide_eq_true_iff)

theorem isDigit_iff {c : Char} : c.isDigit = true ↔ 48 ≤ c.toNat ∧ c.toNat ≤ 57 :=
  (Bool.and_eq_true_iff (x := decide _)).trans (and_congr decide_eq_true_iff decide_eq_true_iff)

theorem isNameStart_iff {c : Char} : isNameStart c = true ↔
    65 ≤ c.toNat ∧ c.toNat ≤ 90 ∨ c.toNat = 95 ∨ 97 ≤ c.toNat ∧ c.toNat ≤ 122 := by
  have hline : c = '_' ↔ c.toNat = 95 := Char.toNat_inj.symm
  show (c.isUpper || c.isLower || c == '_') = true ↔ _
  rw [Bool.or_eq_true, Bool.or_eq_true, beq_iff_eq, isUpper_iff, isLower_iff, hline]
  omega

theorem isNameChar_iff {c : Char} : isNameChar c = true ↔
    isNameStart c = true ∨ 48 ≤ c.toNat ∧ c.toNat ≤ 57 := by
  rw [← isDigit_iff, isNameChar, isNameStart, Char.isAlphanum]
  cases c.isAlpha <;> cases c.isDigit <;> simp

theorem isNameChar_of_isNameStart {c : Char} (h : isNameStart c = true) : isNameChar c = true :=
  isNameChar_iff.2 (.inl h)

theorem toNat_lt_of_isNameChar {c : Char} (h : isNameChar c = true) : c.toNat < 128 := by
  rw [isNameChar_iff, isNameStart_iff] at h
  omega

theorem isWord_of_isNameChar {c : Char} (h : isNameChar c = true) : isWord c = true := by
  rw [isWord_ascii (toNat_lt_of_isNameChar h)]
  exact h

theorem isQuote_iff {c : Char} :
    isQuote c = true ↔ c.toNat = 34 ∨ c.toNat = 39 ∨ c.toNat = 96 := by
  have hdouble : c = '"' ↔ c.toNat = 34 := Char.toNat_inj.symm
  have hsingle : c = '\'' ↔ c.toNat = 39 := Char.toNat_inj.symm
  have hback : c = '\x60' ↔ c.toNat = 96 := Char.toNat_inj.symm
  rw [isQuote, Bool.or_eq_true, Bool.or_eq_true, beq_iff_eq, beq_iff_eq, beq_iff_eq, hdouble,
    hsingle, hback, or_assoc]

/-- No character of a name opens a literal. -/
theorem isQuote_of_isNameChar {c : Char} (h : isNameChar c = true) : isQuote c = false := by
  rw [isNameChar_iff, isNameStart_iff] at h
  rw [Bool.eq_false_iff, Ne, isQuote_iff]
  omega

theorem isBlank_eq_false {c : Char} (h : 33 ≤ c.toNat ∧ c.toNat ≤ 126) : isBlank c = false := by
  simp only [isBlank, Bool.or_eq_false_iff, Bool.and_eq_false_iff, decide_eq_false_iff_not,
    beq_eq_false_iff_ne]
  omega

theorem isBlank_of_isQuote {c : Char} (h : isQuote c = true) : isBlank c = false := by
  rw [isQuote_iff] at h
  exact isBlank_eq_false (by omega)

theorem isBlank_of_isNameChar {c : Char} (h : isNameChar c = true) : isBlank c = false := by
  rw [isNameChar_iff, isNameStart_iff] at h
  exact isBlank_eq_false (by omega)

/-- A name does not begin with a digit. -/
theorem isDigit_of_isNameStart {c : Char} (h : isNameStart c = true) : isDigit c = false := by
  rw [isDigit_ascii (toNat_lt_of_isNameChar (isNameChar_of_isNameStart h)), Bool.eq_false_iff, Ne,
    isDigit_iff]
  rw [isNameStart_iff] at h
  omega

theorem isDecimal_of_isNameStart {c : Char} (h : isNameStart c = true) : isDecimal c = false :=
  (Bool.or_eq_false_iff.1 (isDigit_of_isNameStart h)).1

/-- A class of characters without those that begin names. -/
theorem isNameStart_eq_false {p : Char → Bool} (hp : ∀ d, isNameStart d = true → p d = false)
    {c : Char} (h : p c = true) : isNameStart c = false := by
  rw [Bool.eq_false_iff]
  intro hstart
  rw [hp c hstart] at h
  cases h

theorem isNameStart_of_isDecimal {c : Char} (h : isDecimal c = true) : isNameStart c = false :=
  isNameStart_eq_false (fun _ => isDecimal_of_isNameStart) h

theorem isNameStart_of_isQuote {c : Char} (h : isQuote c = true) : isNameStart c = false :=
  isNameStart_eq_false (fun _ hd => isQuote_of_isNameChar (isNameChar_of_isNameStart hd)) h

theorem isNameStart_of_isBlank {c : Char} (h : isBlank c = true) : isNameStart c = false :=
  isNameStart_eq_false (fun _ hd => isBlank_of_isNameChar (isNameChar_of_isNameStart hd)) h

/-- No operator has a name in it. -/
theorem isOperator_of_isNameStart (c : Char) {d : Char} (h : isNameStart d = true) :
    isOperator c d = false := by
  rw [Bool.eq_false_iff]
  intro hoperator
  simp only [isOperator, List.mem_cons, Prod.mk.injEq, List.not_mem_nil, or_false,
    decide_eq_true_eq] at hoperator
  rcases hoperator with ⟨_, rfl⟩ | ⟨_, rfl⟩ | ⟨_, rfl⟩ | ⟨_, rfl⟩ | ⟨_, rfl⟩ | ⟨_, rfl⟩ |
    ⟨_, rfl⟩ | ⟨_, rfl⟩ <;> exact absurd h (by decide)

/-! ## Names -/

/-- No name in front of a text goes on in it. -/
def EndsName (cs : List Char) : Prop := cs.head?.any isNameChar = false

theorem endsName_cons {c : Char} {cs : List Char} : EndsName (c :: cs) ↔ isNameChar c = false :=
  Iff.rfl

/-- A stretch of a class of characters ends where a character of another class stands. -/
theorem any_head?_dropWhile (p : Char → Bool) (cs : List Char) :
    (cs.dropWhile p).head?.any p = false := by
  have hstop := List.head?_dropWhile_not p cs
  cases hcs : (cs.dropWhile p).head? with
  | none => rfl
  | some c => simpa [hcs] using hstop

theorem endsName_dropWhile (cs : List Char) : EndsName (cs.dropWhile isNameChar) :=
  any_head?_dropWhile isNameChar cs

/-- The spelling of a name is a first character and others. -/
theorem exists_of_isNameSpelling {name : List Char} (h : isNameSpelling name = true) :
    ∃ c cs, name = c :: cs ∧ isNameStart c = true ∧ ∀ d ∈ cs, isNameChar d = true := by
  cases name with
  | nil => cases h
  | cons c cs =>
    rw [isNameSpelling, Bool.and_eq_true, List.all_eq_true] at h
    exact ⟨c, cs, rfl, h.1, h.2⟩

theorem isNameChar_of_mem {name : List Char} (h : isNameSpelling name = true) {c : Char}
    (hc : c ∈ name) : isNameChar c = true := by
  obtain ⟨d, cs, rfl, hd, hcs⟩ := exists_of_isNameSpelling h
  rcases List.mem_cons.1 hc with rfl | hc
  · exact isNameChar_of_isNameStart hd
  · exact hcs c hc

theorem isNameSpelling_takeWhile {c : Char} (h : isNameStart c = true) (cs : List Char) :
    isNameSpelling (c :: cs.takeWhile isNameChar) = true := by
  rw [isNameSpelling, Bool.and_eq_true, List.all_eq_true]
  exact ⟨h, fun _ hd => List.mem_takeWhile_imp hd⟩

theorem isQuoteless_name {name : List Char} (h : isNameSpelling name = true) : IsQuoteless name :=
  fun _ hc => isQuote_of_isNameChar (isNameChar_of_mem h hc)

/-- A stretch of a class of characters does not go on where another class begins. -/
theorem stretch_eq_nil {p : Char → Bool} {cs : List Char} (h : cs.head?.any p = false) :
    cs.takeWhile p = [] ∧ cs.dropWhile p = cs := by
  cases cs with
  | nil => exact ⟨rfl, rfl⟩
  | cons c cs =>
    have hc : ¬p c = true := by simpa using h
    exact ⟨List.takeWhile_cons_of_neg hc, List.dropWhile_cons_of_neg hc⟩

/-- A stretch of a class of characters is taken whole. -/
theorem takeWhile_stretch {p : Char → Bool} {front rest : List Char}
    (h : ∀ c ∈ front, p c = true) (hrest : rest.head?.any p = false) :
    (front ++ rest).takeWhile p = front := by
  rw [List.takeWhile_append_of_pos h, (stretch_eq_nil hrest).1, List.append_nil]

theorem dropWhile_stretch {p : Char → Bool} {front rest : List Char}
    (h : ∀ c ∈ front, p c = true) (hrest : rest.head?.any p = false) :
    (front ++ rest).dropWhile p = rest := by
  rw [List.dropWhile_append_of_pos h, (stretch_eq_nil hrest).2]

/-! ## Tokens -/

/-- A point with digits behind it is a fraction. -/
theorem fraction_point (cs : List Char) : fraction ('.' :: cs) =
    if cs.takeWhile isDecimal = [] then [] else '.' :: cs.takeWhile isDecimal := by
  rw [fraction]
  split <;> simp_all

theorem fraction_eq_nil {cs : List Char} (h : cs.head?.any (· == '.') = false) :
    fraction cs = [] := by
  cases cs with
  | nil => rfl
  | cons c cs =>
    have hc : c ≠ '.' := by simpa using h
    simp [fraction, hc]

/-- A fraction stands in front of its text, and holds no names. -/
theorem exists_fraction_append (cs : List Char) :
    ∃ rest, cs = fraction cs ++ rest ∧ ∀ c ∈ fraction cs, isNameStart c = false := by
  fun_cases fraction cs with
  | case1 cs hnone => exact ⟨_, rfl, by simp⟩
  | case2 cs hdigits =>
    refine ⟨cs.dropWhile isDecimal, by simp, ?_⟩
    intro c hc
    rcases List.mem_cons.1 hc with rfl | hc
    · decide
    · exact isNameStart_of_isDecimal (List.mem_takeWhile_imp hc)
  | case3 cs hpoint => exact ⟨cs, rfl, by simp⟩

theorem tokens_nil : tokens [] = [] := by rw [tokens.eq_def]

theorem tokens_name {name rest : List Char} (h : isNameSpelling name = true)
    (hrest : EndsName rest) : tokens (name ++ rest) = name :: tokens rest := by
  obtain ⟨c, cs, rfl, hc, hcs⟩ := exists_of_isNameSpelling h
  rw [List.cons_append, tokens.eq_def]
  dsimp only
  rw [if_pos hc, takeWhile_stretch hcs hrest, dropWhile_stretch hcs hrest]

theorem tokens_number {c : Char} (hname : isNameStart c = false) (h : isDecimal c = true)
    (cs : List Char) :
    tokens (c :: cs) =
      (c :: (cs.takeWhile isDecimal ++ fraction (cs.dropWhile isDecimal))) ::
        tokens ((cs.dropWhile isDecimal).drop (fraction (cs.dropWhile isDecimal)).length) := by
  rw [tokens.eq_def]
  dsimp only
  rw [if_neg (by simp [hname]), if_pos h]

theorem tokens_blank {c : Char} (hname : isNameStart c = false) (hnumber : isDecimal c = false)
    (h : isBlank c = true) (cs : List Char) : tokens (c :: cs) = tokens cs := by
  rw [tokens.eq_def]
  dsimp only
  rw [if_neg (by simp [hname]), if_neg (by simp [hnumber]), if_pos h]

theorem tokens_operator {c d : Char} (hname : isNameStart c = false) (hnumber : isDecimal c = false)
    (hblank : isBlank c = false) (h : isOperator c d = true) (cs : List Char) :
    tokens (c :: d :: cs) = [c, d] :: tokens cs := by
  rw [tokens.eq_def]
  dsimp only
  rw [if_neg (by simp [hname]), if_neg (by simp [hnumber]), if_neg (by simp [hblank]),
    if_pos h]

/-- Any other character is a token. -/
theorem tokens_mark {c : Char} (hname : isNameStart c = false) (hnumber : isDecimal c = false)
    (hblank : isBlank c = false) {cs : List Char} (h : cs.head?.any (isOperator c) = false) :
    tokens (c :: cs) = [c] :: tokens cs := by
  rw [tokens.eq_def]
  dsimp only
  rw [if_neg (by simp [hname]), if_neg (by simp [hnumber]), if_neg (by simp [hblank])]
  cases cs with
  | nil => rw [tokens_nil]
  | cons d cs => exact if_neg (by simpa using h)

/-! ## Symbols -/

/-- A name that is no keyword is a name in the shape of its line. -/
theorem ofToken_name {name : List Char} (h : isNameSpelling name = true)
    (hkeyword : isKeyword name = false) : Symbol.ofToken name = .name := by
  obtain ⟨c, cs, rfl, hc, _⟩ := exists_of_isNameSpelling h
  have hmark : c :: cs ≠ [literalMark] := by
    intro heq
    obtain ⟨rfl, _⟩ := List.cons.inj heq
    exact absurd hc (by decide)
  have hletter : (isLetter c || c == '_') = true := by
    rw [isLetter, if_pos (toNat_lt_of_isNameChar (isNameChar_of_isNameStart hc))]
    exact hc
  simp only [Symbol.ofToken]
  rw [if_neg hmark, if_neg (by simp [isDigit_of_isNameStart hc]), if_pos hletter, hkeyword]
  rfl

end Provenance.Lexis

import Mathlib
import Provenance.Proofs.Lexis.Shape

/-!
# Proofs — Lexis — Word

The words of a name. A part of a name is cut into stretches of one class of characters, one equation
for each class that a stretch begins with (`wordsOfPart_small`, `wordsOfPart_capital`,
`wordsOfPart_capitals`). The cuts are seamless, so that the words of any text are, one behind the
other, all its letters and digits in lower case (`flatten_wordsOfName`).
-/

namespace Provenance.Lexis

open Text

/-! ## Stretches -/

theorem isLower_of_isUpper {c : Char} (h : c.isUpper = true) : c.isLower = false := by
  rw [isUpper_iff] at h
  rw [Bool.eq_false_iff, Ne, isLower_iff]
  omega

theorem isUpper_of_isLower {c : Char} (h : c.isLower = true) : c.isUpper = false := by
  rw [isLower_iff] at h
  rw [Bool.eq_false_iff, Ne, isUpper_iff]
  omega

theorem wordsOfPart_nil : wordsOfPart [] = [] := by rw [wordsOfPart.eq_def]

/-- Small letters are a word as long as there are such letters. -/
theorem wordsOfPart_small {small rest : List Char} (hne : small ≠ [])
    (hsmall : ∀ c ∈ small, c.isLower = true) (hrest : rest.head?.any Char.isLower = false) :
    wordsOfPart (small ++ rest) = small :: wordsOfPart rest := by
  obtain ⟨c, small, rfl⟩ := List.exists_cons_of_ne_nil hne
  obtain ⟨hc, hsmall⟩ := List.forall_mem_cons.1 hsmall
  rw [List.cons_append, wordsOfPart.eq_def]
  dsimp only
  rw [if_neg (by simp [isUpper_of_isLower hc]), if_pos hc, takeWhile_stretch hsmall hrest,
    dropWhile_stretch hsmall hrest]

/-- A capital belongs to the small letters behind it. -/
theorem wordsOfPart_capital {c : Char} (hc : c.isUpper = true) {small rest : List Char}
    (hne : small ≠ []) (hsmall : ∀ c ∈ small, c.isLower = true)
    (hrest : rest.head?.any Char.isLower = false) :
    wordsOfPart (c :: (small ++ rest)) = (c :: small) :: wordsOfPart rest := by
  have hnone : (small ++ rest).head?.any Char.isUpper = false := by
    obtain ⟨d, small, rfl⟩ := List.exists_cons_of_ne_nil hne
    exact isUpper_of_isLower (hsmall d List.mem_cons_self)
  obtain ⟨htake, hdrop⟩ := stretch_eq_nil hnone
  rw [wordsOfPart.eq_def]
  dsimp only
  rw [if_pos hc, htake, hdrop, takeWhile_stretch hsmall hrest, dropWhile_stretch hsmall hrest,
    if_neg hne, List.getLast?_nil]

/-- Capitals with no letter behind them are a word. -/
theorem wordsOfPart_capitals {capitals rest : List Char} (hne : capitals ≠ [])
    (hcapitals : ∀ c ∈ capitals, c.isUpper = true) (hupper : rest.head?.any Char.isUpper = false)
    (hlower : rest.head?.any Char.isLower = false) :
    wordsOfPart (capitals ++ rest) = capitals :: wordsOfPart rest := by
  obtain ⟨c, capitals, rfl⟩ := List.exists_cons_of_ne_nil hne
  obtain ⟨hc, hcapitals⟩ := List.forall_mem_cons.1 hcapitals
  rw [List.cons_append, wordsOfPart.eq_def]
  dsimp only
  rw [if_pos hc, takeWhile_stretch hcapitals hupper, dropWhile_stretch hcapitals hupper,
    if_pos (stretch_eq_nil hlower).1]

/-! ## Nothing is lost -/

/-- Whether a character can stand in a word: a letter of ASCII or a digit. -/
def isLetterOrDigit (c : Char) : Bool := c.isUpper || c.isLower || isDecimal c

theorem isLetterOrDigit_iff {c : Char} :
    isLetterOrDigit c = true ↔ (c.isUpper = true ∨ c.isLower = true) ∨ isDecimal c = true := by
  rw [isLetterOrDigit, Bool.or_eq_true, Bool.or_eq_true]

/-- A stretch of one class is kept whole. -/
theorem filter_stretch {p : Char → Bool} (hp : ∀ c, p c = true → isLetterOrDigit c = true)
    (cs : List Char) : cs.filter isLetterOrDigit =
      cs.takeWhile p ++ (cs.dropWhile p).filter isLetterOrDigit := by
  conv_lhs => rw [← List.takeWhile_append_dropWhile (p := p) (l := cs)]
  rw [List.filter_append, List.filter_eq_self.2 fun c hc => hp c (List.mem_takeWhile_imp hc)]

theorem flatten_wordsOfPart (cs : List Char) :
    (wordsOfPart cs).flatten = cs.filter isLetterOrDigit := by
  have hupper : ∀ c : Char, c.isUpper = true → isLetterOrDigit c = true :=
    fun _ h => isLetterOrDigit_iff.2 (.inl (.inl h))
  have hlower : ∀ c : Char, c.isLower = true → isLetterOrDigit c = true :=
    fun _ h => isLetterOrDigit_iff.2 (.inl (.inr h))
  have hdigit : ∀ c : Char, isDecimal c = true → isLetterOrDigit c = true :=
    fun _ h => isLetterOrDigit_iff.2 (.inr h)
  fun_induction wordsOfPart cs with
  | case1 => rfl
  | case2 c cs hc capitals rest small _ _ hnone ih =>
    rw [List.flatten_cons, ih, List.filter_cons_of_pos (hupper c hc), filter_stretch hupper cs]
    rfl
  | case3 c cs hc capitals rest small _ _ hsmall hlast ih =>
    have hnil : cs.takeWhile Char.isUpper = [] := List.getLast?_eq_none_iff.1 hlast
    rw [List.flatten_cons, ih, List.filter_cons_of_pos (hupper c hc), filter_stretch hupper cs,
      filter_stretch hlower (cs.dropWhile Char.isUpper), hnil]
    rfl
  | case4 c cs hc capitals rest small _ _ hsmall last hlast ih =>
    -- the last capital goes with the small letters
    have hcapitals : cs.takeWhile Char.isUpper = capitals.dropLast ++ [last] :=
      (List.dropLast_append_getLast? last hlast).symm
    rw [List.flatten_cons, List.flatten_cons, ih, List.filter_cons_of_pos (hupper c hc),
      filter_stretch hupper cs, filter_stretch hlower (cs.dropWhile Char.isUpper), hcapitals]
    simp only [List.cons_append, List.append_assoc, List.nil_append]
    rfl
  | case5 c cs hup hc _ ih =>
    rw [List.flatten_cons, ih, List.filter_cons_of_pos (hlower c hc), filter_stretch hlower cs]
    rfl
  | case6 c cs hup hlow hc _ ih =>
    rw [List.flatten_cons, ih, List.filter_cons_of_pos (hdigit c hc), filter_stretch hdigit cs]
    rfl
  | case7 c cs hup hlow hdig ih =>
    rw [ih, List.filter_cons_of_neg]
    rw [isLetterOrDigit_iff]
    rintro ((h | h) | h)
    · exact hup h
    · exact hlow h
    · exact hdig h

/-! ## Classes of words -/

theorem isAlpha_iff {c : Char} : c.isAlpha = true ↔ c.isUpper = true ∨ c.isLower = true :=
  Bool.or_eq_true_iff

/-- A word of letters or of digits. -/
def IsUniform (word : List Char) : Prop :=
  word ≠ [] ∧ ((∀ c ∈ word, c.isAlpha = true) ∨ ∀ c ∈ word, isDecimal c = true)

theorem isUniform_letters {c : Char} {cs : List Char} (hc : c.isAlpha = true)
    (hcs : ∀ d ∈ cs, d.isUpper = true ∨ d.isLower = true) : IsUniform (c :: cs) :=
  ⟨List.cons_ne_nil c cs,
    .inl (List.forall_mem_cons.2 ⟨hc, fun d hd => isAlpha_iff.2 (hcs d hd)⟩)⟩

theorem isUniform_of_mem_wordsOfPart {cs word : List Char} (h : word ∈ wordsOfPart cs) :
    IsUniform word := by
  have hupper {cs : List Char} (d : Char) (hd : d ∈ cs.takeWhile Char.isUpper) :
      d.isUpper = true ∨ d.isLower = true := .inl (List.mem_takeWhile_imp hd)
  have hlower {cs : List Char} (d : Char) (hd : d ∈ cs.takeWhile Char.isLower) :
      d.isUpper = true ∨ d.isLower = true := .inr (List.mem_takeWhile_imp hd)
  fun_induction wordsOfPart cs with
  | case1 => cases h
  | case2 c cs hc capitals rest small _ _ _ ih =>
    rcases List.mem_cons.1 h with rfl | h
    · exact isUniform_letters (isAlpha_iff.2 (.inl hc)) hupper
    · exact ih h
  | case3 c cs hc capitals rest small _ _ _ _ ih =>
    rcases List.mem_cons.1 h with rfl | h
    · exact isUniform_letters (isAlpha_iff.2 (.inl hc)) hlower
    · exact ih h
  | case4 c cs hc capitals rest small _ _ _ last hlast ih =>
    rcases List.mem_cons.1 h with rfl | h
    · exact isUniform_letters (isAlpha_iff.2 (.inl hc))
        fun d hd => hupper d (List.mem_of_mem_dropLast hd)
    · rcases List.mem_cons.1 h with rfl | h
      · exact isUniform_letters (isAlpha_iff.2 (hupper last (List.mem_of_getLast? hlast))) hlower
      · exact ih h
  | case5 c cs _ hc _ ih =>
    rcases List.mem_cons.1 h with rfl | h
    · exact isUniform_letters (isAlpha_iff.2 (.inr hc)) hlower
    · exact ih h
  | case6 c cs _ _ hc _ ih =>
    rcases List.mem_cons.1 h with rfl | h
    · exact ⟨List.cons_ne_nil _ _,
        .inr (List.forall_mem_cons.2 ⟨hc, fun _ hd => List.mem_takeWhile_imp hd⟩)⟩
    · exact ih h
  | case7 c cs _ _ _ ih => exact ih h

/-! ## Words of a name -/

/-- Cutting at a character leaves all others. -/
theorem flatten_splitOn (c : Char) (cs : List Char) :
    (cs.splitOn c).flatten = cs.filter (· != c) := by
  induction cs with
  | nil => rfl
  | cons d cs ih =>
    rw [List.splitOn_cons_eq_if_modifyHead]
    by_cases hd : d = c
    · rw [if_pos (by simpa using hd), List.filter_cons_of_neg (by simpa using hd), ← ih]
      rfl
    · rw [if_neg (by simpa using hd), List.filter_cons_of_pos (by simpa using hd), ← ih]
      obtain ⟨part, parts, hparts⟩ := List.exists_cons_of_ne_nil (List.splitOn_ne_nil c cs)
      rw [hparts]
      rfl

/-- Letter case does not change what is a letter or a digit. -/
theorem isLetterOrDigit_toLower (c : Char) : isLetterOrDigit c.toLower = isLetterOrDigit c := by
  by_cases hupper : c.isUpper = true
  · have halpha : c.isAlpha = true := isAlpha_iff.2 (.inl hupper)
    rw [isLetterOrDigit_iff.2 (.inl (.inl hupper)),
      isLetterOrDigit_iff.2 (.inl (.inr ((Char.isLower_toLower_eq_isAlpha c).trans halpha)))]
  · rw [Char.toLower_eq_of_not_isUpper hupper]

/-- **The words of a name are its letters and digits**, in lower case. -/
theorem flatten_wordsOfName (name : List Char) :
    (wordsOfName name).flatten = (name.map Char.toLower).filter isLetterOrDigit := by
  have hparts : ((name.splitOn '_').flatMap wordsOfPart).flatten =
      ((name.splitOn '_').flatten).filter isLetterOrDigit := by
    rw [List.filter_flatten, List.flatMap_def, List.flatten_flatten, List.map_map]
    congr 2
    funext part
    exact flatten_wordsOfPart part
  have hline : ∀ c ∈ name, (isLetterOrDigit c && c != '_') = isLetterOrDigit c := by
    intro c _
    by_cases hc : c = '_'
    · subst hc
      rfl
    · rw [bne_iff_ne.2 hc, Bool.and_true]
  have hcase : isLetterOrDigit ∘ Char.toLower = isLetterOrDigit := funext isLetterOrDigit_toLower
  rw [wordsOfName, ← List.map_flatten, hparts, flatten_splitOn, List.filter_filter,
    List.filter_congr hline, List.filter_map, hcase]

/-- The words of a name are uniform and in lower case. -/
theorem of_mem_wordsOfName {name word : List Char} (h : word ∈ wordsOfName name) :
    word ≠ [] ∧ ((∀ c ∈ word, c.isLower = true) ∨ ∀ c ∈ word, isDecimal c = true) := by
  obtain ⟨part, hpart, rfl⟩ := List.mem_map.1 h
  obtain ⟨cs, _, hcs⟩ := List.mem_flatMap.1 hpart
  obtain ⟨hne, hletters | hdigits⟩ := isUniform_of_mem_wordsOfPart hcs
  · refine ⟨by simpa using hne, .inl ?_⟩
    intro c hc
    obtain ⟨d, hd, rfl⟩ := List.mem_map.1 hc
    rw [Char.isLower_toLower_eq_isAlpha, hletters d hd]
  · refine ⟨by simpa using hne, .inr ?_⟩
    intro c hc
    obtain ⟨d, hd, rfl⟩ := List.mem_map.1 hc
    have hupper : ¬ d.isUpper = true := by
      intro hupper
      have hstart : isNameStart d = true := isNameStart_iff.2 (.inl (isUpper_iff.1 hupper))
      rw [isNameStart_of_isDecimal (hdigits d hd)] at hstart
      cases hstart
    rw [Char.toLower_eq_of_not_isUpper hupper, hdigits d hd]

/-! ## Names of ASCII -/

theorem isDecimal_of_isNameChar {c : Char} (h : isNameChar c = true) : isDecimal c = c.isDigit :=
  if_pos (toNat_lt_of_isNameChar h)

/-- The low line is the only character of names that is neither letter nor digit. -/
theorem isLetterOrDigit_of_isNameChar {c : Char} (h : isNameChar c = true) :
    isLetterOrDigit c = (c != '_') := by
  have hline : c = '_' ↔ c.toNat = 95 := Char.toNat_inj.symm
  rw [Bool.eq_iff_iff, bne_iff_ne, isLetterOrDigit_iff, isDecimal_of_isNameChar h, isUpper_iff,
    isLower_iff, isDigit_iff, Ne, hline]
  rw [isNameChar_iff, isNameStart_iff] at h
  omega

theorem isNameChar_toLower {c : Char} (h : isNameChar c = true) : isNameChar c.toLower = true := by
  by_cases hupper : c.isUpper = true
  · have hlower : c.toLower.isLower = true :=
      (Char.isLower_toLower_eq_isAlpha c).trans (isAlpha_iff.2 (.inl hupper))
    exact isNameChar_iff.2 (.inl (isNameStart_iff.2 (.inr (.inr (isLower_iff.1 hlower)))))
  · rwa [Char.toLower_eq_of_not_isUpper hupper]

/-- **Cutting a name into words loses nothing and adds nothing.** The words of a text of ASCII
letters, digits and low lines are, one behind the other, the text in lower case without its low
lines, and each of them is made up of letters only or of digits only. -/
theorem words_of_name_seamless {name : List Char} (h : ∀ c ∈ name, isNameChar c = true) :
    (wordsOfName name).flatten = (lower name).filter (· != '_') ∧
      ∀ word ∈ wordsOfName name, word ≠ [] ∧
        ((∀ c ∈ word, c.isLower = true) ∨ ∀ c ∈ word, c.isDigit = true) := by
  have hlower : ∀ c ∈ name.map Char.toLower, isNameChar c = true := by
    intro c hc
    obtain ⟨d, hd, rfl⟩ := List.mem_map.1 hc
    exact isNameChar_toLower (h d hd)
  have hflatten := flatten_wordsOfName name
  rw [List.filter_congr fun c hc => isLetterOrDigit_of_isNameChar (hlower c hc)] at hflatten
  refine ⟨?_, ?_⟩
  · rw [hflatten, lower_ascii fun c hc => toNat_lt_of_isNameChar (h c hc)]
  · intro word hword
    obtain ⟨hne, hletters | hdigits⟩ := of_mem_wordsOfName hword
    · exact ⟨hne, .inl hletters⟩
    · refine ⟨hne, .inr fun c hc => ?_⟩
      have hmem : c ∈ (wordsOfName name).flatten := List.mem_flatten.2 ⟨word, hword, hc⟩
      rw [hflatten] at hmem
      rw [← isDecimal_of_isNameChar (hlower c (List.mem_of_mem_filter hmem)), hdigits c hc]

/-- A name with capitals, digits and low lines of every kind. -/
theorem words_of_name_seamless_in_mixed :
    (∀ c ∈ "_HTTPServer2go__X1".toList, isNameChar c = true) ∧
      (wordsOfName "_HTTPServer2go__X1".toList).flatten = "httpserver2gox1".toList ∧
      ∀ word ∈ wordsOfName "_HTTPServer2go__X1".toList, word ≠ [] ∧
        ((∀ c ∈ word, c.isLower = true) ∨ ∀ c ∈ word, c.isDigit = true) := by
  have hname : ∀ c ∈ "_HTTPServer2go__X1".toList, isNameChar c = true := List.all_eq_true.1 rfl
  obtain ⟨hflatten, hwords⟩ := words_of_name_seamless hname
  exact ⟨hname, hflatten.trans (by decide +kernel), hwords⟩

end Provenance.Lexis

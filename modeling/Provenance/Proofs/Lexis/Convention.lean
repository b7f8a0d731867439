import Provenance.Proofs.Lexis.Word

/-!
# Proofs — Lexis — Convention

Words in lower case, spelled as one name in each of the conventions that have a rule for it
(`spellings`). Low lines part words wherever they stand (`wordsOfName_append`), so those around a
name play no part in its words (`wordsOfName_padded`), nor in its convention (`ofName_padded`).
Every spelling is read back as the words and the convention that it comes from
(`spellings_read_back`).
-/

namespace Provenance.Lexis

open Text

/-! ## Spellings -/

/-- A word with its first letter as a capital. -/
def capitalized : List Char → List Char
  | [] => []
  | c :: cs => c.toUpper :: cs

/-- A word in capitals. -/
def inCapitals (word : List Char) : List Char := word.map Char.toUpper

def snakeCase (words : List (List Char)) : List Char := ['_'].intercalate words

def upperCase (words : List (List Char)) : List Char := ['_'].intercalate (words.map inCapitals)

def pascalCase (words : List (List Char)) : List Char := (words.map capitalized).flatten

def camelCase : List (List Char) → List Char
  | [] => []
  | word :: words => word ++ pascalCase words

/-- The spellings of some words as one name, each with its convention. -/
def spellings (words : List (List Char)) : List (Convention × List Char) :=
  [(.snakeCase, snakeCase words), (.camelCase, camelCase words), (.pascalCase, pascalCase words),
    (.upperCase, upperCase words)]

/-- A word of at least two letters, all of them in lower case. -/
structure IsPlainWord (word : List Char) : Prop where
  long : 2 ≤ word.length
  lower : ∀ c ∈ word, c.isLower = true

/-! ## Letters of words -/

theorem ne_line_of_isLower {c : Char} (h : c.isLower = true) : c ≠ '_' := by
  rintro rfl
  cases h

theorem ne_line_of_isUpper {c : Char} (h : c.isUpper = true) : c ≠ '_' := by
  rintro rfl
  cases h

theorem isUpper_toUpper {c : Char} (h : c.isLower = true) : c.toUpper.isUpper = true :=
  (Char.isUpper_toUpper_eq_isAlpha c).trans (isAlpha_iff.2 (.inr h))

theorem toLower_of_isLower {c : Char} (h : c.isLower = true) : c.toLower = c :=
  Char.toLower_eq_of_not_isUpper (by simp [isUpper_of_isLower h])

theorem toLower_toUpper {c : Char} (h : c.isLower = true) : c.toUpper.toLower = c :=
  (Char.toLower_toUpper_eq_toLower c).trans (toLower_of_isLower h)

namespace IsPlainWord

variable {word : List Char} (h : IsPlainWord word)
include h

theorem ne_nil : word ≠ [] := by
  rintro rfl
  exact absurd h.long (by decide)

/-- A word begins with a letter that others follow. -/
theorem exists_cons : ∃ c small, word = c :: small ∧ c.isLower = true ∧ small ≠ [] ∧
    ∀ d ∈ small, d.isLower = true := by
  obtain ⟨c, small, rfl⟩ := List.exists_cons_of_ne_nil h.ne_nil
  obtain ⟨hc, hsmall⟩ := List.forall_mem_cons.1 h.lower
  refine ⟨c, small, rfl, hc, ?_, hsmall⟩
  rintro rfl
  exact Nat.not_succ_le_self 1 h.long

theorem map_toLower : word.map Char.toLower = word :=
  (List.map_congr_left fun _ hc => toLower_of_isLower (h.lower _ hc)).trans (List.map_id' word)

theorem map_toLower_capitalized : (capitalized word).map Char.toLower = word := by
  obtain ⟨c, small, rfl, hc, _, _⟩ := h.exists_cons
  have hmap := h.map_toLower
  rw [List.map_cons, List.cons.injEq] at hmap
  rw [capitalized, List.map_cons, toLower_toUpper hc, hmap.2]

theorem map_toLower_inCapitals : (inCapitals word).map Char.toLower = word := by
  rw [inCapitals, List.map_map]
  exact (List.map_congr_left fun _ hc => toLower_toUpper (h.lower _ hc)).trans (List.map_id' word)

theorem isUpper_of_mem_inCapitals : ∀ c ∈ inCapitals word, c.isUpper = true := by
  intro c hc
  obtain ⟨d, hd, rfl⟩ := List.mem_map.1 hc
  exact isUpper_toUpper (h.lower d hd)

theorem letter_of_mem_capitalized :
    ∀ c ∈ capitalized word, c.isUpper = true ∨ c.isLower = true := by
  obtain ⟨c, small, rfl, hc, _, hsmall⟩ := h.exists_cons
  exact List.forall_mem_cons.2 ⟨.inl (isUpper_toUpper hc), fun d hd => .inr (hsmall d hd)⟩

end IsPlainWord

/-! ## Words of spellings -/

/-- **A low line parts words.** -/
theorem wordsOfName_append (front back : List Char) :
    wordsOfName (front ++ '_' :: back) = wordsOfName front ++ wordsOfName back := by
  rw [wordsOfName, List.splitOn_append_cons_self, List.flatMap_append, List.map_append]
  rfl

theorem wordsOfName_nil : wordsOfName [] = [] := by
  rw [wordsOfName, List.splitOn_nil, List.flatMap_singleton, wordsOfPart_nil, List.map_nil]

theorem wordsOfName_lines_append (n : Nat) (name : List Char) :
    wordsOfName (List.replicate n '_' ++ name) = wordsOfName name := by
  induction n with
  | zero => rfl
  | succ n ih =>
    rw [List.replicate_succ, List.cons_append, ← List.nil_append ('_' :: _), wordsOfName_append,
      wordsOfName_nil, List.nil_append, ih]

/-- Low lines around a name leave its words as they are. -/
theorem wordsOfName_padded (front back : Nat) (name : List Char) :
    wordsOfName (List.replicate front '_' ++ name ++ List.replicate back '_') =
      wordsOfName name := by
  rw [List.append_assoc, wordsOfName_lines_append]
  cases back with
  | zero => rw [List.replicate_zero, List.append_nil]
  | succ n =>
    rw [List.replicate_succ, wordsOfName_append, ← List.append_nil (List.replicate n '_'),
      wordsOfName_lines_append, wordsOfName_nil, List.append_nil]

/-- Parts joined by low lines have each their own words. -/
theorem wordsOfName_intercalate (parts : List (List Char)) :
    wordsOfName (['_'].intercalate parts) = parts.flatMap wordsOfName := by
  induction parts with
  | nil => exact wordsOfName_nil
  | cons part parts ih =>
    cases parts with
    | nil => rw [List.intercalate_singleton, List.flatMap_singleton]
    | cons next parts =>
      rw [List.intercalate_cons_cons, List.append_assoc, List.singleton_append, wordsOfName_append,
        ih, List.flatMap_cons (x := part)]

/-- A name without low lines is one part. -/
theorem wordsOfName_part {part : List Char} (h : ∀ c ∈ part, c.isUpper = true ∨ c.isLower = true) :
    wordsOfName part = (wordsOfPart part).map fun word => word.map Char.toLower := by
  have hline : '_' ∉ part := by
    intro hmem
    rcases h '_' hmem with hc | hc <;> cases hc
  rw [wordsOfName, List.splitOn_eq_singleton hline, List.flatMap_singleton]

namespace IsPlainWord

variable {word : List Char} (h : IsPlainWord word)
include h

theorem wordsOfName_eq : wordsOfName word = [word] := by
  have hpart := @wordsOfPart_small word [] h.ne_nil h.lower rfl
  rw [List.append_nil, wordsOfPart_nil] at hpart
  rw [wordsOfName_part fun c hc => .inr (h.lower c hc), hpart, List.map_singleton, h.map_toLower]

theorem wordsOfName_inCapitals : wordsOfName (inCapitals word) = [word] := by
  have hne : inCapitals word ≠ [] := mt List.map_eq_nil_iff.1 h.ne_nil
  have hpart := @wordsOfPart_capitals _ [] hne h.isUpper_of_mem_inCapitals rfl rfl
  rw [List.append_nil, wordsOfPart_nil] at hpart
  rw [wordsOfName_part fun c hc => .inl (h.isUpper_of_mem_inCapitals c hc), hpart,
    List.map_singleton, h.map_toLower_inCapitals]

end IsPlainWord

/-- Where a word in Pascal case begins, small letters end. -/
theorem any_head?_pascalCase {words : List (List Char)} (h : ∀ word ∈ words, IsPlainWord word) :
    (pascalCase words).head?.any Char.isLower = false := by
  cases words with
  | nil => rfl
  | cons word words =>
    obtain ⟨c, small, rfl, hc, _, _⟩ := (h word List.mem_cons_self).exists_cons
    exact isLower_of_isUpper (isUpper_toUpper hc)

theorem wordsOfPart_pascalCase {words : List (List Char)} (h : ∀ word ∈ words, IsPlainWord word) :
    wordsOfPart (pascalCase words) = words.map capitalized := by
  induction words with
  | nil => exact wordsOfPart_nil
  | cons word words ih =>
    obtain ⟨hword, hwords⟩ := List.forall_mem_cons.1 h
    obtain ⟨c, small, rfl, hc, hne, hsmall⟩ := hword.exists_cons
    show wordsOfPart (c.toUpper :: (small ++ pascalCase words)) = _
    rw [wordsOfPart_capital (isUpper_toUpper hc) hne hsmall (any_head?_pascalCase hwords),
      ih hwords, List.map_cons, capitalized]

theorem letter_of_mem_pascalCase {words : List (List Char)} (h : ∀ word ∈ words, IsPlainWord word) :
    ∀ c ∈ pascalCase words, c.isUpper = true ∨ c.isLower = true := by
  intro c hc
  obtain ⟨part, hpart, hc⟩ := List.mem_flatten.1 hc
  obtain ⟨word, hword, rfl⟩ := List.mem_map.1 hpart
  exact (h word hword).letter_of_mem_capitalized c hc

theorem letter_of_mem_camelCase {words : List (List Char)} (h : ∀ word ∈ words, IsPlainWord word) :
    ∀ c ∈ camelCase words, c.isUpper = true ∨ c.isLower = true := by
  cases words with
  | nil => exact fun _ hc => absurd hc List.not_mem_nil
  | cons word words =>
    obtain ⟨hword, hwords⟩ := List.forall_mem_cons.1 h
    intro c hc
    rcases List.mem_append.1 hc with hc | hc
    · exact .inr (hword.lower c hc)
    · exact letter_of_mem_pascalCase hwords c hc

theorem map_lower_capitalized {words : List (List Char)} (h : ∀ word ∈ words, IsPlainWord word) :
    (words.map capitalized).map (fun word => word.map Char.toLower) = words := by
  rw [List.map_map]
  exact (List.map_congr_left fun word hword => (h word hword).map_toLower_capitalized).trans
    (List.map_id' words)

section Spelled

variable {words : List (List Char)} (h : ∀ word ∈ words, IsPlainWord word)
include h

theorem wordsOfName_snakeCase : wordsOfName (snakeCase words) = words := by
  rw [snakeCase, wordsOfName_intercalate, List.flatMap_congr fun word hword =>
    (h word hword).wordsOfName_eq]
  exact List.flatMap_singleton' words

theorem wordsOfName_upperCase : wordsOfName (upperCase words) = words := by
  rw [upperCase, wordsOfName_intercalate, List.flatMap_map, List.flatMap_congr fun word hword =>
    (h word hword).wordsOfName_inCapitals]
  exact List.flatMap_singleton' words

theorem wordsOfName_pascalCase : wordsOfName (pascalCase words) = words := by
  rw [wordsOfName_part (letter_of_mem_pascalCase h), wordsOfPart_pascalCase h,
    map_lower_capitalized h]

theorem wordsOfName_camelCase : wordsOfName (camelCase words) = words := by
  have hletters := letter_of_mem_camelCase h
  cases words with
  | nil => exact wordsOfName_nil
  | cons word words =>
    obtain ⟨hword, hwords⟩ := List.forall_mem_cons.1 h
    rw [wordsOfName_part hletters, camelCase,
      wordsOfPart_small hword.ne_nil hword.lower (any_head?_pascalCase hwords),
      wordsOfPart_pascalCase hwords, List.map_cons, hword.map_toLower, map_lower_capitalized hwords]

end Spelled

/-! ## Conventions of spellings -/

/-- A name with no low line at its ends. -/
structure IsBare (core : List Char) : Prop where
  ne_nil : core ≠ []
  first : core.head?.any (· == '_') = false
  last : core.getLast?.any (· == '_') = false

theorem isBare_of_letters {core : List Char} (hne : core ≠ [])
    (h : ∀ c ∈ core, c.isUpper = true ∨ c.isLower = true) : IsBare core := by
  have hline : ∀ c ∈ core, (c == '_') = false := fun c hc =>
    beq_eq_false_iff_ne.2 ((h c hc).elim ne_line_of_isUpper ne_line_of_isLower)
  refine ⟨hne, ?_, ?_⟩
  · rw [List.head?_eq_some_head hne]
    exact hline _ (List.head_mem hne)
  · rw [List.getLast?_eq_some_getLast hne]
    exact hline _ (List.getLast_mem hne)

theorem IsBare.append {front back : List Char} (hfront : IsBare front) (hback : IsBare back)
    (mid : List Char) : IsBare (front ++ mid ++ back) := by
  refine ⟨fun hnil => hback.ne_nil (List.append_eq_nil_iff.1 hnil).2, ?_, ?_⟩
  · rw [List.append_assoc, List.head?_append_of_ne_nil _ hfront.ne_nil]
    exact hfront.first
  · rw [List.getLast?_append_of_ne_nil _ hback.ne_nil]
    exact hback.last

theorem isBare_intercalate {parts : List (List Char)} (hne : parts ≠ [])
    (h : ∀ part ∈ parts, IsBare part) : IsBare (['_'].intercalate parts) := by
  induction parts with
  | nil => exact absurd rfl hne
  | cons part parts ih =>
    obtain ⟨hpart, hparts⟩ := List.forall_mem_cons.1 h
    cases parts with
    | nil => rwa [List.intercalate_singleton]
    | cons next parts =>
      rw [List.intercalate_cons_cons]
      exact hpart.append (ih (List.cons_ne_nil _ _) hparts) ['_']

/-- Trimming takes the low lines around a name, and none of its own. -/
theorem IsBare.trim_padded {core : List Char} (h : IsBare core) (front back : Nat) :
    trim (· == '_') (List.replicate front '_' ++ core ++ List.replicate back '_') = core := by
  have hlines : ∀ n, ∀ c ∈ List.replicate n '_', (c == '_') = true := fun n c hc =>
    beq_iff_eq.2 (List.eq_of_mem_replicate hc)
  have hfirst : (core ++ List.replicate back '_').head?.any (· == '_') = false := by
    rw [List.head?_append_of_ne_nil _ h.ne_nil]
    exact h.first
  have hlast : core.reverse.head?.any (· == '_') = false := by
    rw [List.head?_reverse]
    exact h.last
  rw [trim, trimLeft, trimRight, List.append_assoc, dropWhile_stretch (hlines front) hfirst,
    List.reverse_append, List.reverse_replicate, dropWhile_stretch (hlines back) hlast,
    List.reverse_reverse]

/-- The convention of a name with no low lines around it. -/
theorem IsBare.ofName_padded {c : Char} {cs : List Char} (h : IsBare (c :: cs)) (front back : Nat) :
    Convention.ofName (List.replicate front '_' ++ (c :: cs) ++ List.replicate back '_') =
      if (wordsOfName (c :: cs)).length < 2 then .simple
      else if isUpperText (c :: cs) then .upperCase
      else if (c :: cs).contains '_' && isLowerText (c :: cs) then .snakeCase
      else if !(c :: cs).contains '_' && isLower c then .camelCase
      else if !(c :: cs).contains '_' && isUpper c then .pascalCase
      else .mixed := by
  rw [Convention.ofName, h.trim_padded]

/-- A joined name is made up of its parts and of low lines. -/
theorem mem_intercalate {c : Char} {parts : List (List Char)} (h : c ∈ ['_'].intercalate parts) :
    c = '_' ∨ ∃ part ∈ parts, c ∈ part := by
  induction parts with
  | nil => cases h
  | cons part parts ih =>
    cases parts with
    | nil => exact .inr ⟨part, List.mem_cons_self, by rwa [List.intercalate_singleton] at h⟩
    | cons next parts =>
      rw [List.intercalate_cons_cons, List.append_assoc] at h
      rcases List.mem_append.1 h with hc | hc
      · exact .inr ⟨part, List.mem_cons_self, hc⟩
      · rcases List.mem_cons.1 hc with hc | hc
        · exact .inl hc
        · rcases ih hc with hc | ⟨other, hother, hc⟩
          · exact .inl hc
          · exact .inr ⟨other, List.mem_cons_of_mem _ hother, hc⟩

theorem line_mem_intercalate {parts : List (List Char)} (h : 2 ≤ parts.length) :
    '_' ∈ ['_'].intercalate parts := by
  obtain ⟨part, parts, rfl⟩ := List.exists_cons_of_length_pos (Nat.zero_lt_of_lt h)
  obtain ⟨next, parts, rfl⟩ := List.exists_cons_of_length_pos (Nat.lt_of_succ_lt_succ h)
  rw [List.intercalate_cons_cons]
  simp

/-! ### Letter case -/

theorem text_isLower {c : Char} (h : c.isLower = true) : isLower c = true := by
  have hc := isLower_iff.1 h
  rw [isLower_ascii (by omega), h]

theorem text_isUpper {c : Char} (h : c.isUpper = true) : isUpper c = true := by
  have hc := isUpper_iff.1 h
  rw [isUpper_ascii (by omega), h]

theorem text_not_upper {c : Char} (h : c.isLower = true ∨ c = '_') :
    isUpper c = false ∧ isTitle c = false := by
  rcases h with h | rfl
  · have hc := isLower_iff.1 h
    exact ⟨(isUpper_ascii (by omega)).trans (isUpper_of_isLower h), isTitle_ascii (by omega)⟩
  · exact ⟨rfl, by decide⟩

theorem text_not_lower {c : Char} (h : c.isUpper = true ∨ c = '_') :
    isLower c = false ∧ isTitle c = false := by
  rcases h with h | rfl
  · have hc := isUpper_iff.1 h
    exact ⟨(isLower_ascii (by omega)).trans (isLower_of_isUpper h), isTitle_ascii (by omega)⟩
  · exact ⟨rfl, by decide⟩

theorem isUpperText_eq_false {cs : List Char} {c : Char} (hc : c ∈ cs) (h : c.isLower = true) :
    isUpperText cs = false := by
  have hany : cs.any (fun c => isLower c || isTitle c) = true :=
    List.any_eq_true.2 ⟨c, hc, by rw [text_isLower h, Bool.true_or]⟩
  rw [isUpperText, hany, Bool.not_true, Bool.and_false]

theorem isUpperText_eq_true {cs : List Char} (hany : ∃ c ∈ cs, c.isUpper = true)
    (h : ∀ c ∈ cs, c.isUpper = true ∨ c = '_') : isUpperText cs = true := by
  obtain ⟨c, hc, hupper⟩ := hany
  have hnone : cs.any (fun c => isLower c || isTitle c) = false := by
    rw [List.any_eq_false]
    intro d hd
    obtain ⟨hlower, htitle⟩ := text_not_lower (h d hd)
    rw [hlower, htitle]
    decide
  rw [isUpperText, hnone, List.any_eq_true.2 ⟨c, hc, text_isUpper hupper⟩]
  rfl

theorem isLowerText_eq_true {cs : List Char} (hany : ∃ c ∈ cs, c.isLower = true)
    (h : ∀ c ∈ cs, c.isLower = true ∨ c = '_') : isLowerText cs = true := by
  obtain ⟨c, hc, hlower⟩ := hany
  have hnone : cs.any (fun c => isUpper c || isTitle c) = false := by
    rw [List.any_eq_false]
    intro d hd
    obtain ⟨hupper, htitle⟩ := text_not_upper (h d hd)
    rw [hupper, htitle]
    decide
  rw [isLowerText, hnone, List.any_eq_true.2 ⟨c, hc, text_isLower hlower⟩]
  rfl

/-! ### Names by their characters -/

namespace IsBare

variable {c : Char} {cs : List Char} (h : IsBare (c :: cs))
  (hwords : 2 ≤ (wordsOfName (c :: cs)).length) (front back : Nat)
include h hwords

/-- Capitals and low lines. -/
theorem ofName_capitals (hall : ∀ d ∈ c :: cs, d.isUpper = true ∨ d = '_') :
    Convention.ofName (List.replicate front '_' ++ (c :: cs) ++ List.replicate back '_') =
      .upperCase := by
  have hc : c.isUpper = true :=
    (hall c List.mem_cons_self).resolve_right (beq_eq_false_iff_ne.1 h.first)
  rw [h.ofName_padded, if_neg (Nat.not_lt.2 hwords),
    if_pos (isUpperText_eq_true ⟨c, List.mem_cons_self, hc⟩ hall)]

/-- Small letters, and low lines among them. -/
theorem ofName_small (hall : ∀ d ∈ c :: cs, d.isLower = true ∨ d = '_') (hline : '_' ∈ c :: cs) :
    Convention.ofName (List.replicate front '_' ++ (c :: cs) ++ List.replicate back '_') =
      .snakeCase := by
  have hc : c.isLower = true :=
    (hall c List.mem_cons_self).resolve_right (beq_eq_false_iff_ne.1 h.first)
  have hjoined : ((c :: cs).contains '_' && isLowerText (c :: cs)) = true := by
    rw [isLowerText_eq_true ⟨c, List.mem_cons_self, hc⟩ hall, List.contains_iff_mem.2 hline]
    rfl
  rw [h.ofName_padded, if_neg (Nat.not_lt.2 hwords),
    if_neg (by simp [isUpperText_eq_false List.mem_cons_self hc]), if_pos hjoined]

omit h hwords in
theorem contains_eq_false (hall : ∀ d ∈ c :: cs, d.isUpper = true ∨ d.isLower = true) :
    (c :: cs).contains '_' = false := by
  rw [Bool.eq_false_iff, Ne, List.contains_iff_mem]
  intro hmem
  rcases hall '_' hmem with hc | hc <;> cases hc

/-- Letters, the first of them small. -/
theorem ofName_small_first (hall : ∀ d ∈ c :: cs, d.isUpper = true ∨ d.isLower = true)
    (hc : c.isLower = true) :
    Convention.ofName (List.replicate front '_' ++ (c :: cs) ++ List.replicate back '_') =
      .camelCase := by
  rw [h.ofName_padded, if_neg (Nat.not_lt.2 hwords),
    if_neg (by simp [isUpperText_eq_false List.mem_cons_self hc]),
    contains_eq_false hall, if_neg (by simp), if_pos (by simp [text_isLower hc])]

/-- Letters, the first of them a capital and some of them small. -/
theorem ofName_capital_first (hall : ∀ d ∈ c :: cs, d.isUpper = true ∨ d.isLower = true)
    (hc : c.isUpper = true) {d : Char} (hd : d ∈ cs) (hsmall : d.isLower = true) :
    Convention.ofName (List.replicate front '_' ++ (c :: cs) ++ List.replicate back '_') =
      .pascalCase := by
  rw [h.ofName_padded, if_neg (Nat.not_lt.2 hwords),
    if_neg (by simp [isUpperText_eq_false (List.mem_cons_of_mem c hd) hsmall]),
    contains_eq_false hall, if_neg (by simp), if_neg (by simp [(text_not_lower (.inl hc)).1]),
    if_pos (by simp [text_isUpper hc])]

end IsBare

/-! ### The four spellings -/

section Spelled

variable {words : List (List Char)} (hlength : 2 ≤ words.length)
  (h : ∀ word ∈ words, IsPlainWord word) (front back : Nat)
include hlength h

theorem ofName_snakeCase :
    Convention.ofName (List.replicate front '_' ++ snakeCase words ++ List.replicate back '_') =
      .snakeCase := by
  have hne : words ≠ [] := List.ne_nil_of_length_pos (by omega)
  have hbare : IsBare (snakeCase words) := isBare_intercalate hne fun word hword =>
    isBare_of_letters (h word hword).ne_nil fun c hc => .inr ((h word hword).lower c hc)
  have hwords := wordsOfName_snakeCase h
  have hline : '_' ∈ snakeCase words := line_mem_intercalate hlength
  have hall : ∀ c ∈ snakeCase words, c.isLower = true ∨ c = '_' := by
    intro c hc
    rcases mem_intercalate hc with hc | ⟨word, hword, hc⟩
    · exact .inr hc
    · exact .inl ((h word hword).lower c hc)
  obtain ⟨c, cs, hcore⟩ := List.exists_cons_of_ne_nil hbare.ne_nil
  rw [hcore] at hbare hwords hline hall ⊢
  exact hbare.ofName_small (by rw [hwords]; exact hlength) front back hall hline

theorem ofName_upperCase :
    Convention.ofName (List.replicate front '_' ++ upperCase words ++ List.replicate back '_') =
      .upperCase := by
  have hne : words.map inCapitals ≠ [] :=
    mt List.map_eq_nil_iff.1 (List.ne_nil_of_length_pos (by omega))
  have hpart : ∀ part ∈ words.map inCapitals, part ≠ [] ∧ ∀ c ∈ part, c.isUpper = true := by
    intro part hpart
    obtain ⟨word, hword, rfl⟩ := List.mem_map.1 hpart
    exact ⟨mt List.map_eq_nil_iff.1 (h word hword).ne_nil,
      (h word hword).isUpper_of_mem_inCapitals⟩
  have hbare : IsBare (upperCase words) := isBare_intercalate hne fun part hmem =>
    isBare_of_letters (hpart part hmem).1 fun c hc => .inl ((hpart part hmem).2 c hc)
  have hwords := wordsOfName_upperCase h
  have hall : ∀ c ∈ upperCase words, c.isUpper = true ∨ c = '_' := by
    intro c hc
    rcases mem_intercalate hc with hc | ⟨part, hmem, hc⟩
    · exact .inr hc
    · exact .inl ((hpart part hmem).2 c hc)
  obtain ⟨c, cs, hcore⟩ := List.exists_cons_of_ne_nil hbare.ne_nil
  rw [hcore] at hbare hwords hall ⊢
  exact hbare.ofName_capitals (by rw [hwords]; exact hlength) front back hall

theorem ofName_pascalCase :
    Convention.ofName (List.replicate front '_' ++ pascalCase words ++ List.replicate back '_') =
      .pascalCase := by
  have hwords := wordsOfName_pascalCase h
  have hall := letter_of_mem_pascalCase h
  cases words with
  | nil => cases hlength
  | cons word words =>
    obtain ⟨c, small, rfl, hc, hne, hsmall⟩ := (h word List.mem_cons_self).exists_cons
    have hd := List.head_mem hne
    have hcore : pascalCase ((c :: small) :: words) = c.toUpper :: (small ++ pascalCase words) :=
      rfl
    rw [hcore] at hwords hall ⊢
    exact (isBare_of_letters (List.cons_ne_nil _ _) hall).ofName_capital_first
      (by rw [hwords]; exact hlength) front back hall (isUpper_toUpper hc)
      (List.mem_append_left _ hd) (hsmall _ hd)

theorem ofName_camelCase :
    Convention.ofName (List.replicate front '_' ++ camelCase words ++ List.replicate back '_') =
      .camelCase := by
  have hwords := wordsOfName_camelCase h
  have hall := letter_of_mem_camelCase h
  cases words with
  | nil => cases hlength
  | cons word words =>
    obtain ⟨c, small, rfl, hc, _, _⟩ := (h word List.mem_cons_self).exists_cons
    have hcore : camelCase ((c :: small) :: words) = c :: (small ++ pascalCase words) := rfl
    rw [hcore] at hwords hall ⊢
    exact (isBare_of_letters (List.cons_ne_nil _ _) hall).ofName_small_first
      (by rw [hwords]; exact hlength) front back hall hc

end Spelled

/-- **Conventions are read back.** Two words or more, of two letters or more each, are the words of
each of their spellings, whatever low lines stand around it, and each spelling follows the
convention that it is made by. -/
theorem spellings_read_back {words : List (List Char)} (hlength : 2 ≤ words.length)
    (h : ∀ word ∈ words, 2 ≤ word.length ∧ ∀ c ∈ word, c.isLower = true)
    (front back : Nat) :
    ∀ entry ∈ spellings words,
      wordsOfName (List.replicate front '_' ++ entry.2 ++ List.replicate back '_') = words ∧
        Convention.ofName (List.replicate front '_' ++ entry.2 ++ List.replicate back '_') =
          entry.1 := by
  have hplain : ∀ word ∈ words, IsPlainWord word := fun word hword =>
    ⟨(h word hword).1, (h word hword).2⟩
  intro entry hentry
  rw [wordsOfName_padded]
  simp only [spellings, List.mem_cons, List.not_mem_nil, or_false] at hentry
  rcases hentry with rfl | rfl | rfl | rfl
  · exact ⟨wordsOfName_snakeCase hplain, ofName_snakeCase hlength hplain front back⟩
  · exact ⟨wordsOfName_camelCase hplain, ofName_camelCase hlength hplain front back⟩
  · exact ⟨wordsOfName_pascalCase hplain, ofName_pascalCase hlength hplain front back⟩
  · exact ⟨wordsOfName_upperCase hplain, ofName_upperCase hlength hplain front back⟩

/-- Three words, and a spelling of them with low lines around it. -/
theorem spellings_read_back_of_three :
    2 ≤ ["http".toList, "to".toList, "server".toList].length ∧
      (∀ word ∈ ["http".toList, "to".toList, "server".toList],
        2 ≤ word.length ∧ ∀ c ∈ word, c.isLower = true) ∧
      wordsOfName "__httpToServer_".toList = ["http".toList, "to".toList, "server".toList] ∧
      Convention.ofName "__httpToServer_".toList = .camelCase := by
  have hlower : ∀ word ∈ ["http".toList, "to".toList, "server".toList],
      2 ≤ word.length ∧ ∀ c ∈ word, c.isLower = true := by
    simp only [List.forall_mem_cons]
    exact ⟨⟨by decide, List.all_eq_true.1 rfl⟩, ⟨by decide, List.all_eq_true.1 rfl⟩,
      ⟨by decide, List.all_eq_true.1 rfl⟩, nofun⟩
  have hspelled : (Convention.camelCase, "httpToServer".toList) ∈
      spellings ["http".toList, "to".toList, "server".toList] :=
    List.mem_cons_of_mem _ List.mem_cons_self
  exact ⟨by decide, hlower, spellings_read_back (by decide) hlower 2 1 _ hspelled⟩

end Provenance.Lexis

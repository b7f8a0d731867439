import Provenance.Proofs.Lexis.Blanking
import Provenance.Proofs.Lexis.Shape

/-!
# Proofs — Lexis — Name

The names on a line of code. They are the whole words outside literals that are spelled as names and
are no keywords, in the order in which they stand (`map_snd_placedNames`, `mem_wordsFrom_iff`). What
literals hold plays no part in them, nor in the shape of the line: lines that look the same with
their literals blanked have the same names and one shape (`literals_hide_contents`).
-/

namespace Provenance.Lexis

open Text

/-! ## Whole words -/

/-- A word stands at some position of a text: characters of words, with no such character just in
front of them or just behind them. -/
structure IsWholeWord (cs : List Char) (i : Nat) (word : List Char) : Prop where
  ne_nil : word ≠ []
  solid : ∀ c ∈ word, isWord c = true
  stands : word <+: cs.drop i
  ends_front : ∀ j c, j + 1 = i → cs[j]? = some c → isWord c = false
  ends_back : ∀ c, cs[i + word.length]? = some c → isWord c = false

/-- The words of a text whose first character stands at some position, each with its own. -/
def wordsFrom (i : Nat) : List Char → List (Nat × List Char)
  | [] => []
  | c :: cs =>
    have := length_dropWhile_le isWord cs
    if isWord c then
      (i, c :: cs.takeWhile isWord) ::
        wordsFrom (i + (cs.takeWhile isWord).length + 1) (cs.dropWhile isWord)
    else wordsFrom (i + 1) cs
termination_by cs => cs.length

theorem map_snd_wordsFrom (i : Nat) (cs : List Char) :
    (wordsFrom i cs).map Prod.snd = segments isWord isWord cs := by
  fun_induction wordsFrom i cs with
  | case1 => rw [segments.eq_def]; rfl
  | case2 i c cs _ hc ih =>
    rw [segments.eq_def]
    dsimp only
    rw [if_pos hc, List.map_cons, ih]
  | case3 i c cs _ hc ih =>
    rw [segments.eq_def]
    dsimp only
    rw [if_neg hc, ih]

theorem le_of_mem_wordsFrom {i n : Nat} {cs word : List Char} (h : (n, word) ∈ wordsFrom i cs) :
    i ≤ n := by
  fun_induction wordsFrom i cs with
  | case1 => cases h
  | case2 i c cs _ hc ih =>
    rcases List.mem_cons.1 h with h | h
    · exact (Prod.mk.inj h).1.ge
    · have := ih h
      omega
  | case3 i c cs _ hc ih =>
    have := ih h
    omega

theorem pairwise_wordsFrom (i : Nat) (cs : List Char) :
    (wordsFrom i cs).Pairwise fun a b => a.1 < b.1 := by
  fun_induction wordsFrom i cs with
  | case1 => exact .nil
  | case2 i c cs _ hc ih =>
    refine List.pairwise_cons.2 ⟨?_, ih⟩
    rintro ⟨n, word⟩ hword
    have := le_of_mem_wordsFrom hword
    show i < n
    omega
  | case3 i c cs _ hc ih => exact ih

theorem not_isWholeWord_nil (i : Nat) (word : List Char) : ¬IsWholeWord [] i word := by
  intro h
  have hnil := h.stands
  rw [List.drop_nil] at hnil
  exact h.ne_nil (List.prefix_nil.1 hnil)

/-- A word begins with a character of words. -/
theorem IsWholeWord.exists_getElem? {cs word : List Char} {i : Nat} (h : IsWholeWord cs i word) :
    ∃ c, cs[i]? = some c ∧ isWord c = true := by
  obtain ⟨c, rest, rfl⟩ := List.exists_cons_of_ne_nil h.ne_nil
  obtain ⟨back, hback⟩ := h.stands
  refine ⟨c, ?_, h.solid c List.mem_cons_self⟩
  rw [← Nat.add_zero i, ← List.getElem?_drop, ← hback]
  rfl

/-- Where no word reaches from a first part of a text into the second, the words in the second part
are its own. -/
theorem isWholeWord_append {front rest word : List Char}
    (hends : front.getLast?.any isWord = false ∨ rest.head?.any isWord = false) (i : Nat) :
    IsWholeWord (front ++ rest) (front.length + i) word ↔ IsWholeWord rest i word := by
  have hget (n : Nat) : (front ++ rest)[front.length + n]? = rest[n]? := by
    rw [List.getElem?_append_right (Nat.le_add_right _ _), Nat.add_sub_cancel_left]
  constructor
  · intro h
    refine ⟨h.ne_nil, h.solid, ?_, ?_, ?_⟩
    · rw [← List.drop_length_add_append]
      exact h.stands
    · intro j c hj hc
      refine h.ends_front (front.length + j) c (by omega) ?_
      rwa [hget]
    · intro c hc
      refine h.ends_back c ?_
      rwa [Nat.add_assoc, hget]
  · intro h
    refine ⟨h.ne_nil, h.solid, ?_, ?_, ?_⟩
    · rw [List.drop_length_add_append]
      exact h.stands
    · intro j c hj hc
      cases i with
      | zero =>
        -- the word begins the second part, so the first part ends words
        obtain ⟨d, hd, hword⟩ := h.exists_getElem?
        have hlast : front.getLast?.any isWord = false := by
          refine hends.resolve_right ?_
          rw [List.head?_eq_getElem?, hd]
          simp [hword]
        have hj : j = front.length - 1 := by omega
        rw [hj, List.getElem?_append_left (by omega), ← List.getLast?_eq_getElem?] at hc
        rwa [hc] at hlast
      | succ i =>
        obtain rfl : j = front.length + i := by omega
        rw [hget] at hc
        exact h.ends_front i c rfl hc
    · intro c hc
      rw [Nat.add_assoc, hget] at hc
      exact h.ends_back c hc

/-- A stretch of characters of words that nothing continues is one word. -/
theorem isWholeWord_stretch {front rest word : List Char} (hne : front ≠ [])
    (hfront : ∀ c ∈ front, isWord c = true) (hrest : rest.head?.any isWord = false) {i : Nat}
    (hi : i < front.length) :
    IsWholeWord (front ++ rest) i word ↔ i = 0 ∧ word = front := by
  constructor
  · intro h
    obtain rfl : i = 0 := by
      by_contra hpos
      have hj : i - 1 < front.length := by omega
      have hword := hfront front[i - 1] (List.getElem_mem hj)
      rw [h.ends_front (i - 1) front[i - 1] (by omega)
        (by rw [List.getElem?_append_left hj, List.getElem?_eq_getElem hj])] at hword
      cases hword
    refine ⟨rfl, ?_⟩
    have hstands := h.stands
    rw [List.drop_zero] at hstands
    rcases List.prefix_or_prefix_of_prefix hstands (List.prefix_append front rest) with
      hshort | ⟨more, rfl⟩
    · -- a part of the stretch is continued by the rest of it
      refine hshort.eq_of_length_le ?_
      by_contra hlt
      have hj : word.length < front.length := by omega
      have hword := hfront front[word.length] (List.getElem_mem hj)
      rw [h.ends_back front[word.length]
        (by rw [Nat.zero_add, List.getElem?_append_left hj, List.getElem?_eq_getElem hj])] at hword
      cases hword
    · -- nothing behind the stretch is a character of words
      rw [List.prefix_append_right_inj] at hstands
      cases more with
      | nil => exact List.append_nil front
      | cons c more =>
        obtain ⟨back, rfl⟩ := hstands
        have hword := h.solid c (List.mem_append_right _ List.mem_cons_self)
        have hstop : isWord c = false := hrest
        rw [hstop] at hword
        cases hword
  · rintro ⟨rfl, rfl⟩
    refine ⟨hne, hfront, List.prefix_append word rest, ?_, ?_⟩
    · intro j c hj
      cases hj
    · intro c hc
      rw [Nat.zero_add, List.getElem?_append_right (Nat.le_refl _), Nat.sub_self,
        ← List.head?_eq_getElem?] at hc
      rwa [hc] at hrest

/-- **The words that are found are the whole words of the text.** -/
theorem mem_wordsFrom_iff {i n : Nat} {cs word : List Char} :
    (i + n, word) ∈ wordsFrom i cs ↔ IsWholeWord cs n word := by
  fun_induction wordsFrom i cs generalizing n with
  | case1 i => simp [not_isWholeWord_nil]
  | case2 i c cs _ hc ih =>
    have hsplit : c :: cs = (c :: cs.takeWhile isWord) ++ cs.dropWhile isWord := by
      rw [List.cons_append, List.takeWhile_append_dropWhile]
    have hfront : ∀ d ∈ c :: cs.takeWhile isWord, isWord d = true :=
      List.forall_mem_cons.2 ⟨hc, fun _ hd => List.mem_takeWhile_imp hd⟩
    have hrest := any_head?_dropWhile isWord cs
    rw [hsplit, List.mem_cons, Prod.mk.injEq]
    rcases Nat.lt_or_ge n (c :: cs.takeWhile isWord).length with hn | hn
    · rw [isWholeWord_stretch (List.cons_ne_nil _ _) hfront hrest hn]
      constructor
      · rintro (⟨hi, hword⟩ | hlater)
        · exact ⟨by omega, hword⟩
        · have hle := le_of_mem_wordsFrom hlater
          rw [List.length_cons] at hn
          omega
      · rintro ⟨rfl, hword⟩
        exact .inl ⟨rfl, hword⟩
    · obtain ⟨m, rfl⟩ := Nat.exists_eq_add_of_le hn
      rw [isWholeWord_append (.inr hrest), ← ih, List.length_cons, ← Nat.add_assoc,
        ← Nat.add_assoc]
      constructor
      · rintro (⟨hi, _⟩ | hlater)
        · omega
        · exact hlater
      · exact .inr
  | case3 i c cs _ hc ih =>
    have hc : isWord c = false := by simpa using hc
    cases n with
    | zero =>
      constructor
      · intro h
        have := le_of_mem_wordsFrom h
        omega
      · intro h
        obtain ⟨d, hd, hword⟩ := h.exists_getElem?
        obtain rfl := Option.some.inj hd
        rw [hc] at hword
        cases hword
    | succ n =>
      have hlast : [c].getLast?.any isWord = false := hc
      have hends : IsWholeWord ([c] ++ cs) ([c].length + n) word ↔ IsWholeWord cs n word :=
        isWholeWord_append (.inl hlast) n
      rw [List.singleton_append, List.length_singleton, Nat.add_comm 1] at hends
      rw [hends, ← ih, Nat.add_right_comm, Nat.add_assoc i n 1]

/-! ## Names -/

theorem markLiterals_maskLiterals (cs : List Char) :
    markLiterals (maskLiterals cs) = markLiterals cs := by
  rw [markLiterals, pieces_maskLiterals, markLiterals, List.flatMap_map]
  congr 1
  funext p
  cases p <;> rfl

/-- The names of a line come from what is left of it when its literals are emptied. -/
theorem names_maskLiterals (cs : List Char) : names (maskLiterals cs) = names cs := by
  rw [names, emptyLiterals_maskLiterals, names]

theorem shape_maskLiterals (cs : List Char) : shape (maskLiterals cs) = shape cs := by
  rw [shape, markLiterals_maskLiterals, shape]

/-- Whether a word can be a name: it is spelled as one and is no keyword. -/
def isNameWord (word : List Char) : Bool := isNameSpelling word && !isKeyword word

/-- The names of a line, each with its position in the line with its literals emptied. -/
def placedNames (line : List Char) : List (Nat × List Char) :=
  (wordsFrom 0 (emptyLiterals line)).filter fun word => isNameWord word.2

theorem map_snd_placedNames (line : List Char) : (placedNames line).map Prod.snd = names line := by
  rw [names, ← map_snd_wordsFrom 0, List.filter_map]
  rfl

/-- The keywords are kept in lower case. -/
theorem map_toLower_keyword {keyword : String} (h : keyword ∈ keywords) :
    keyword.toList.map Char.toLower = keyword.toList := by
  have hall : ∀ keyword ∈ keywords, keyword.toList.map Char.toLower = keyword.toList := by
    decide +kernel
  exact hall keyword h

/-- A keyword is found in any letter case. -/
theorem isKeyword_of_mem {keyword : String} (h : keyword ∈ keywords) {word : List Char}
    (hword : word.map Char.toLower = keyword.toList.map Char.toLower) : isKeyword word = true := by
  rw [isKeyword, hword, map_toLower_keyword h, String.ofList_toList]
  exact List.contains_iff_mem.2 h

/-- **What literals hold plays no part in the tokens of a line.** Lines that look the same with
their literals blanked have the same names and one shape. The names of a line are, in their order,
the whole words of the line with its literals emptied that are spelled as names and are no keywords;
no keyword in any letter case is among them. -/
theorem literals_hide_contents {line other : List Char}
    (h : maskLiterals line = maskLiterals other) :
    names line = names other ∧ shape line = shape other ∧
      (∀ name ∈ names line, ∀ keyword ∈ keywords,
        name.map Char.toLower ≠ keyword.toList.map Char.toLower) ∧
      ∃ found : List (Nat × List Char), found.map Prod.snd = names line ∧
        (found.Pairwise fun a b => a.1 < b.1) ∧
        ∀ i name, (i, name) ∈ found ↔ IsWholeWord (emptyLiterals line) i name ∧
          isNameSpelling name = true ∧ isKeyword name = false := by
  refine ⟨?_, ?_, ?_, placedNames line, map_snd_placedNames line,
    (pairwise_wordsFrom 0 _).filter _, ?_⟩
  · rw [← names_maskLiterals, h, names_maskLiterals]
  · rw [← shape_maskLiterals, h, shape_maskLiterals]
  · intro name hname keyword hkeyword hcase
    rw [names, List.mem_filter, isKeyword_of_mem hkeyword hcase] at hname
    simp at hname
  · intro i name
    have hfound : (0 + i, name) ∈ wordsFrom 0 (emptyLiterals line) ↔
        IsWholeWord (emptyLiterals line) i name := mem_wordsFrom_iff
    rw [Nat.zero_add] at hfound
    rw [placedNames, List.mem_filter, hfound, isNameWord, Bool.and_eq_true, Bool.not_eq_true']

/-- A call whose literal holds a keyword and a name in one line, and a quote of another kind in the
other. -/
theorem literals_hide_contents_of_call :
    maskLiterals "Say(\"if it\")".toList = maskLiterals "Say(\"don't\")".toList ∧
      names "Say(\"if it\")".toList = names "Say(\"don't\")".toList ∧
      shape "Say(\"if it\")".toList = shape "Say(\"don't\")".toList := by
  have hmask : maskLiterals "Say(\"if it\")".toList = maskLiterals "Say(\"don't\")".toList := by
    decide +kernel
  obtain ⟨hnames, hshape, _⟩ := literals_hide_contents hmask
  exact ⟨hmask, hnames, hshape⟩

end Provenance.Lexis

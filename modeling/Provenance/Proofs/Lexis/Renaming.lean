import Provenance.Proofs.Lexis.Shape

/-!
# Proofs — Lexis — Renaming

A line of code in which names are replaced by other names has the shape it had (`shape_text`). Names
inside literals stay, and the others have to leave every literal where it is: whether a quote is
closed does not depend on the names behind it (`ClosesAlike`), so the line with marks for its
literals is renamed word by word (`markLiterals_text`), and its tokens are the renamed tokens
(`tokens_markLiterals_text`).
-/

namespace Provenance.Lexis

open Text

/-! ## Renamings -/

/-- The words that can head an import and are no keywords. -/
def importWords : List (List Char) :=
  ["include".toList, "require".toList, "extern".toList, "crate".toList]

/-- Whether a word is the name of something in a program. -/
def isFree (word : List Char) : Bool :=
  isNameSpelling word && !isKeyword word && !importWords.contains word

/-- A map of names to names. -/
structure Renaming where
  image : List Char → List Char
  isFree_image : ∀ name, isFree name = true → isFree (image name) = true

namespace Renaming

variable (r : Renaming)

/-- The image of a free name; other words stay. -/
def word (word : List Char) : List Char := if isFree word then r.image word else word

/-- A text with the names outside literals replaced. -/
def text : List Char → List Char
  | [] => []
  | c :: cs =>
    if isQuote c then
      match h : closeLiteral? c cs with
      | some (interior, after) =>
        have := length_of_closeLiteral? h
        c :: (interior ++ c :: text after)
      | none => c :: text cs
    else if isNameStart c then
      have := length_dropWhile_le isNameChar cs
      r.word (c :: cs.takeWhile isNameChar) ++ text (cs.dropWhile isNameChar)
    else c :: text cs
termination_by cs => cs.length

/-- A text with all names replaced, whatever quotes stand around them. -/
def unquoted : List Char → List Char
  | [] => []
  | c :: cs =>
    if isNameStart c then
      have := length_dropWhile_le isNameChar cs
      r.word (c :: cs.takeWhile isNameChar) ++ unquoted (cs.dropWhile isNameChar)
    else c :: unquoted cs
termination_by cs => cs.length

end Renaming

/-! ## Words -/

theorem isFree_iff {word : List Char} : isFree word = true ↔
    isNameSpelling word = true ∧ isKeyword word = false ∧ importWords.contains word = false := by
  simp [isFree, and_assoc]

namespace Renaming

variable {r : Renaming}

theorem word_of_isFree {word : List Char} (h : isFree word = true) : r.word word = r.image word :=
  if_pos h

theorem word_of_not_isFree {word : List Char} (h : isFree word = false) : r.word word = word :=
  if_neg (by simp [h])

theorem isNameSpelling_word {word : List Char} (h : isNameSpelling word = true) :
    isNameSpelling (r.word word) = true := by
  cases hfree : isFree word with
  | false => rwa [word_of_not_isFree hfree]
  | true =>
    rw [word_of_isFree hfree]
    exact (isFree_iff.1 (r.isFree_image word hfree)).1

/-- A word that is not free is no other word's image. -/
theorem beq_word {word : List Char} (h : isFree word = false) (token : List Char) :
    (word == r.word token) = (word == token) := by
  cases hfree : isFree token with
  | false => rw [word_of_not_isFree hfree]
  | true =>
    have himage := r.isFree_image token hfree
    rw [word_of_isFree hfree, beq_eq_false_iff_ne.2 (ne_of_class himage h).symm,
      beq_eq_false_iff_ne.2 (ne_of_class hfree h).symm]

/-- Where a name begins, its image begins. -/
theorem head?_word {p : Char → Bool}
    (h : ∀ c d, isNameStart c = true → isNameStart d = true → p c = p d) {name : List Char}
    (hname : isNameSpelling name = true) {rest rest' : List Char} :
    (r.word name ++ rest').head?.any p = (name ++ rest).head?.any p := by
  obtain ⟨c, cs, hsplit, hc, _⟩ := exists_of_isNameSpelling (isNameSpelling_word (r := r) hname)
  obtain ⟨d, ds, rfl, hd, _⟩ := exists_of_isNameSpelling hname
  rw [hsplit]
  exact h c d hc hd

/-- A word contributes to the shape of its line what its image does. -/
theorem ofToken_word (token : List Char) :
    Symbol.ofToken (r.word token) = Symbol.ofToken token := by
  cases hfree : isFree token with
  | false => rw [word_of_not_isFree hfree]
  | true =>
    obtain ⟨hname, hkeyword, _⟩ := isFree_iff.1 hfree
    obtain ⟨hname', hkeyword', _⟩ := isFree_iff.1 (r.isFree_image token hfree)
    rw [word_of_isFree hfree, ofToken_name hname' hkeyword', ofToken_name hname hkeyword]

/-- A word that is no name stays. -/
theorem word_of_not_isNameStart {c : Char} (h : isNameStart c = false) (cs : List Char) :
    r.word (c :: cs) = c :: cs := by
  apply word_of_not_isFree
  rw [isFree, isNameSpelling, h]
  rfl

/-! ## Texts -/

theorem text_nil : r.text [] = [] := by rw [text.eq_def]

theorem text_literal {c : Char} {cs interior after : List Char} (hquote : isQuote c = true)
    (h : closeLiteral? c cs = some (interior, after)) :
    r.text (c :: cs) = c :: (interior ++ c :: r.text after) := by
  rw [text.eq_def]
  dsimp only
  rw [if_pos hquote]
  split <;> simp_all

theorem text_name {name rest : List Char} (h : isNameSpelling name = true)
    (hrest : EndsName rest) : r.text (name ++ rest) = r.word name ++ r.text rest := by
  obtain ⟨c, cs, rfl, hc, hcs⟩ := exists_of_isNameSpelling h
  have hquote := isQuote_of_isNameChar (isNameChar_of_isNameStart hc)
  rw [List.cons_append, text.eq_def]
  dsimp only
  rw [if_neg (by simp [hquote]), if_pos hc, takeWhile_stretch hcs hrest, dropWhile_stretch hcs hrest]

/-- A character that begins neither a literal nor a name stays. -/
theorem text_plain {c : Char} {cs : List Char} (hname : isNameStart c = false)
    (hunclosed : isQuote c = true → closeLiteral? c cs = none) :
    r.text (c :: cs) = c :: r.text cs := by
  rw [text.eq_def]
  dsimp only
  rw [if_neg (by simp [hname] : ¬isNameStart c = true)]
  split
  · rename_i hquote
    have hclose := hunclosed hquote
    split <;> simp_all
  · rfl

theorem unquoted_nil : r.unquoted [] = [] := by rw [unquoted.eq_def]

theorem unquoted_name {name rest : List Char} (h : isNameSpelling name = true)
    (hrest : EndsName rest) : r.unquoted (name ++ rest) = r.word name ++ r.unquoted rest := by
  obtain ⟨c, cs, rfl, hc, hcs⟩ := exists_of_isNameSpelling h
  rw [List.cons_append, unquoted.eq_def]
  dsimp only
  rw [if_pos hc, takeWhile_stretch hcs hrest, dropWhile_stretch hcs hrest]

theorem unquoted_plain {c : Char} (hname : isNameStart c = false) (cs : List Char) :
    r.unquoted (c :: cs) = c :: r.unquoted cs := by
  rw [unquoted.eq_def]
  dsimp only
  rw [if_neg (by simp [hname])]

/-- The renaming that leaves all names. -/
def same : Renaming := ⟨id, fun _ h => h⟩

end Renaming

/-- A text is empty, or begins with a literal, with a name, or with a character that begins neither.
A renaming treats the four alike. -/
@[elab_as_elim]
theorem text_induction {motive : List Char → Prop} (cs : List Char) (nil : motive [])
    (literal : ∀ c interior after, isQuote c = true →
      closeLiteral? c (interior ++ c :: after) = some (interior, after) → motive after →
      motive (c :: (interior ++ c :: after)))
    (name : ∀ name rest, isNameSpelling name = true → EndsName rest → motive rest →
      motive (name ++ rest))
    (plain : ∀ c cs, isNameStart c = false →
      (isQuote c = true → closeLiteral? c cs = none) → motive cs → motive (c :: cs)) :
    motive cs := by
  fun_induction Renaming.text Renaming.same cs with
  | case1 => exact nil
  | case2 c cs hquote interior after h _ ih =>
    have heq := eq_of_closeLiteral? h
    rw [heq] at h ⊢
    exact literal c interior after hquote h ih
  | case3 c cs hquote h ih =>
    -- a quote that nothing closes is a character like others
    exact plain c cs (isNameStart_of_isQuote hquote) (fun _ => h) ih
  | case4 c cs hquote hname _ ih =>
    have hsplit := name _ _ (isNameSpelling_takeWhile hname cs) (endsName_dropWhile cs) ih
    rwa [List.cons_append, List.takeWhile_append_dropWhile] at hsplit
  | case5 c cs hquote hname ih =>
    exact plain c cs (by simpa using hname) (fun h => absurd h hquote) ih

/-! ## Literals -/

/-- No character of a name closes a literal, or takes the next one into it. -/
theorem closes_name {quote : Char} (hquote : isQuote quote = true) {name : List Char}
    (h : ∀ c ∈ name, isNameChar c = true) (rest : List Char) :
    closes quote (name ++ rest) = closes quote rest := by
  induction name with
  | nil => rfl
  | cons c name ih =>
    have hc := h c List.mem_cons_self
    have hne : c ≠ quote := (ne_of_class hquote (isQuote_of_isNameChar hc)).symm
    have hescape : c ≠ '\\' := ne_of_class hc (by decide)
    rw [List.cons_append, closes_char hne hescape, ih fun d hd => h d (List.mem_cons_of_mem _ hd)]

/-- Two texts in which the same quotes in front of them are closed, also behind an escape. -/
def ClosesAlike (cs cs' : List Char) : Prop :=
  ∀ quote, isQuote quote = true →
    closes quote cs = closes quote cs' ∧ closes quote ('\\' :: cs) = closes quote ('\\' :: cs')

namespace ClosesAlike

variable {cs cs' : List Char}

theorem nil : ClosesAlike [] [] := fun _ _ => ⟨rfl, rfl⟩

/-- Neither of them closes a quote that the other leaves open. -/
theorem iff_closesNoMore : ClosesAlike cs cs' ↔ ClosesNoMore cs cs' ∧ ClosesNoMore cs' cs := by
  constructor
  · intro h
    constructor
    · intro quote hquote
      obtain ⟨hplain, hescaped⟩ := h quote hquote
      exact ⟨hplain.symm.trans, hescaped.symm.trans⟩
    · intro quote hquote
      obtain ⟨hplain, hescaped⟩ := h quote hquote
      exact ⟨hplain.trans, hescaped.trans⟩
  · rintro ⟨h, h'⟩ quote hquote
    obtain ⟨hplain, hescaped⟩ := h quote hquote
    obtain ⟨hplain', hescaped'⟩ := h' quote hquote
    exact ⟨Bool.eq_iff_iff.2 ⟨hplain, hplain'⟩, Bool.eq_iff_iff.2 ⟨hescaped, hescaped'⟩⟩

/-- A common character in front of them. -/
theorem cons (h : ClosesAlike cs cs') (c : Char) : ClosesAlike (c :: cs) (c :: cs') := by
  obtain ⟨hleft, hright⟩ := iff_closesNoMore.1 h
  exact iff_closesNoMore.2 ⟨hleft.cons c, hright.cons c⟩

theorem append (h : ClosesAlike cs cs') (front : List Char) :
    ClosesAlike (front ++ cs) (front ++ cs') := by
  induction front with
  | nil => exact h
  | cons c front ih => exact ih.cons c

/-- Names in front of them, be they the same or not. An escape takes the first character of a name
only, and closes nothing with it. -/
theorem names (h : ClosesAlike cs cs') {name name' : List Char}
    (hname : isNameSpelling name = true) (hname' : isNameSpelling name' = true) :
    ClosesAlike (name ++ cs) (name' ++ cs') := by
  intro quote hquote
  have hescape : ∀ {name rest : List Char}, isNameSpelling name = true →
      closes quote ('\\' :: (name ++ rest)) = closes quote rest := by
    intro name rest h
    obtain ⟨c, others, rfl, hc, hothers⟩ := exists_of_isNameSpelling h
    have hfeed : c ≠ '\n' := ne_of_class hc (by decide)
    rw [List.cons_append, closes_escape hquote hfeed, closes_name hquote hothers]
  rw [closes_name hquote fun _ => isNameChar_of_mem hname,
    closes_name hquote fun _ => isNameChar_of_mem hname', hescape hname, hescape hname']
  exact ⟨(h quote hquote).1, (h quote hquote).1⟩

end ClosesAlike

namespace Renaming

variable {r : Renaming}

/-- **A quote is closed whatever the names behind it are.** -/
theorem closesAlike_text (cs : List Char) : ClosesAlike (r.text cs) cs := by
  induction cs using text_induction with
  | nil =>
    rw [text_nil]
    exact .nil
  | literal c interior after hquote h ih =>
    rw [text_literal hquote h]
    exact ((ih.cons c).append interior).cons c
  | name name rest hname hrest ih =>
    rw [text_name hname hrest]
    exact ih.names (isNameSpelling_word hname) hname
  | plain c cs hname hunclosed ih =>
    rw [text_plain hname hunclosed]
    exact ih.cons c

/-! ## First characters -/

/-- Where a name begins, a name begins. -/
theorem head?_text {p : Char → Bool}
    (h : ∀ c d, isNameStart c = true → isNameStart d = true → p c = p d) (cs : List Char) :
    (r.text cs).head?.any p = cs.head?.any p := by
  cases cs using text_induction with
  | nil => rw [text_nil]
  | literal c interior after hquote hclose =>
    rw [text_literal hquote hclose]
    rfl
  | name name rest hname hrest =>
    rw [text_name hname hrest]
    exact head?_word h hname
  | plain c cs hname hunclosed =>
    rw [text_plain hname hunclosed]
    rfl

theorem endsName_text {cs : List Char} (h : EndsName cs) : EndsName (r.text cs) := by
  refine (head?_text ?_ cs).trans h
  intro c d hc hd
  rw [isNameChar_of_isNameStart hc, isNameChar_of_isNameStart hd]

/-- Blanks in front of a text stay. -/
theorem trimLeft_text (cs : List Char) :
    trimLeft isBlank (r.text cs) = r.text (trimLeft isBlank cs) := by
  have hblank : ∀ c, isNameStart c = true → isBlank c = false :=
    fun _ hc => isBlank_of_isNameChar (isNameChar_of_isNameStart hc)
  have hfirst := head?_text (r := r) (p := isBlank) fun c d hc hd =>
    (hblank c hc).trans (hblank d hd).symm
  unfold trimLeft
  induction cs with
  | nil => rw [text_nil, List.dropWhile_nil, text_nil]
  | cons c cs ih =>
    cases hc : isBlank c with
    | true =>
      have hquote : isQuote c = true → closeLiteral? c cs = none := by
        intro hquote
        rw [isBlank_of_isQuote hquote] at hc
        cases hc
      rw [text_plain (isNameStart_of_isBlank hc) hquote, List.dropWhile_cons_of_pos hc,
        List.dropWhile_cons_of_pos hc, ih]
    | false =>
      have hstop : (r.text (c :: cs)).head?.any isBlank = false := (hfirst _).trans hc
      rw [(stretch_eq_nil hstop).2, List.dropWhile_cons_of_neg (by simp [hc])]

/-! ## Marks for literals -/

theorem endsName_markLiterals {cs : List Char} (h : EndsName cs) : EndsName (markLiterals cs) := by
  cases cs using text_induction with
  | nil =>
    rw [markLiterals_nil]
    exact h
  | literal c interior after hquote hclose =>
    rw [markLiterals_cons_literal hquote hclose]
    exact endsName_cons.2 (by decide)
  | name name rest hname hrest =>
    obtain ⟨c, cs, rfl, hc, _⟩ := exists_of_isNameSpelling hname
    have := endsName_cons.1 h
    rw [isNameChar_of_isNameStart hc] at this
    cases this
  | plain c cs hname hunclosed =>
    rw [markLiterals_cons_plain hunclosed]
    exact endsName_cons.2 (endsName_cons.1 h)

/-- **Renaming outside literals is renaming between the marks for them.** -/
theorem markLiterals_text (cs : List Char) :
    markLiterals (r.text cs) = r.unquoted (markLiterals cs) := by
  induction cs using text_induction with
  | nil => rw [text_nil, markLiterals_nil, unquoted_nil]
  | literal c interior after hquote h ih =>
    rw [text_literal hquote h, markLiterals_cons_literal hquote (closeLiteral?_congr h _), ih,
      markLiterals_cons_literal hquote h, unquoted_plain (by decide), unquoted_plain (by decide),
      unquoted_plain (by decide)]
  | name name rest hname hrest ih =>
    rw [text_name hname hrest,
      markLiterals_quoteless_append (isQuoteless_name (isNameSpelling_word hname)), ih,
      markLiterals_quoteless_append (isQuoteless_name hname),
      unquoted_name hname (endsName_markLiterals hrest)]
  | plain c cs hname hunclosed ih =>
    -- the names behind a quote that nothing closes must not close it
    have hunclosed' : isQuote c = true → closeLiteral? c (r.text cs) = none := by
      intro hquote
      have halike := ((closesAlike_text (r := r) cs) c hquote).1
      rw [closes, closes, hunclosed hquote] at halike
      exact Option.not_isSome_iff_eq_none.1 (by simp [halike])
    rw [text_plain hname hunclosed, markLiterals_cons_plain hunclosed', ih,
      markLiterals_cons_plain hunclosed, unquoted_plain hname]

/-! ## Tokens -/

theorem unquoted_append {front : List Char} (h : ∀ c ∈ front, isNameStart c = false)
    (rest : List Char) : r.unquoted (front ++ rest) = front ++ r.unquoted rest := by
  induction front with
  | nil => rfl
  | cons c front ih =>
    rw [List.cons_append, unquoted_plain (h c List.mem_cons_self),
      ih fun d hd => h d (List.mem_cons_of_mem _ hd), List.cons_append]

/-- Where a name begins, a name begins. -/
theorem head?_unquoted {p : Char → Bool}
    (h : ∀ c d, isNameStart c = true → isNameStart d = true → p c = p d) (cs : List Char) :
    (r.unquoted cs).head?.any p = cs.head?.any p := by
  cases cs using text_induction with
  | nil => rw [unquoted_nil]
  | literal c interior after hquote _ =>
    rw [unquoted_plain (isNameStart_of_isQuote hquote)]
    rfl
  | name name rest hname hrest =>
    rw [unquoted_name hname hrest]
    exact head?_word h hname
  | plain c cs hname _ =>
    rw [unquoted_plain hname]
    rfl

theorem endsName_unquoted {cs : List Char} (h : EndsName cs) : EndsName (r.unquoted cs) := by
  refine (head?_unquoted ?_ cs).trans h
  intro c d hc hd
  rw [isNameChar_of_isNameStart hc, isNameChar_of_isNameStart hd]

/-- A stretch without names in front of a text ends where it did. -/
theorem stretch_unquoted {p : Char → Bool} (h : ∀ c, isNameStart c = true → p c = false)
    (cs : List Char) :
    (r.unquoted cs).takeWhile p = cs.takeWhile p ∧
      (r.unquoted cs).dropWhile p = r.unquoted (cs.dropWhile p) := by
  have hfirst := head?_unquoted (r := r) (p := p) fun c d hc hd => (h c hc).trans (h d hd).symm
  induction cs with
  | nil => simp [unquoted_nil]
  | cons c cs ih =>
    cases hc : p c with
    | true =>
      simp [unquoted_plain (isNameStart_eq_false h hc), hc, ih]
    | false =>
      -- the stretch ends here, and it ends in front of what stands here now
      have hstop : (r.unquoted (c :: cs)).head?.any p = false := (hfirst _).trans hc
      rw [(stretch_eq_nil hstop).1, (stretch_eq_nil hstop).2,
        List.takeWhile_cons_of_neg (by simp [hc]), List.dropWhile_cons_of_neg (by simp [hc])]
      exact ⟨rfl, rfl⟩

theorem fraction_unquoted (cs : List Char) : fraction (r.unquoted cs) = fraction cs := by
  have hname : isNameStart '.' = false := by decide
  have hfirst := head?_unquoted (r := r) (p := (· == '.')) (fun c d hc hd => by
    rw [beq_eq_false_iff_ne.2 (ne_of_class hc hname),
      beq_eq_false_iff_ne.2 (ne_of_class hd hname)]) cs
  cases hpoint : cs.head?.any (· == '.') with
  | false => rw [fraction_eq_nil hpoint, fraction_eq_nil (hfirst.trans hpoint)]
  | true =>
    obtain ⟨cs, rfl⟩ : ∃ rest, cs = '.' :: rest := by
      cases cs with
      | nil => cases hpoint
      | cons c cs => exact ⟨cs, by simpa using hpoint⟩
    rw [unquoted_plain hname, fraction_point, fraction_point,
      (stretch_unquoted (fun _ => isDecimal_of_isNameStart) cs).1]

theorem drop_fraction_unquoted (cs : List Char) :
    (r.unquoted cs).drop (fraction cs).length = r.unquoted (cs.drop (fraction cs).length) := by
  obtain ⟨rest, hsplit, hnames⟩ := exists_fraction_append cs
  generalize fraction cs = front at *
  subst hsplit
  rw [unquoted_append hnames, List.drop_left, List.drop_left]

/-- **The tokens of a text are renamed one by one.** Tokens that are no names end where they did, as
a name in the place of a name stands behind them. -/
theorem tokens_unquoted (cs : List Char) : tokens (r.unquoted cs) = (tokens cs).map r.word := by
  fun_induction tokens cs with
  | case1 => rw [unquoted_nil, tokens_nil, List.map_nil]
  | case2 c cs hname _ ih =>
    have hspelled := isNameSpelling_takeWhile hname cs
    have hends := endsName_dropWhile cs
    have hsplit : c :: cs = (c :: cs.takeWhile isNameChar) ++ cs.dropWhile isNameChar := by
      rw [List.cons_append, List.takeWhile_append_dropWhile]
    rw [hsplit, unquoted_name hspelled hends,
      tokens_name (isNameSpelling_word hspelled) (endsName_unquoted hends), ih, List.map_cons]
  | case3 c cs hname hnumber rest _ _ ih =>
    have hname : isNameStart c = false := by simpa using hname
    obtain ⟨hdigits, hbehind⟩ := stretch_unquoted (r := r) (fun _ => isDecimal_of_isNameStart) cs
    rw [unquoted_plain hname, tokens_number hname hnumber, hdigits, hbehind, fraction_unquoted,
      drop_fraction_unquoted, ih, List.map_cons, word_of_not_isNameStart hname]
  | case4 c cs hname hnumber hblank ih =>
    have hname : isNameStart c = false := by simpa using hname
    rw [unquoted_plain hname, tokens_blank hname (by simpa using hnumber) hblank, ih]
  | case5 c hname hnumber hblank =>
    have hname : isNameStart c = false := by simpa using hname
    have hmark : tokens [c] = [c] :: tokens [] :=
      tokens_mark hname (by simpa using hnumber) (by simpa using hblank) rfl
    rw [unquoted_plain hname, unquoted_nil, hmark, tokens_nil, List.map_singleton,
      word_of_not_isNameStart hname]
  | case6 c hname hnumber hblank d rest hoperator ih =>
    have hname : isNameStart c = false := by simpa using hname
    have hsecond := isNameStart_eq_false (fun _ => isOperator_of_isNameStart c) hoperator
    rw [unquoted_plain hname, unquoted_plain hsecond, tokens_operator hname (by simpa using hnumber)
      (by simpa using hblank) hoperator, ih, List.map_cons, word_of_not_isNameStart hname]
  | case7 c hname hnumber hblank d rest hoperator ih =>
    have hname : isNameStart c = false := by simpa using hname
    have hmark : (r.unquoted (d :: rest)).head?.any (isOperator c) = false := by
      refine (head?_unquoted ?_ (d :: rest)).trans (by simpa using hoperator)
      intro e e' he he'
      rw [isOperator_of_isNameStart c he, isOperator_of_isNameStart c he']
    rw [unquoted_plain hname, tokens_mark hname (by simpa using hnumber) (by simpa using hblank)
      hmark, ih, List.map_cons, word_of_not_isNameStart hname]

/-- **The tokens of a line in which names outside literals are replaced are the replaced tokens.**
-/
theorem tokens_markLiterals_text (cs : List Char) :
    tokens (markLiterals (r.text cs)) = (tokens (markLiterals cs)).map r.word := by
  rw [markLiterals_text, tokens_unquoted]

/-- **Replaced names leave the shape of a line.** -/
theorem shape_text (cs : List Char) : shape (r.text cs) = shape cs := by
  rw [shape, tokens_markLiterals_text, List.map_map, shape]
  congr 1
  funext token
  exact ofToken_word token

/-- Keywords stay, and so do names in literals. -/
example : text ⟨fun _ => ['x'], fun _ _ => by decide⟩ "if total: f\"total\"".toList =
    "if x: x\"total\"".toList := by decide +kernel

end Renaming

end Provenance.Lexis

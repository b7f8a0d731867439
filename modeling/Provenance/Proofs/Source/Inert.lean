import Provenance.Proofs.Source.Comment

/-!
# Proofs — Source — Inert

What in a line plays no part in how it is read. Delimiters within literals do not
(`literals_open_no_comment`). Nor does the text behind the mark of a line comment, as long as no
other comment opens in it (`text_behind_mark_is_inert`): a line of code is cut at the mark, but what
follows a block comment on its line is scanned to the end of the line.
-/

namespace Provenance

open Text Lexis

/-! ## Literals -/

/-- **What stands in literals opens no comment.** In a line of code only an opener that is left when
literals are blanked, in front of the first line comment, opens one; and lines that are alike when
their literals are blanked are read alike. -/
theorem literals_open_no_comment (language : Language) :
    (∀ {raw front rest : List Char}, BeginsWithCode language.syntaxOf raw →
      maskLiterals raw = front ++ rest → IsCut language.syntaxOf.line front rest →
      (∀ block ∈ language.syntaxOf.block, ¬ block.opener <:+: front) →
      readLine language.syntaxOf none raw = (.code, none)) ∧
    ∀ {raw raw' : List Char}, BeginsWithCode language.syntaxOf raw →
      BeginsWithCode language.syntaxOf raw' → maskLiterals raw = maskLiterals raw' →
      readLine language.syntaxOf none raw = readLine language.syntaxOf none raw' := by
  have hc := language.isRegular_syntaxOf
  constructor
  · intro raw front rest hcode hmask hcut hopener
    have hpart : codePart language.syntaxOf.line raw = front := by
      rw [codePart, hmask, foldl_before_eq hc.line_apart hcut]
    rw [readLine_code hc hcode, hpart, scanBlocks_quiet hc hopener]
  · intro raw raw' hcode hcode' hmask
    rw [readLine_code hc hcode, readLine_code hc hcode', codePart, hmask, ← codePart]

/-- A line with the delimiters of comments in its literals, and one with other literals. -/
theorem literals_open_no_comment_in_code :
    BeginsWithCode Language.cStyle.syntaxOf "a = \"/* x\"; // b".toList ∧
      readLine Language.cStyle.syntaxOf none "a = \"/* x\"; // b".toList = (.code, none) ∧
      readLine Language.cStyle.syntaxOf none "a = \"/* x\"; // b".toList =
        readLine Language.cStyle.syntaxOf none "a = \"y //\"; // b".toList := by
  have hcode : BeginsWithCode Language.cStyle.syntaxOf "a = \"/* x\"; // b".toList :=
    ⟨by decide, by decide, by decide⟩
  have hcode' : BeginsWithCode Language.cStyle.syntaxOf "a = \"y //\"; // b".toList :=
    ⟨by decide, by decide, by decide⟩
  have hmask : maskLiterals "a = \"/* x\"; // b".toList = "a = \"    \"; ".toList ++ "// b".toList :=
    by decide +kernel
  have hcut : IsCut Language.cStyle.syntaxOf.line "a = \"    \"; ".toList "// b".toList :=
    ⟨by decide, .inr ⟨"//".toList, by decide, by decide⟩⟩
  obtain ⟨hnone, hsame⟩ := literals_open_no_comment .cStyle
  exact ⟨hcode, hnone hcode hmask hcut (by decide), hsame hcode hcode' (by decide +kernel)⟩

/-! ## Places outside comments -/

/-- The place between two parts of a line is outside comments and literals when the line is read
from a state on, from left to right. -/
inductive IsOutside (blocks : List BlockDelimiters) : Pending → List Char → List Char → Prop
  | code {front rest : List Char} (hliteral : OutsideLiterals front rest)
    (hopener : ∀ block ∈ blocks,
      ¬ BeginsBefore block.opener (maskLiterals (front ++ rest)) front.length) :
    IsOutside blocks none front rest
  | closed {closer comment front rest : List Char}
    (hcloser : ¬ BeginsBefore closer (comment ++ (closer ++ (front ++ rest))) comment.length)
    (later : IsOutside blocks none front rest) :
    IsOutside blocks (some closer) (comment ++ (closer ++ front)) rest
  | opened {block : BlockDelimiters} {code front rest : List Char} (hblock : block ∈ blocks)
    (hliteral : OutsideLiterals code (block.opener ++ (front ++ rest)))
    (hopener : ∀ other ∈ blocks, ¬ BeginsBefore other.opener
      (maskLiterals (code ++ (block.opener ++ (front ++ rest)))) code.length)
    (later : IsOutside blocks (some block.closer) front rest) :
    IsOutside blocks none (code ++ (block.opener ++ front)) rest

/-- **Behind a place outside comments a line is scanned by itself.** -/
theorem IsOutside.scanBlocks_eq {comments : CommentSyntax} (hc : comments.IsRegular)
    {pending : Pending} {front rest : List Char} (h : IsOutside comments.block pending front rest) :
    scanBlocks comments.block pending (front ++ rest) = scanBlocks comments.block none rest := by
  induction h with
  | code hliteral hopener => exact scanBlocks_append hliteral hopener
  | @closed closer comment front rest hcloser _ ih =>
    have hfound : find? closer (comment ++ (closer ++ (front ++ rest))) = some comment.length :=
      find?_eq_some_iff.2 ⟨by rw [List.drop_left]; exact List.prefix_append _ _, hcloser⟩
    simp only [List.append_assoc]
    rw [scanBlocks_close hfound, List.drop_length_add_append, List.drop_left, ih]
  | @opened block code front rest hblock hliteral hopener _ ih =>
    simp only [List.append_assoc]
    rw [scanBlocks_append hliteral hopener, scanBlocks_opener_append hc hblock, ih]

/-! ## Line comments -/

section Mark

variable {comments : CommentSyntax} (hc : comments.IsRegular) {mark : List Char}
  (hmark : mark ∈ comments.line) {front text text' : List Char}

include hc hmark

/-- An opener that begins in front of a mark ends there. -/
theorem prefix_of_prefix_append_mark {block : BlockDelimiters} (hblock : block ∈ comments.block)
    (hne : front ≠ []) (h : block.opener <+: front ++ (mark ++ text)) :
    block.opener <+: front := by
  rcases List.prefix_or_prefix_of_prefix h (List.prefix_append front _) with h' | ⟨tail, htail⟩
  · exact h'
  by_cases hnil : tail = []
  · rw [← htail, hnil, List.append_nil]
  -- the opener would go on into the mark
  have hlt : front.length < block.opener.length := by
    rw [← htail, List.length_append]
    have := List.length_pos_iff.2 hnil
    omega
  have hdrop : block.opener.drop front.length = tail := by rw [← htail, List.drop_left]
  obtain ⟨hwithin, hbeyond⟩ := hc.opener_tail block hblock mark hmark front.length hlt
  rw [hdrop] at hwithin hbeyond
  rw [← htail, List.prefix_append_right_inj] at h
  rcases List.prefix_or_prefix_of_prefix h (List.prefix_append mark text) with h' | h'
  · exact absurd h' hbeyond
  · exact absurd (List.length_eq_zero_iff.1 (hwithin h')) hne

/-- The text behind a mark does not tell whether a line begins with code. -/
theorem BeginsWithCode.congr (h : BeginsWithCode comments (front ++ (mark ++ text))) :
    BeginsWithCode comments (front ++ (mark ++ text')) := by
  have hword := hc.line_word mark hmark
  have hne : trimLeft isBlank front ≠ [] := by
    intro hnil
    refine h.no_mark mark hmark (hword.prefix_strip_iff.2 ?_)
    rw [hword.trimLeft_append, hnil]
    exact List.prefix_append _ _
  refine ⟨hword.strip_ne_nil front text', ?_, ?_⟩
  · intro block hblock hp
    have hopener := hc.opener_word block hblock
    rw [hopener.prefix_strip_iff, hword.trimLeft_append] at hp
    refine h.no_opener block hblock (hopener.prefix_strip_iff.2 ?_)
    rw [hword.trimLeft_append]
    exact (prefix_of_prefix_append_mark hc hmark hblock hne hp).trans (List.prefix_append _ _)
  · intro other hother hp
    have hsought := hc.line_word other hother
    rw [hsought.prefix_strip_iff, hword.trimLeft_append, ← List.append_assoc] at hp
    refine h.no_mark other hother (hsought.prefix_strip_iff.2 ?_)
    rw [hword.trimLeft_append, ← List.append_assoc]
    exact (hc.line_apart.prefix_of_prefix_append hmark hother hword.ne_nil hp).trans
      (List.prefix_append _ _)

/-- Behind a mark outside literals, no text changes the part of a line that is read as code. -/
theorem codePart_congr (h : OutsideLiterals front (mark ++ text))
    (h' : OutsideLiterals front (mark ++ text')) :
    codePart comments.line (front ++ (mark ++ text)) =
      codePart comments.line (front ++ (mark ++ text')) := by
  obtain ⟨view, hview, hview'⟩ := h.exists_mask h'
  have hquoteless := hc.line_quoteless mark hmark
  rw [maskLiterals_quoteless_append hquoteless, ← List.append_assoc view] at hview hview'
  rw [codePart, hview, codePart, hview']
  exact foldl_before_congr hc.line_apart hmark (hc.line_word mark hmark).ne_nil _ _ _

end Mark

/-- A line that has text, and begins neither with code nor with an opener, begins with a mark. -/
theorem exists_mark_of_not_code {comments : CommentSyntax} {raw : List Char}
    (hblank : strip raw ≠ []) (hopener : ∀ block ∈ comments.block, ¬ block.opener <+: strip raw)
    (h : ¬ BeginsWithCode comments raw) : ∃ mark ∈ comments.line, mark <+: strip raw := by
  by_contra hnone
  exact h ⟨hblank, hopener, fun mark hm hp => hnone ⟨mark, hm, hp⟩⟩

theorem kind_readLine_of_not_code {comments : CommentSyntax} (hc : comments.IsRegular)
    {raw : List Char} (hblank : strip raw ≠ []) (h : ¬ BeginsWithCode comments raw) :
    (readLine comments none raw).1 = .comment := by
  by_cases hopener : ∃ block ∈ comments.block, block.opener <+: strip raw
  · obtain ⟨block, hblock, hp⟩ := hopener
    rw [readLine_opener hc hblock hp]
  · have hnone : ∀ block ∈ comments.block, ¬ block.opener <+: strip raw :=
      fun block hblock hp => hopener ⟨block, hblock, hp⟩
    obtain ⟨mark, hm, hp⟩ := exists_mark_of_not_code hblank hnone h
    rw [readLine_mark hc hnone hm hp]

/-- The place between two parts of a line, read from a state on, is seen to be outside comments and
literals. In a line of code only literals count, since it is cut at the first line comment. In
others the rest of the line is scanned, so that no comment must open there. -/
inductive IsMet (comments : CommentSyntax) : Pending → List Char → List Char → Prop
  | code {front rest : List Char}
    (hopener : ∀ block ∈ comments.block, ¬ block.opener <+: strip (front ++ rest))
    (hliteral : OutsideLiterals front rest) : IsMet comments none front rest
  | opened {block : BlockDelimiters} {front rest : List Char} (hblock : block ∈ comments.block)
    (hopener : block.opener <+: strip front) (houtside : IsOutside comments.block none front rest)
    (hquiet : ∀ block ∈ comments.block, ¬ block.opener <:+: rest) : IsMet comments none front rest
  | inside {closer front rest : List Char}
    (houtside : IsOutside comments.block (some closer) front rest)
    (hquiet : ∀ block ∈ comments.block, ¬ block.opener <:+: rest) :
    IsMet comments (some closer) front rest

/-- Where a mark is met in a line that does not begin with code, nothing is open behind the line. -/
theorem IsMet.readLine_eq_none {comments : CommentSyntax} (hc : comments.IsRegular)
    {pending : Pending} (hs : comments.IsState pending) {mark : List Char}
    (hmark : mark ∈ comments.line) {front text : List Char}
    (h : IsMet comments pending front (mark ++ text))
    (hcode : pending = none → ¬ BeginsWithCode comments (front ++ (mark ++ text))) :
    (readLine comments pending (front ++ (mark ++ text))).2 = none := by
  have hword := hc.line_word mark hmark
  cases h with
  | code hopener _ =>
    obtain ⟨other, hother, hp⟩ :=
      exists_mark_of_not_code (hword.strip_ne_nil front text) hopener (hcode rfl)
    rw [readLine_mark hc hopener hother hp]
  | @opened block _ _ hblock hopener houtside hquiet =>
    have hline : block.opener <+: strip (front ++ (mark ++ text)) :=
      (hc.opener_word block hblock).prefix_strip_append hopener _
    rw [readLine_opener hc hblock hline, houtside.scanBlocks_eq hc, scanBlocks_quiet hc hquiet]
  | inside houtside hquiet =>
    rw [readLine_inside hc hs, houtside.scanBlocks_eq hc, scanBlocks_quiet hc hquiet]

/-- In a line of code, a mark is met outside literals. -/
theorem IsMet.outsideLiterals {comments : CommentSyntax} (hc : comments.IsRegular)
    {front rest : List Char} (h : IsMet comments none front rest)
    (hcode : BeginsWithCode comments (front ++ rest)) : OutsideLiterals front rest := by
  cases h with
  | code _ hliteral => exact hliteral
  | @opened block _ _ hblock hopener _ _ =>
    exact absurd ((hc.opener_word block hblock).prefix_strip_append hopener _)
      (hcode.no_opener block hblock)

/-- **The text behind the mark of a line comment is inert.** It never plays a part in the kind of
the line, nor in the state behind it where the mark is met in both lines. -/
theorem text_behind_mark_is_inert (language : Language) {pending : Pending}
    (hs : language.syntaxOf.IsState pending) {mark : List Char}
    (hmark : mark ∈ language.syntaxOf.line) (front text text' : List Char) :
    (readLine language.syntaxOf pending (front ++ (mark ++ text))).1 =
        (readLine language.syntaxOf pending (front ++ (mark ++ text'))).1 ∧
      (IsMet language.syntaxOf pending front (mark ++ text) →
        IsMet language.syntaxOf pending front (mark ++ text') →
        (readLine language.syntaxOf pending (front ++ (mark ++ text))).2 =
          (readLine language.syntaxOf pending (front ++ (mark ++ text'))).2) := by
  have hc := language.isRegular_syntaxOf
  have hword := hc.line_word mark hmark
  have hne := hword.strip_ne_nil front
  cases pending with
  | some closer =>
    refine ⟨?_, fun h h' => ?_⟩
    · rw [readLine_inside hc hs, readLine_inside hc hs, if_neg (hne text), if_neg (hne text')]
    · rw [h.readLine_eq_none hc hs hmark nofun, h'.readLine_eq_none hc hs hmark nofun]
  | none =>
    by_cases hcode : BeginsWithCode language.syntaxOf (front ++ (mark ++ text))
    · have hcode' : BeginsWithCode language.syntaxOf (front ++ (mark ++ text')) :=
        hcode.congr hc hmark
      rw [readLine_code hc hcode, readLine_code hc hcode']
      refine ⟨rfl, fun h h' => ?_⟩
      rw [codePart_congr hc hmark (h.outsideLiterals hc hcode)
        (h'.outsideLiterals hc hcode')]
    · have hcode' : ¬ BeginsWithCode language.syntaxOf (front ++ (mark ++ text')) :=
        fun h => hcode (h.congr hc hmark)
      refine ⟨?_, fun h h' => ?_⟩
      · rw [kind_readLine_of_not_code hc (hne text) hcode,
          kind_readLine_of_not_code hc (hne text') hcode']
      · rw [h.readLine_eq_none hc hs hmark fun _ => hcode,
          h'.readLine_eq_none hc hs hmark fun _ => hcode']

/-- A line comment behind code, and one behind the end of a block comment. -/
theorem text_behind_mark_is_inert_in_lines :
    IsMet Language.cStyle.syntaxOf none "a = 1; ".toList "// b".toList ∧
      IsMet Language.cStyle.syntaxOf none "a = 1; ".toList "// /* b".toList ∧
      (readLine Language.cStyle.syntaxOf none "a = 1; // b".toList).2 =
        (readLine Language.cStyle.syntaxOf none "a = 1; // /* b".toList).2 ∧
      IsMet Language.cStyle.syntaxOf (some "*/".toList) "end */ ".toList "// b".toList ∧
      IsMet Language.cStyle.syntaxOf (some "*/".toList) "end */ ".toList "// c".toList ∧
      (readLine Language.cStyle.syntaxOf (some "*/".toList) "end */ // b".toList).2 =
        (readLine Language.cStyle.syntaxOf (some "*/".toList) "end */ // c".toList).2 := by
  have hmark : "//".toList ∈ Language.cStyle.syntaxOf.line := by decide
  have hinside : Language.cStyle.syntaxOf.IsState (some "*/".toList) :=
    CommentSyntax.isState_closer (show Language.slashStar ∈ _ by decide)
  have hcode : ∀ rest, (∀ block ∈ Language.cStyle.syntaxOf.block,
      ¬ block.opener <+: strip ("a = 1; ".toList ++ rest)) →
      IsMet Language.cStyle.syntaxOf none "a = 1; ".toList rest := fun rest hopener =>
    .code hopener (outsideLiterals_quoteless (by decide) rest)
  have hone := hcode "// b".toList (by decide)
  have hother := hcode "// /* b".toList (by decide)
  have houtside : ∀ rest, (∀ block ∈ Language.cStyle.syntaxOf.block,
      ¬ BeginsBefore block.opener (maskLiterals (" ".toList ++ rest)) 1) →
      ¬ BeginsBefore "*/".toList ("end ".toList ++ ("*/".toList ++ (" ".toList ++ rest))) 4 →
      IsOutside Language.cStyle.syntaxOf.block (some "*/".toList)
        ("end ".toList ++ ("*/".toList ++ " ".toList)) rest := fun rest hopener hcloser =>
    .closed hcloser (.code (outsideLiterals_quoteless (by decide) rest) hopener)
  have hone' : IsMet Language.cStyle.syntaxOf (some "*/".toList) "end */ ".toList "// b".toList :=
    .inside (houtside _ (by decide +kernel) (by decide)) (by decide)
  have hother' : IsMet Language.cStyle.syntaxOf (some "*/".toList) "end */ ".toList "// c".toList :=
    .inside (houtside _ (by decide +kernel) (by decide)) (by decide)
  exact ⟨hone, hother,
    (text_behind_mark_is_inert .cStyle (CommentSyntax.isState_none _) hmark "a = 1; ".toList
      " b".toList " /* b".toList).2 hone hother, hone', hother',
    (text_behind_mark_is_inert .cStyle hinside hmark "end */ ".toList
      " b".toList " c".toList).2 hone' hother'⟩

/-- A comment that is named in a line comment behind another one is opened. -/
theorem comment_opens_behind_mark :
    IsOutside Language.cStyle.syntaxOf.block (some "*/".toList) "end */ int a = 1; ".toList
        "// see /* above".toList ∧
      IsOutside Language.cStyle.syntaxOf.block (some "*/".toList) "end */ int a = 1; ".toList
        "// see above".toList ∧
      (readLine Language.cStyle.syntaxOf (some "*/".toList)
        "end */ int a = 1; // see /* above".toList).2 = some "*/".toList ∧
      (readLine Language.cStyle.syntaxOf (some "*/".toList)
        "end */ int a = 1; // see above".toList).2 = none := by
  have hc := Language.cStyle.isRegular_syntaxOf
  have hinside : Language.cStyle.syntaxOf.IsState (some "*/".toList) :=
    CommentSyntax.isState_closer (show Language.slashStar ∈ _ by decide)
  have hnamed : IsOutside Language.cStyle.syntaxOf.block (some "*/".toList)
      ("end ".toList ++ ("*/".toList ++ " int a = 1; ".toList)) "// see /* above".toList :=
    .closed (by decide) (.code (outsideLiterals_quoteless (by decide) _) (by decide +kernel))
  have hplain : IsOutside Language.cStyle.syntaxOf.block (some "*/".toList)
      ("end ".toList ++ ("*/".toList ++ " int a = 1; ".toList)) "// see above".toList :=
    .closed (by decide) (.code (outsideLiterals_quoteless (by decide) _) (by decide +kernel))
  have hopens : IsOutside Language.cStyle.syntaxOf.block none "// see ".toList "/* above".toList :=
    .code (outsideLiterals_quoteless (by decide) _) (by decide +kernel)
  refine ⟨hnamed, hplain, ?_, ?_⟩
  · rw [readLine_inside hc hinside]
    refine (hnamed.scanBlocks_eq hc).trans ((hopens.scanBlocks_eq hc).trans ?_)
    exact (scanBlocks_opener_append hc (show Language.slashStar ∈ _ by decide) " above".toList).trans
      (scanBlocks_open (by decide))
  · rw [readLine_inside hc hinside]
    exact (hplain.scanBlocks_eq hc).trans (scanBlocks_quiet hc (by decide))

end Provenance

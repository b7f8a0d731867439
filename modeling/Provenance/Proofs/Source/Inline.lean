import Provenance.Proofs.Source.Comment

/-!
# Proofs — Source — Inline

Block comments that open behind code in the same line. The comment goes on over the lines below
until one has its closer, unless its opener begins like a line comment
(`comment_behind_code_goes_on`). On its own line it is closed by a closer that is still seen when
literals are blanked and line comments are cut off, and by no other (`inline_comment_closes`).
-/

namespace Provenance

open Text Lexis

/-! ## Lines with an opener behind code -/

/-- A line, met outside comments, in which the first block comment opens behind code without
quotes. -/
structure OpensBehind (comments : CommentSyntax) (block : BlockDelimiters)
    (code rest : List Char) : Prop where
  block_mem : block ∈ comments.block
  has_code : strip code ≠ []
  quoteless : IsQuoteless code
  first : ∀ other ∈ comments.block,
    ¬ BeginsBefore other.opener (code ++ (block.opener ++ rest)) code.length

/-- What is left of a text behind an opener when its literals are blanked and its line comments are
cut off. -/
def seenBehind (comments : CommentSyntax) (opener rest : List Char) : List Char :=
  (codePart comments.line (opener ++ rest)).drop opener.length

theorem shows_codePart (marks : List (List Char)) (cs : List Char) :
    Shows (codePart marks cs) cs :=
  (shows_maskLiterals cs).of_isPrefix (foldl_before_isPrefix marks _)

theorem shows_seenBehind (comments : CommentSyntax) (opener rest : List Char) :
    Shows (seenBehind comments opener rest) rest := by
  have h := (shows_codePart comments.line (opener ++ rest)).drop opener.length
  rwa [List.drop_left] at h

namespace OpensBehind

variable {comments : CommentSyntax} {block : BlockDelimiters} {code rest : List Char}

theorem beginsWithCode (h : OpensBehind comments block code rest)
    (hmark : ∀ mark ∈ comments.line,
      ¬ BeginsBefore mark (code ++ (block.opener ++ rest)) code.length) :
    BeginsWithCode comments (code ++ (block.opener ++ rest)) where
  not_blank := strip_append_ne_nil h.has_code _
  no_opener other hother hp := h.first other hother (beginsBefore_of_prefix_strip h.has_code hp)
  no_mark mark hm hp := hmark mark hm (beginsBefore_of_prefix_strip h.has_code hp)

theorem exists_mask (h : OpensBehind comments block code rest) (hc : comments.IsRegular) :
    ∃ view, maskLiterals (block.opener ++ rest) = block.opener ++ view ∧
      maskLiterals (code ++ (block.opener ++ rest)) = code ++ (block.opener ++ view) := by
  obtain ⟨view, hview⟩ := (hc.opener_seen block h.block_mem).exists_mask rest
  exact ⟨view, hview, by rw [maskLiterals_quoteless_append h.quoteless, hview]⟩

/-- Unless it begins like the opener, no line comment begins before the opener ends. -/
theorem not_beginsBefore (hc : comments.IsRegular) (hblock : block ∈ comments.block)
    (hfront : ∀ mark ∈ comments.line,
      ¬ BeginsBefore mark (code ++ (block.opener ++ rest)) code.length)
    (hopener : ∀ mark ∈ comments.line, ¬ mark <+: block.opener) :
    ∀ mark ∈ comments.line,
      ¬ BeginsBefore mark (code ++ (block.opener ++ rest)) (code.length + block.opener.length) := by
  intro mark hm hb
  rcases hb.of_append with hcode | hwithin
  · exact hfront mark hm hcode
  · exact hopener mark hm (hc.prefix_of_beginsBefore hblock hm hwithin)

/-- Where no line comment begins in front of the opener or in it, the opener is seen. -/
theorem codePart_eq (h : OpensBehind comments block code rest) (hc : comments.IsRegular)
    (hmark : ∀ mark ∈ comments.line,
      ¬ BeginsBefore mark (code ++ (block.opener ++ rest)) (code.length + block.opener.length)) :
    codePart comments.line (code ++ (block.opener ++ rest)) =
      code ++ (block.opener ++ seenBehind comments block.opener rest) := by
  obtain ⟨view, hopener, hline⟩ := h.exists_mask hc
  have hclear : ∀ mark ∈ comments.line,
      ¬ BeginsBefore mark (code ++ (block.opener ++ view)) (code.length + block.opener.length) := by
    intro mark hm hb
    have hshows := shows_maskLiterals (code ++ (block.opener ++ rest))
    rw [hline] at hshows
    exact hmark mark hm (hshows.beginsBefore (hc.line_word mark hm).space_not_mem hb)
  have hseen : codePart comments.line (block.opener ++ rest) = block.opener ++
      comments.line.foldl (fun cs mark => before mark cs) view := by
    rw [codePart, hopener]
    exact foldl_before_append fun mark hm hb => hclear mark hm (hb.behind code)
  rw [seenBehind, hseen, List.drop_left, codePart, hline, ← List.append_assoc,
    foldl_before_append (by simpa only [List.append_assoc, List.length_append] using hclear),
    List.append_assoc]

/-- **The comment is open behind its opener**, and the rest of the line is scanned for its closer as
far as it is seen. -/
theorem readLine_eq (h : OpensBehind comments block code rest) (hc : comments.IsRegular)
    (hmark : ∀ mark ∈ comments.line,
      ¬ BeginsBefore mark (code ++ (block.opener ++ rest)) (code.length + block.opener.length)) :
    readLine comments none (code ++ (block.opener ++ rest)) =
      (.code, scanBlocks comments.block (some block.closer)
        (seenBehind comments block.opener rest)) := by
  have hfront : ∀ mark ∈ comments.line,
      ¬ BeginsBefore mark (code ++ (block.opener ++ rest)) code.length :=
    fun mark hm hb => hmark mark hm (hb.mono (Nat.le_add_right _ _))
  have hpart := h.codePart_eq hc hmark
  have hshows : Shows (maskLiterals (codePart comments.line (code ++ (block.opener ++ rest))))
      (code ++ (block.opener ++ rest)) := (shows_maskLiterals _).trans (shows_codePart _ _)
  rw [hpart] at hshows
  rw [readLine_code hc (h.beginsWithCode hfront), hpart,
    scanBlocks_append (outsideLiterals_quoteless h.quoteless _) fun other hother hb =>
      h.first other hother
        (hshows.beginsBefore (hc.opener_word other hother).space_not_mem hb),
    scanBlocks_opener_append hc h.block_mem]

/-- An opener that begins like a line comment is cut off as one. -/
theorem readLine_of_mark (h : OpensBehind comments block code rest) (hc : comments.IsRegular)
    (hfront : ∀ mark ∈ comments.line,
      ¬ BeginsBefore mark (code ++ (block.opener ++ rest)) code.length)
    (hmark : ∃ mark ∈ comments.line, mark <+: block.opener) :
    readLine comments none (code ++ (block.opener ++ rest)) = (.code, none) := by
  obtain ⟨view, _, hline⟩ := h.exists_mask hc
  have hcut : IsCut comments.line code (block.opener ++ view) := by
    constructor
    · intro mark hm hb
      have hshows := shows_maskLiterals (code ++ (block.opener ++ rest))
      rw [hline] at hshows
      exact hfront mark hm (hshows.beginsBefore (hc.line_word mark hm).space_not_mem hb)
    · obtain ⟨mark, hm, hp⟩ := hmark
      exact .inr ⟨mark, hm, hp.trans (List.prefix_append _ _)⟩
  have hpart : codePart comments.line (code ++ (block.opener ++ rest)) = code := by
    rw [codePart, hline]
    exact foldl_before_eq hc.line_apart hcut
  rw [readLine_code hc (h.beginsWithCode hfront), hpart, scanBlocks_quiet hc]
  intro other hother hi
  exact h.first other hother (.of_isInfix hi other.opener_ne _)

end OpensBehind

/-! ## The lines below -/

/-- **A comment stays open over lines without its closer.** -/
theorem stateBehind_inside {comments : CommentSyntax} (hc : comments.IsRegular)
    {closer : List Char} (hs : comments.IsState (some closer)) {raws : List (List Char)}
    (h : ∀ raw ∈ raws, ¬ closer <:+: raw) :
    stateBehind comments (some closer) raws = some closer := by
  induction raws with
  | nil => rfl
  | cons raw raws ih =>
    obtain ⟨hraw, hraws⟩ := List.forall_mem_cons.1 h
    have hbehind : (readLine comments (some closer) raw).2 = some closer := by
      rw [readLine_inside hc hs, scanBlocks_open hraw]
    show stateBehind comments (readLine comments (some closer) raw).2 raws = some closer
    rw [hbehind, ih hraws]

/-- **A block comment that opens behind code goes on until it is closed.** The lines below are
comments, but for blank ones, up to the first that has the closer. Only an opener that begins like a
line comment is not seen, so that nothing is open behind its line. -/
theorem comment_behind_code_goes_on (language : Language) {block : BlockDelimiters}
    {code comment : List Char} (h : OpensBehind language.syntaxOf block code comment)
    (hmark : ∀ mark ∈ language.syntaxOf.line,
      ¬ BeginsBefore mark (code ++ (block.opener ++ comment)) code.length)
    (hcomment : ¬ block.closer <:+: comment) :
    readLine language.syntaxOf none (code ++ (block.opener ++ comment)) =
        (.code, if language = .lua then none else some block.closer) ∧
      (language ≠ .lua → ∀ {source : List Char} {front between after : List (List Char)}
        {raw : List Char},
        lines source =
          front ++ (code ++ (block.opener ++ comment)) :: (between ++ raw :: after) →
        stateBehind language.syntaxOf none front = none →
        (∀ line ∈ between, ¬ block.closer <:+: line) →
        kindAt? (sourceLines language source) (front.length + between.length + 2) =
          some (if strip raw = [] then .blank else .comment)) := by
  have hc := language.isRegular_syntaxOf
  have hlua := Language.exists_prefix_opener_iff h.block_mem
  by_cases hlanguage : language = .lua
  · rw [h.readLine_of_mark hc hmark (hlua.2 hlanguage), if_pos hlanguage]
    exact ⟨rfl, fun hne => absurd hlanguage hne⟩
  have hopener : ∀ mark ∈ language.syntaxOf.line, ¬ mark <+: block.opener :=
    fun mark hm hp => hlanguage (hlua.1 ⟨mark, hm, hp⟩)
  have hseen : ¬ block.closer <:+: seenBehind language.syntaxOf block.opener comment := fun hi =>
    hcomment ((shows_seenBehind _ _ _).isInfix
      (hc.closer_word block h.block_mem).space_not_mem hi)
  have hline : readLine language.syntaxOf none (code ++ (block.opener ++ comment)) =
      (.code, some block.closer) := by
    rw [h.readLine_eq hc (OpensBehind.not_beginsBefore hc h.block_mem hmark hopener),
      scanBlocks_open hseen]
  refine ⟨by rw [hline, if_neg hlanguage], ?_⟩
  intro _ source front between after raw hsource hfront hbetween
  have hinside := CommentSyntax.isState_closer h.block_mem
  rw [kindAt?_below language hsource hfront, hline, stateBehind_inside hc hinside hbetween,
    readLine_inside hc hinside]

/-- A comment behind code, over a blank line and two others. -/
theorem comment_behind_code_goes_on_over_lines :
    OpensBehind Language.cStyle.syntaxOf Language.slashStar "a = 1; ".toList " one".toList ∧
      kindAt? (sourceLines .cStyle "a = 1; /* one\n\ntwo\nend */ b = 2;".toList) 2 =
        some .blank ∧
      kindAt? (sourceLines .cStyle "a = 1; /* one\n\ntwo\nend */ b = 2;".toList) 3 =
        some .comment ∧
      kindAt? (sourceLines .cStyle "a = 1; /* one\n\ntwo\nend */ b = 2;".toList) 4 =
        some .comment := by
  have hopens : OpensBehind Language.cStyle.syntaxOf Language.slashStar
      "a = 1; ".toList " one".toList := ⟨by decide, by decide, by decide, by decide⟩
  have hlines : lines "a = 1; /* one\n\ntwo\nend */ b = 2;".toList =
      ["a = 1; ".toList ++ (Language.slashStar.opener ++ " one".toList), [], "two".toList,
        "end */ b = 2;".toList] := by decide +kernel
  obtain ⟨_, hbelow⟩ :=
    comment_behind_code_goes_on .cStyle hopens (by decide) (by decide)
  refine ⟨hopens, ?_, ?_, ?_⟩
  · exact hbelow (by decide) (show lines _ = [] ++ _ :: ([] ++ [] :: _) from hlines) rfl
      (by decide)
  · exact hbelow (by decide) (show lines _ = [] ++ _ :: ([[]] ++ _ :: _) from hlines) rfl
      (by decide)
  · exact hbelow (by decide) (show lines _ = [] ++ _ :: ([[], "two".toList] ++ _ :: _) from hlines)
      rfl (by decide)

/-- Behind code, a long comment of Lua ends with its line. -/
theorem lua_comment_behind_code_ends :
    OpensBehind Language.lua.syntaxOf ⟨"--[[".toList, "]]".toList, by decide, by decide⟩
        "x = 1 ".toList " note".toList ∧
      ¬ BeginsBefore "--".toList ("x = 1 ".toList ++ ("--[[".toList ++ " note".toList)) 6 ∧
      ¬ "]]".toList <:+: " note".toList ∧
      kindAt? (sourceLines .lua "x = 1 --[[ note\nstill a note\n]]\ny = 2".toList) 2 =
        some .code := by
  have hc := Language.lua.isRegular_syntaxOf
  have hopens : OpensBehind Language.lua.syntaxOf
      ⟨"--[[".toList, "]]".toList, by decide, by decide⟩ "x = 1 ".toList " note".toList :=
    ⟨by decide, by decide, by decide, by decide⟩
  have hlines : lines "x = 1 --[[ note\nstill a note\n]]\ny = 2".toList =
      [] ++ ("x = 1 ".toList ++ ("--[[".toList ++ " note".toList)) ::
        ([] ++ "still a note".toList :: ["]]".toList, "y = 2".toList]) := by decide +kernel
  have hcode : (readLine Language.lua.syntaxOf none "still a note".toList).1 = .code :=
    congrArg Prod.fst (readLine_code hc ⟨by decide, by decide, by decide⟩)
  have hline := hopens.readLine_of_mark hc (by decide) ⟨"--".toList, by decide, by decide⟩
  have hkind := kindAt?_below .lua hlines rfl
  rw [hline] at hkind
  exact ⟨hopens, by decide, by decide, hkind.trans (congrArg some hcode)⟩

/-! ## Comments that are closed on their line -/

/-- A closer is still seen in the text behind its opener. -/
def SeesCloser (comments : CommentSyntax) (block : BlockDelimiters) (text : List Char) : Prop :=
  block.closer <:+: seenBehind comments block.opener text

instance (comments : CommentSyntax) (block : BlockDelimiters) (text : List Char) :
    Decidable (SeesCloser comments block text) :=
  inferInstanceAs (Decidable (block.closer <:+: seenBehind comments block.opener text))

/-- In a comment without quotes and without line comments the closer is seen. -/
theorem seesCloser_of_quoteless {comments : CommentSyntax} (hc : comments.IsRegular)
    {block : BlockDelimiters} {text : List Char} {i : Nat} (hclose : find? block.closer text = some i)
    (hquote : IsQuoteless (block.opener ++ text.take (i + block.closer.length)))
    (hmark : ∀ mark ∈ comments.line, ¬ BeginsBefore mark (block.opener ++ text)
      (block.opener.length + (i + block.closer.length))) :
    SeesCloser comments block text := by
  obtain ⟨comment, rest, rfl, rfl⟩ := eq_append_of_find? hclose
  rw [← List.length_append, List.take_left] at hquote
  rw [← List.length_append, ← List.length_append, ← List.append_assoc] at hmark
  have hmask := maskLiterals_quoteless_append hquote rest
  have hshows := shows_maskLiterals (block.opener ++ (comment ++ block.closer) ++ rest)
  rw [hmask] at hshows
  have hclear : ∀ mark ∈ comments.line,
      ¬ BeginsBefore mark (block.opener ++ (comment ++ block.closer) ++ maskLiterals rest)
        (block.opener ++ (comment ++ block.closer)).length := fun mark hm hb =>
    hmark mark hm (hshows.beginsBefore (hc.line_word mark hm).space_not_mem hb)
  rw [SeesCloser, seenBehind, ← List.append_assoc, codePart, hmask, foldl_before_append hclear,
    List.append_assoc, List.drop_left, List.append_assoc]
  exact (List.prefix_append _ _).isInfix.trans (List.suffix_append _ _).isInfix

/-- As far as it is seen, a text with a closer and no opener behind it leaves nothing open. -/
theorem scanBlocks_of_shows {comments : CommentSyntax} (hc : comments.IsRegular)
    {block : BlockDelimiters} (hblock : block ∈ comments.block) {view text : List Char}
    (hshows : Shows view text) {i : Nat} (hclose : find? block.closer text = some i)
    (hrest : ∀ other ∈ comments.block, ¬ other.opener <:+: text.drop (i + block.closer.length)) :
    scanBlocks comments.block (some block.closer) view =
      if block.closer <:+: view then none else some block.closer := by
  cases hfound : find? block.closer view with
  | none =>
    have hopen := find?_eq_none_iff.1 hfound
    rw [scanBlocks_open hopen, if_neg hopen]
  | some j =>
    have hsees : block.closer <:+: view := by
      by_contra hopen
      rw [find?_eq_none_iff.2 hopen] at hfound
      cases hfound
    -- what is found is the first closer of the text or one behind it
    have hle : i ≤ j := by
      by_contra hlt
      exact (find?_eq_some_iff.1 hclose).2 ⟨j, Nat.lt_of_not_le hlt, (hshows.drop j).isPrefix
        (hc.closer_word block hblock).space_not_mem (find?_eq_some_iff.1 hfound).1⟩
    have hsuffix : text.drop (j + block.closer.length) <:+ text.drop (i + block.closer.length) :=
      List.drop_suffix_drop_left text (Nat.add_le_add_right hle _)
    rw [scanBlocks_close hfound, if_pos hsees]
    apply scanBlocks_quiet hc
    intro other hother hopens
    exact hrest other hother (((hshows.drop _).isInfix
      (hc.opener_word other hother).space_not_mem hopens).trans hsuffix.isInfix)

/-- **A comment that is closed on its line leaves nothing open, if the closer is seen.** Otherwise
the lines below belong to it. It is seen if the comment has no quotes and no line comment in it. -/
theorem inline_comment_closes (language : Language) {block : BlockDelimiters}
    {code text : List Char} (h : OpensBehind language.syntaxOf block code text)
    (hmark : ∀ mark ∈ language.syntaxOf.line,
      ¬ BeginsBefore mark (code ++ (block.opener ++ text)) (code.length + block.opener.length))
    {i : Nat} (hclose : find? block.closer text = some i)
    (hrest : ∀ other ∈ language.syntaxOf.block,
      ¬ other.opener <:+: text.drop (i + block.closer.length)) :
    readLine language.syntaxOf none (code ++ (block.opener ++ text)) =
        (.code, if SeesCloser language.syntaxOf block text then none else some block.closer) ∧
      (IsQuoteless (block.opener ++ text.take (i + block.closer.length)) →
        (∀ mark ∈ language.syntaxOf.line, ¬ BeginsBefore mark (block.opener ++ text)
          (block.opener.length + (i + block.closer.length))) →
        SeesCloser language.syntaxOf block text) ∧
      ∀ {source : List Char} {front after : List (List Char)} {next : List Char},
        lines source = front ++ (code ++ (block.opener ++ text)) :: next :: after →
        stateBehind language.syntaxOf none front = none →
        BeginsWithCode language.syntaxOf next →
        kindAt? (sourceLines language source) (front.length + 2) =
          some (if SeesCloser language.syntaxOf block text then .code else .comment) := by
  have hc := language.isRegular_syntaxOf
  have hline : readLine language.syntaxOf none (code ++ (block.opener ++ text)) =
      (.code, if SeesCloser language.syntaxOf block text then none else some block.closer) := by
    rw [h.readLine_eq hc hmark,
      scanBlocks_of_shows hc h.block_mem (shows_seenBehind _ _ _) hclose hrest]
    rfl
  refine ⟨hline, seesCloser_of_quoteless hc hclose, ?_⟩
  intro source front after next hsource hfront hnext
  have hkind := kindAt?_below language
    (show lines source = front ++ _ :: ([] ++ next :: after) from hsource) hfront
  rw [hline] at hkind
  refine hkind.trans (congrArg some ?_)
  show (readLine language.syntaxOf
    (if SeesCloser language.syntaxOf block text then none else some block.closer) next).1 = _
  by_cases hsees : SeesCloser language.syntaxOf block text
  · rw [if_pos hsees, if_pos hsees, readLine_code hc hnext]
  · rw [if_neg hsees, if_neg hsees,
      readLine_inside hc (CommentSyntax.isState_closer h.block_mem), if_neg hnext.not_blank]

/-- A comment within a line of code, and a line of code below. -/
theorem inline_comment_closes_in_code :
    OpensBehind Language.cStyle.syntaxOf Language.slashStar "a = 1; ".toList
        " one */ b = 2;".toList ∧
      kindAt? (sourceLines .cStyle "a = 1; /* one */ b = 2;\nc = 3;".toList) 2 = some .code := by
  have hopens : OpensBehind Language.cStyle.syntaxOf Language.slashStar "a = 1; ".toList
      " one */ b = 2;".toList := ⟨by decide, by decide, by decide, by decide⟩
  have hlines : lines "a = 1; /* one */ b = 2;\nc = 3;".toList =
      ["a = 1; ".toList ++ (Language.slashStar.opener ++ " one */ b = 2;".toList),
        "c = 3;".toList] := by decide +kernel
  obtain ⟨_, hplain, hbelow⟩ := inline_comment_closes .cStyle hopens (by decide)
    (show find? _ _ = some 5 by decide) (by decide)
  have hsees : SeesCloser Language.cStyle.syntaxOf Language.slashStar " one */ b = 2;".toList :=
    hplain (by decide) (by decide)
  have hkind := hbelow (show lines _ = [] ++ _ :: _ :: [] from hlines) rfl
    ⟨by decide, by decide, by decide⟩
  rw [if_pos hsees] at hkind
  exact ⟨hopens, hkind⟩

/-- A comment with a web address is not seen to be closed. -/
theorem inline_comment_with_address_stays_open :
    OpensBehind Language.cStyle.syntaxOf Language.slashStar "int a = 1; ".toList
        " see http://example.com */".toList ∧
      ¬ BeginsBefore "//".toList
        ("int a = 1; ".toList ++ (Language.slashStar.opener ++ " see http://example.com */".toList))
        ("int a = 1; ".toList.length + Language.slashStar.opener.length) ∧
      find? Language.slashStar.closer " see http://example.com */".toList = some 24 ∧
      BeginsWithCode Language.cStyle.syntaxOf "int b = 2;".toList ∧
      kindAt? (sourceLines .cStyle
        "int a = 1; /* see http://example.com */\nint b = 2;".toList) 2 = some .comment := by
  have hc := Language.cStyle.isRegular_syntaxOf
  have hopens : OpensBehind Language.cStyle.syntaxOf Language.slashStar "int a = 1; ".toList
      " see http://example.com */".toList := ⟨by decide, by decide, by decide, by decide⟩
  have hlines : lines "int a = 1; /* see http://example.com */\nint b = 2;".toList =
      [] ++ ("int a = 1; ".toList ++
        (Language.slashStar.opener ++ " see http://example.com */".toList)) ::
        ([] ++ "int b = 2;".toList :: []) := by decide +kernel
  have hunseen : ¬ SeesCloser Language.cStyle.syntaxOf Language.slashStar
      " see http://example.com */".toList := by decide +kernel
  have hcomment : (readLine Language.cStyle.syntaxOf (some Language.slashStar.closer)
      "int b = 2;".toList).1 = .comment :=
    congrArg Prod.fst (readLine_inside hc (CommentSyntax.isState_closer hopens.block_mem) _)
  have hline := hopens.readLine_eq hc (by decide)
  rw [scanBlocks_open hunseen] at hline
  have hkind := kindAt?_below .cStyle hlines rfl
  rw [hline] at hkind
  exact ⟨hopens, by decide, by decide +kernel, ⟨by decide, by decide, by decide⟩,
    hkind.trans (congrArg some hcomment)⟩

end Provenance

import Mathlib
import Provenance.Display.Markup
import Provenance.Display.Tag

/-!
# Proofs — Display — Template

Marked-up texts that are put together of tags, of words, and of texts that are given. The console
takes brackets for tags by what stands in and before them (`HasTag`), whoever wrote them. So the
tags of a text are those of its template exactly where no given text has a tag of its own or escapes
the tag behind it (`tags_source_iff`).
-/

namespace Provenance.Display

/-! ## Tags -/

/-- A text may stand between the brackets of a tag. -/
structure IsTagContent (content : List Char) : Prop where
  opens : content.head?.any opensTag = true
  not_opened : '[' ∉ content
  not_closed : ']' ∉ content

theorem isTagContent_slash {content : List Char} (h : IsTagContent content) :
    IsTagContent ('/' :: content) where
  opens := rfl
  not_opened := List.not_mem_cons_of_ne_of_not_mem (by decide) h.not_opened
  not_closed := List.not_mem_cons_of_ne_of_not_mem (by decide) h.not_closed

/-- A bracket behind a text is escaped: the text ends in an odd number of backslashes. -/
def EndsEscaping (cs : List Char) : Prop := Odd (cs.rtakeWhile (· == '\\')).length

/-- A text has a tag: a bracket that is not escaped, and the next closing one. -/
def HasTag (cs : List Char) (tag : Tag) : Prop :=
  ∃ front back, cs = front ++ '[' :: (tag.content ++ ']' :: back) ∧ front.length = tag.place ∧
    ¬ EndsEscaping front ∧ IsTagContent tag.content

/-! ### Reading tags -/

variable {cs front back content : List Char} {place : Nat} {escaped : Bool} {tag : Tag}

theorem untilClosed?_eq_some :
    untilClosed? cs = some content ↔
      ∃ back, cs = content ++ ']' :: back ∧ '[' ∉ content ∧ ']' ∉ content := by
  induction cs generalizing content with
  | nil => simp [untilClosed?]
  | cons c cs ih =>
    rw [untilClosed?]
    split_ifs with hclosed hopened
    · subst hclosed
      cases content with
      | nil => simp
      | cons d content => grind
    · subst hopened
      cases content <;> grind
    · simp only [Option.map_eq_some_iff, ih]
      cases content <;> grind

theorem content?_eq_some :
    content? cs = some content ↔ IsTagContent content ∧ ∃ back, cs = content ++ ']' :: back := by
  rw [content?, Option.filter_eq_some_iff, untilClosed?_eq_some]
  exact ⟨fun ⟨⟨back, hcs, hopened, hclosed⟩, hopens⟩ => ⟨⟨hopens, hopened, hclosed⟩, back, hcs⟩,
    fun ⟨h, back, hcs⟩ => ⟨⟨back, hcs, h.not_opened, h.not_closed⟩, h.opens⟩⟩

theorem escapedBehind_append :
    escapedBehind escaped (front ++ back) = escapedBehind (escapedBehind escaped front) back :=
  List.foldl_append

/-- The backslashes are counted by turns. -/
theorem escapedBehind_iff : escapedBehind false cs = true ↔ EndsEscaping cs := by
  induction cs using List.reverseRecOn with
  | nil => simp [escapedBehind, EndsEscaping]
  | append_singleton cs c ih =>
    rw [escapedBehind_append, EndsEscaping, List.rtakeWhile_concat]
    by_cases hc : c = '\\'
    · rw [if_pos (by simpa using hc), List.length_append, List.length_singleton, Nat.odd_add_one,
        ← EndsEscaping, ← ih]
      simp [hc, escapedBehind]
    · simp [hc, escapedBehind]

theorem mem_tagsFrom :
    tag ∈ tagsFrom place escaped cs ↔
      ∃ front back, cs = front ++ '[' :: (tag.content ++ ']' :: back) ∧
        place + front.length = tag.place ∧ escapedBehind escaped front = false ∧
        IsTagContent tag.content := by
  induction cs generalizing place escaped with
  | nil => simp [tagsFrom]
  | cons c cs ih =>
    rw [tagsFrom, List.mem_append, ih]
    constructor
    · rintro (h | ⟨front, back, rfl, hplace, hescaped, hcontent⟩)
      · split_ifs at h with hc
        · obtain ⟨rfl, rfl⟩ := hc
          obtain ⟨content, hfound, rfl⟩ := List.mem_map.1 h
          obtain ⟨hcontent, back, rfl⟩ := content?_eq_some.1 (Option.mem_toList.1 hfound)
          exact ⟨[], back, rfl, rfl, rfl, hcontent⟩
        · exact absurd h List.not_mem_nil
      · exact ⟨c :: front, back, rfl, by rw [List.length_cons]; omega, hescaped, hcontent⟩
    · rintro ⟨front, back, hcs, hplace, hescaped, hcontent⟩
      cases front with
      | nil =>
        obtain ⟨rfl, rfl⟩ := List.cons.inj hcs
        rw [if_pos ⟨rfl, hescaped⟩]
        exact .inl (List.mem_map.2 ⟨tag.content,
          Option.mem_toList.2 (content?_eq_some.2 ⟨hcontent, back, rfl⟩), by cases tag; simp_all⟩)
      | cons d front =>
        obtain ⟨rfl, rfl⟩ := List.cons.inj hcs
        rw [List.length_cons] at hplace
        exact .inr ⟨front, back, rfl, by omega, hescaped, hcontent⟩

/-- The reader finds the tags of a text, and only these. -/
theorem mem_tags {s : String} : tag ∈ tags s ↔ HasTag s.toList tag := by
  simp only [tags, mem_tagsFrom, HasTag, Nat.zero_add, ← escapedBehind_iff, Bool.not_eq_true]

/-- A tag at each end of a word, one that is escaped, one that begins wrongly, one in another. -/
example : tags "[b]x[/b] \\[i] [B] [u[s]" = [⟨0, ['b']⟩, ⟨4, ['/', 'b']⟩, ⟨20, ['s']⟩] := by
  decide +kernel

/-! ### Tags of a text in pieces -/

/-- No bracket and no backslash is in a text. -/
def IsPlain (cs : List Char) : Prop := cs.all (fun c => c != '[' && c != ']' && c != '\\') = true

instance : Decidable (IsPlain cs) := inferInstanceAs (Decidable (_ = true))

theorem isPlain_append : IsPlain (front ++ back) ↔ IsPlain front ∧ IsPlain back := by
  rw [IsPlain, List.all_append, Bool.and_eq_true, IsPlain, IsPlain]

theorem le_place_of_mem_tagsFrom (h : tag ∈ tagsFrom place escaped cs) :
    place ≤ tag.place ∧ tag.place < place + cs.length := by
  obtain ⟨front, back, rfl, hplace, -, -⟩ := mem_tagsFrom.1 h
  rw [List.length_append, List.length_cons]
  omega

theorem tagsFrom_eq_nil_iff : tagsFrom place escaped cs = [] ↔ tagsFrom 0 escaped cs = [] := by
  suffices ∀ i j, tagsFrom i escaped cs = [] → tagsFrom j escaped cs = [] from
    ⟨this place 0, this 0 place⟩
  intro i j h
  refine List.eq_nil_iff_forall_not_mem.2 fun tag htag => ?_
  obtain ⟨front, back, hcs, hplace, hescaped, hcontent⟩ := mem_tagsFrom.1 htag
  have hmem : (⟨i + front.length, tag.content⟩ : Tag) ∈ tagsFrom i escaped cs :=
    mem_tagsFrom.2 ⟨front, back, hcs, rfl, hescaped, hcontent⟩
  exact List.not_mem_nil (h ▸ hmem)

theorem untilClosed?_append (h : untilClosed? back = none) :
    untilClosed? (front ++ back) = untilClosed? front := by
  induction front with
  | nil => rwa [List.nil_append, untilClosed?]
  | cons c front ih => rw [List.cons_append, untilClosed?, untilClosed?, ih]

/-- A text in front of one that closes no tag keeps its tags. -/
theorem tagsFrom_append (h : untilClosed? back = none) :
    tagsFrom place escaped (front ++ back) =
      tagsFrom place escaped front ++
        tagsFrom (place + front.length) (escapedBehind escaped front) back := by
  induction front generalizing place escaped with
  | nil => simp [tagsFrom, escapedBehind]
  | cons c front ih =>
    rw [List.cons_append, tagsFrom, tagsFrom, ih, content?, untilClosed?_append h, ← content?,
      List.append_assoc, List.length_cons, Nat.add_assoc, Nat.add_comm 1, ← escapedBehind_append,
      List.singleton_append]

theorem tagsFrom_append_of_not_mem (h : '[' ∉ front) :
    tagsFrom place escaped (front ++ back) =
      tagsFrom (place + front.length) (escapedBehind escaped front) back := by
  induction front generalizing place escaped with
  | nil => rfl
  | cons c front ih =>
    obtain ⟨hc, hfront⟩ := not_or.1 (mt List.mem_cons.2 h)
    rw [List.cons_append, tagsFrom, if_neg fun hopens => hc hopens.1.symm, List.nil_append,
      ih hfront, List.length_cons, Nat.add_assoc, Nat.add_comm 1, ← escapedBehind_append,
      List.singleton_append]

theorem tagsFrom_tag (h : IsTagContent content) :
    tagsFrom place false ('[' :: (content ++ ']' :: back)) =
      ⟨place, content⟩ :: tagsFrom (place + (content.length + 2)) false back := by
  have hrest : '[' ∉ content ++ [']'] := by
    rw [List.mem_append, not_or]
    exact ⟨h.not_opened, by decide⟩
  rw [tagsFrom, if_pos ⟨rfl, rfl⟩, content?_eq_some.2 ⟨h, back, rfl⟩, List.append_cons,
    tagsFrom_append_of_not_mem hrest, escapedBehind_append]
  simp [escapedBehind, Nat.add_assoc, Nat.add_comm 1]

theorem untilClosed?_append_eq_none (h : IsPlain front) :
    untilClosed? (front ++ back) = none ↔ untilClosed? back = none := by
  induction front with
  | nil => rfl
  | cons c front ih =>
    rw [IsPlain, List.all_cons] at h
    simp_all [untilClosed?, IsPlain]

theorem not_mem_of_isPlain (h : IsPlain cs) : '[' ∉ cs := fun hmem => by
  simpa using List.all_eq_true.1 h '[' hmem

theorem escapedBehind_of_isPlain (h : IsPlain cs) (hne : escaped = true → cs ≠ []) :
    escapedBehind escaped cs = false := by
  induction cs using List.reverseRecOn with
  | nil => simpa [escapedBehind] using hne
  | append_singleton cs c =>
    rw [escapedBehind_append]
    simp_all [escapedBehind, IsPlain]

/-! ## Templates -/

/-- A piece of a marked-up text. -/
inductive Span where
  /-- A tag of the program. -/
  | tag (content : String)
  /-- Words of the program. -/
  | words (s : String)
  /-- A text that is given. -/
  | given (s : String)
  deriving DecidableEq

namespace Span

/-- What is printed of a piece. -/
def text : Span → String
  | .tag content => "[" ++ content ++ "]"
  | .words s => s
  | .given s => s

/-- The tag that the program writes with a piece at a place. -/
def written (place : Nat) : Span → List Tag
  | .tag content => [⟨place, content.toList⟩]
  | .words _ => []
  | .given _ => []

end Span

/-- A marked-up text in pieces. -/
abbrev Template := List Span

namespace Template

/-- The marked-up text. -/
def source : Template → String
  | [] => ""
  | span :: t => span.text ++ source t

/-- The tags that the program writes in a text that begins at a place. -/
def writtenFrom (place : Nat) : Template → List Tag
  | [] => []
  | span :: t => span.written place ++ writtenFrom (place + span.text.toList.length) t

/-- The tags that the program writes. -/
def written (t : Template) : List Tag := t.writtenFrom 0

/-- The given texts leave the tags of the program alone: none has a tag of its own, and none escapes
a tag that stands directly behind it. -/
structure Harmless (t : Template) : Prop where
  tags_eq_nil : ∀ s, .given s ∈ t → tags s = []
  not_escaping : ∀ s content, [.given s, .tag content] <:+: t → ¬ EndsEscaping s.toList

/-- Tags and words are as they should be, and there is a tag between any two given texts, or behind
the first (`behindGiven`) in front of which one stands. -/
def WellFormed (behindGiven : Bool) : Template → Prop
  | [] => True
  | .tag content :: t => IsTagContent content.toList ∧ WellFormed false t
  | .words s :: t =>
    IsPlain s.toList ∧ (behindGiven = true → s.toList ≠ []) ∧ WellFormed behindGiven t
  | .given _ :: t => behindGiven = false ∧ WellFormed true t

variable {t u : Template} {behindGiven : Bool}

theorem harmless_nil : Harmless [] := ⟨by simp, by simp⟩

theorem harmless_cons_of_ne {span : Span} (hspan : ∀ s, span ≠ .given s) :
    Harmless (span :: t) ↔ Harmless t := by
  refine ⟨fun h => ⟨fun s hs => h.tags_eq_nil s (List.mem_cons_of_mem _ hs),
    fun s content hs => h.not_escaping s content (List.infix_cons hs)⟩,
    fun h => ⟨fun s hs => ?_, fun s content hs => ?_⟩⟩
  · obtain heq | hs := List.mem_cons.1 hs
    · exact absurd heq.symm (hspan s)
    · exact h.tags_eq_nil s hs
  · obtain hs | hs := List.infix_cons_iff.1 hs
    · exact absurd (List.cons_prefix_cons.1 hs).1.symm (hspan s)
    · exact h.not_escaping s content hs

theorem harmless_given {s : String} :
    Harmless (.given s :: t) ↔
      tags s = [] ∧ (EndsEscaping s.toList → ∀ content, t.head? ≠ some (.tag content)) ∧
        Harmless t := by
  refine ⟨fun h => ⟨h.tags_eq_nil s List.mem_cons_self, fun hs content hhead => ?_,
    fun s hs => h.tags_eq_nil s (List.mem_cons_of_mem _ hs),
    fun s content hs => h.not_escaping s content (List.infix_cons hs)⟩,
    fun ⟨htags, hhead, h⟩ => ⟨fun s' hs => ?_, fun s' content hs => ?_⟩⟩
  · obtain ⟨t, rfl⟩ := List.head?_eq_some_iff.1 hhead
    exact h.not_escaping s content (List.prefix_append [_, _] t).isInfix hs
  · obtain heq | hs := List.mem_cons.1 hs
    · cases heq
      exact htags
    · exact h.tags_eq_nil s' hs
  · obtain hs | hs := List.infix_cons_iff.1 hs
    · obtain ⟨heq, u, rfl⟩ := List.cons_prefix_cons.1 hs
      cases heq
      exact fun hescaping => hhead hescaping content rfl
    · exact h.not_escaping s' content hs

theorem le_place_of_mem_writtenFrom (h : tag ∈ t.writtenFrom place) : place ≤ tag.place := by
  induction t generalizing place with
  | nil => exact absurd h List.not_mem_nil
  | cons span t ih =>
    obtain h | h := List.mem_append.1 h
    · cases span <;> simp_all [Span.written]
    · exact Nat.le_of_add_right_le (ih h)

theorem toList_source_cons (span : Span) :
    (source (span :: t)).toList = span.text.toList ++ t.source.toList := by
  rw [source, String.toList_append]

/-- Behind a given text nothing closes what that text may have opened. -/
theorem untilClosed?_source (h : WellFormed true t) : untilClosed? t.source.toList = none := by
  induction t with
  | nil => rfl
  | cons span t ih =>
    rw [toList_source_cons]
    cases span with
    | tag content => simp [Span.text, untilClosed?]
    | words s => exact (untilClosed?_append_eq_none h.1).2 (ih h.2.2)
    | given s => exact absurd h.1 (by decide)

/-- The tags of a text whose template begins at a place are the written ones exactly where the given
texts are harmless, and the first piece is no tag where a bracket is escaped. A bracket is escaped
only behind a given text: words have no backslash, and none of them is empty there. -/
theorem tagsFrom_source_iff (h : WellFormed behindGiven t)
    (hescaped : escaped = true → behindGiven = true) :
    tagsFrom place escaped (source t).toList = writtenFrom place t ↔
      (escaped = true → ∀ content, t.head? ≠ some (.tag content)) ∧ Harmless t := by
  induction t generalizing place escaped behindGiven with
  | nil => simp [source, tagsFrom, writtenFrom, harmless_nil]
  | cons span t ih =>
    rw [toList_source_cons, writtenFrom]
    cases span with
    | tag content =>
      obtain ⟨hcontent, ht⟩ := h
      have htext : (Span.tag content).text.toList = '[' :: (content.toList ++ [']']) := by
        simp [Span.text]
      rw [htext, List.cons_append, List.append_assoc, List.singleton_append]
      cases escaped with
      | false =>
        rw [tagsFrom_tag hcontent, harmless_cons_of_ne (by simp)]
        simp [Span.written, ih ht]
      | true =>
        refine ⟨fun heq => ?_, fun hharmless => absurd rfl (hharmless.1 rfl content)⟩
        have hmem : (⟨place, content.toList⟩ : Tag) ∈
            tagsFrom place true ('[' :: (content.toList ++ ']' :: (source t).toList)) :=
          heq ▸ List.mem_cons_self
        obtain ⟨front, back, -, hplace, hfront, -⟩ := mem_tagsFrom.1 hmem
        rw [List.eq_nil_of_length_eq_zero (Nat.add_eq_left.1 hplace)] at hfront
        exact absurd hfront (by decide)
    | words s =>
      obtain ⟨hplain, hne, ht⟩ := h
      rw [Span.text, Span.written, List.nil_append,
        tagsFrom_append_of_not_mem (not_mem_of_isPlain hplain),
        escapedBehind_of_isPlain hplain fun he => hne (hescaped he), ih ht (by simp),
        harmless_cons_of_ne (by simp)]
      simp
    | given s =>
      obtain ⟨rfl, ht⟩ := h
      obtain rfl : escaped = false := by simpa using hescaped
      -- The tags of the given text stand in front of all that is written behind it.
      have hsplit : ∀ ts, tagsFrom place false s.toList ++ ts =
          writtenFrom (place + s.toList.length) t ↔
            tagsFrom place false s.toList = [] ∧ ts = writtenFrom (place + s.toList.length) t := by
        refine fun ts => ⟨fun heq => ?_, fun ⟨hnil, heq⟩ => by rw [hnil, List.nil_append, heq]⟩
        have hnil : tagsFrom place false s.toList = [] := by
          refine List.eq_nil_iff_forall_not_mem.2 fun tag htag => ?_
          have hbehind := le_place_of_mem_writtenFrom (heq ▸ List.mem_append_left ts htag)
          exact absurd (le_place_of_mem_tagsFrom htag).2 (Nat.not_lt.2 hbehind)
        exact ⟨hnil, by rwa [hnil, List.nil_append] at heq⟩
      rw [Span.text, Span.written, List.nil_append, tagsFrom_append (untilClosed?_source ht),
        hsplit, ih ht fun _ => rfl, tagsFrom_eq_nil_iff, escapedBehind_iff, harmless_given, tags]
      simp

/-- The tags of a marked-up text are those that the program writes exactly where the given texts
leave them alone. -/
theorem tags_source_iff (h : WellFormed false t) : tags t.source = t.written ↔ t.Harmless := by
  rw [tags, written, tagsFrom_source_iff h (by simp)]
  simp

theorem harmless_of_isPlain (h : ∀ s, .given s ∈ t → IsPlain s.toList) : Harmless t where
  tags_eq_nil s hs := by
    have htags := @tagsFrom_append_of_not_mem s.toList [] 0 false (not_mem_of_isPlain (h s hs))
    rwa [List.append_nil, tagsFrom] at htags
  not_escaping s content hs hescaping := by
    have hmem : .given s ∈ t := hs.subset List.mem_cons_self
    have hescaped : escapedBehind false s.toList = false :=
      escapedBehind_of_isPlain (h s hmem) (by simp)
    exact absurd (hescaped.symm.trans (escapedBehind_iff.2 hescaping)) (by decide)

/-! ### Templates in parts -/

/-- Whether a given text stands behind the last tag; `behindGiven` tells this of the beginning. -/
def endsGiven (behindGiven : Bool) : Template → Bool
  | [] => behindGiven
  | .tag _ :: t => endsGiven false t
  | .words _ :: t => endsGiven behindGiven t
  | .given _ :: t => endsGiven true t

theorem wellFormed_append :
    WellFormed behindGiven (t ++ u) ↔
      WellFormed behindGiven t ∧ WellFormed (t.endsGiven behindGiven) u := by
  induction t generalizing behindGiven with
  | nil => simp [WellFormed, endsGiven]
  | cons span t ih => cases span <;> simp [WellFormed, endsGiven, ih, and_assoc]

theorem source_append : source (t ++ u) = t.source ++ u.source := by
  induction t with
  | nil => simp [source]
  | cons span t ih => rw [List.cons_append, source, source, ih, String.append_assoc]

/-- A text in a style. -/
def emphasized (style : String) (t : Template) : Template :=
  .tag style :: t ++ [.tag ("/" ++ style)]

theorem source_emphasized {style : String} :
    (t.emphasized style).source = styled style t.source := by
  have hslash (s : String) : "[/" ++ s = "[" ++ ("/" ++ s) := by
    rw [← String.append_assoc]
    rfl
  simp [emphasized, styled, source_append, source, Span.text, String.append_assoc, hslash]

theorem wellFormed_emphasized {style : String} (hstyle : IsTagContent style.toList) :
    WellFormed behindGiven (t.emphasized style) ↔ WellFormed false t := by
  simp [emphasized, wellFormed_append, WellFormed, hstyle, isTagContent_slash hstyle]

theorem endsGiven_append :
    endsGiven behindGiven (t ++ u) = endsGiven (t.endsGiven behindGiven) u := by
  induction t generalizing behindGiven with
  | nil => rfl
  | cons span t ih => cases span <;> exact ih

theorem endsGiven_emphasized {style : String} :
    endsGiven behindGiven (t.emphasized style) = false := by
  rw [emphasized, endsGiven_append, endsGiven, endsGiven]

/-- Texts in lines. -/
def lines (ts : List Template) : Template := [Span.words "\n"].intercalate ts

theorem source_lines (ts : List Template) :
    source (lines ts) = "\n".intercalate (ts.map source) := by
  induction ts with
  | nil => rfl
  | cons t ts ih =>
    cases ts with
    | nil => simp [lines]
    | cons u ts =>
      rw [lines, List.intercalate_cons_cons, ← lines, source_append, source_append, ih,
        List.map_cons, List.map_cons, List.map_cons, String.intercalate_cons_cons]
      simp [source, Span.text]

theorem wellFormed_lines {ts : List Template}
    (h : ∀ t ∈ ts, WellFormed false t ∧ t.endsGiven false = false) :
    WellFormed false (lines ts) := by
  induction ts with
  | nil => trivial
  | cons t ts ih =>
    cases ts with
    | nil => simpa [lines] using (h t List.mem_cons_self).1
    | cons u ts =>
      obtain ⟨ht, hends⟩ := h t List.mem_cons_self
      have hrest := ih fun u hu => h u (List.mem_cons_of_mem _ hu)
      rw [lines, List.intercalate_cons_cons, ← lines, List.append_assoc, wellFormed_append, hends]
      exact ⟨ht, by decide, by simp, hrest⟩

end Template

end Provenance.Display

import Provenance.Detect
import Provenance.Proofs.Detect.Structure
import Provenance.Proofs.Lexis.Renaming

/-!
# Proofs — Detect — Structure — Renaming

The structure detector sees shapes, not names (`renaming_keeps_structure`). A renaming leaves the
shape of every line, and it makes no line an import and no import another line: what an import
begins with is made of words that are no free names (`IsKept`).
-/

namespace Provenance.Detect.Structure

open Text Lexis

/-! ## Heads of imports -/

theorem beginsWith_nil (cs : List Char) : beginsWith [] cs = !cs.head?.any isWord := rfl

theorem beginsWith_cons_cons (c d : Char) (head cs : List Char) :
    beginsWith (c :: head) (d :: cs) = (c == d && beginsWith head cs) := by
  simp only [beginsWith, List.isPrefixOf, List.length_cons, List.drop_succ_cons, Bool.and_assoc]

theorem beginsWith_of_ne {c d : Char} (h : c ≠ d) (head cs : List Char) :
    beginsWith (c :: head) (d :: cs) = false := by
  rw [beginsWith_cons_cons, beq_eq_false_iff_ne.2 h, Bool.false_and]

/-- Of two names in front of two texts one begins the other only if they are the same. -/
theorem beginsWith_name {head rest : List Char} (hhead : EndsName head) (hrest : EndsName rest)
    {name name' : List Char} (hname : ∀ c ∈ name, isNameChar c = true)
    (hname' : ∀ c ∈ name', isNameChar c = true) :
    beginsWith (name ++ head) (name' ++ rest) = (name == name' && beginsWith head rest) := by
  induction name generalizing name' with
  | nil =>
    cases name' with
    | nil => rfl
    | cons d name' =>
      have hd := hname' d List.mem_cons_self
      cases head with
      -- the name goes on behind the other one
      | nil => simp [beginsWith_nil, isWord_of_isNameChar hd]
      | cons c head => exact beginsWith_of_ne (ne_of_class hd (endsName_cons.1 hhead)).symm _ _
  | cons c name ih =>
    have hc := hname c List.mem_cons_self
    cases name' with
    | nil =>
      cases rest with
      | nil => rfl
      | cons d rest => exact beginsWith_of_ne (ne_of_class hc (endsName_cons.1 hrest)) _ _
    | cons d name' =>
      rw [List.cons_append, List.cons_append, beginsWith_cons_cons,
        ih (fun e he => hname e (List.mem_cons_of_mem _ he))
          (fun e he => hname' e (List.mem_cons_of_mem _ he)), ← Bool.and_assoc]
      rfl

/-- A head of lines that no renaming changes: it is made of names that are not free and of
characters that begin neither a name nor a literal. -/
inductive IsKept : List Char → Prop
  | nil : IsKept []
  | name {name head : List Char} (hname : isNameSpelling name = true)
    (hkept : isFree name = false) (hends : EndsName head) (later : IsKept head) :
    IsKept (name ++ head)
  | plain {c : Char} {head : List Char} (hname : isNameStart c = false)
    (hquote : isQuote c = false) (later : IsKept head) : IsKept (c :: head)

/-- **A renamed line begins as the line does**, as far as kept heads go. -/
theorem IsKept.beginsWith_text {head : List Char} (h : IsKept head) (r : Renaming)
    (cs : List Char) : beginsWith head (r.text cs) = beginsWith head cs := by
  induction h generalizing cs with
  | nil =>
    rw [beginsWith_nil, beginsWith_nil, Renaming.head?_text]
    intro c d hc hd
    rw [isWord_of_isNameChar (isNameChar_of_isNameStart hc),
      isWord_of_isNameChar (isNameChar_of_isNameStart hd)]
  | @name name head hname hkept hends later ih =>
    obtain ⟨c, others, rfl, hc, _⟩ := exists_of_isNameSpelling hname
    cases cs using text_induction with
    | nil => rw [Renaming.text_nil]
    | literal d interior after hquote hclose =>
      have hne : c ≠ d := ne_of_class hc (isNameStart_of_isQuote hquote)
      rw [Renaming.text_literal hquote hclose, List.cons_append, beginsWith_of_ne hne,
        beginsWith_of_ne hne]
    | name name' rest hname' hrest =>
      have hspelled := Renaming.isNameSpelling_word (r := r) hname'
      rw [Renaming.text_name hname' hrest,
        beginsWith_name hends (Renaming.endsName_text hrest) (fun _ => isNameChar_of_mem hname)
          (fun _ => isNameChar_of_mem hspelled),
        beginsWith_name hends hrest (fun _ => isNameChar_of_mem hname)
          (fun _ => isNameChar_of_mem hname'), ih, Renaming.beq_word hkept]
    | plain d cs hplain hunclosed =>
      have hne : c ≠ d := ne_of_class hc hplain
      rw [Renaming.text_plain hplain hunclosed, List.cons_append, beginsWith_of_ne hne,
        beginsWith_of_ne hne]
  | @plain c head hname hquote later ih =>
    cases cs using text_induction with
    | nil => rw [Renaming.text_nil]
    | literal d interior after hquote' hclose =>
      have hne : c ≠ d := (ne_of_class hquote' hquote).symm
      rw [Renaming.text_literal hquote' hclose, beginsWith_of_ne hne, beginsWith_of_ne hne]
    | name name rest hname' hrest =>
      obtain ⟨d, ds, hword, hd, _⟩ :=
        exists_of_isNameSpelling (Renaming.isNameSpelling_word (r := r) hname')
      obtain ⟨e, es, rfl, he, _⟩ := exists_of_isNameSpelling hname'
      rw [Renaming.text_name hname' hrest, hword, List.cons_append, List.cons_append,
        beginsWith_of_ne (ne_of_class hd hname).symm,
        beginsWith_of_ne (ne_of_class he hname).symm]
    | plain d cs hplain hunclosed =>
      rw [Renaming.text_plain hplain hunclosed, beginsWith_cons_cons, beginsWith_cons_cons, ih]

/-- A word that is no free name. -/
theorem IsKept.word {name : List Char} (hname : isNameSpelling name = true)
    (hkept : isFree name = false) : IsKept name := by
  have h : IsKept (name ++ []) := .name hname hkept rfl .nil
  rwa [List.append_nil] at h

/-- **No renaming changes what an import begins with.** -/
theorem isKept_importHeads : ∀ head ∈ importHeads, IsKept head := by
  intro head hhead
  simp only [importHeads, List.mem_cons, List.not_mem_nil, or_false] at hhead
  rcases hhead with rfl | rfl | rfl | rfl | rfl | rfl | rfl | rfl
  · exact .word (by decide) (by decide)
  · exact .word (by decide) (by decide)
  · exact .plain (by decide) (by decide) (.word (by decide) (by decide))
  · exact .word (by decide) (by decide)
  · exact .word (by decide) (by decide)
  · exact .word (by decide) (by decide)
  · exact .word (by decide) (by decide)
  · have hsplit : "extern crate".toList = "extern".toList ++ ' ' :: "crate".toList := by decide
    rw [hsplit]
    exact .name (by decide) (by decide) (endsName_cons.2 (by decide))
      (.plain (by decide) (by decide) (.word (by decide) (by decide)))

theorem isImport_text (r : Renaming) (cs : List Char) : isImport (r.text cs) = isImport cs := by
  unfold isImport
  rw [Renaming.trimLeft_text, Bool.eq_iff_iff, List.any_eq_true, List.any_eq_true]
  apply exists_congr
  intro head
  apply and_congr_right
  intro hhead
  rw [(isKept_importHeads head hhead).beginsWith_text]

/-! ## The detector -/

/-- A line of code with its names replaced. -/
def renameLine (r : Renaming) (l : Line) : Line :=
  if l.isCode then { l with text := r.text l.text } else l

theorem shape_renameLine (r : Renaming) (l : Line) :
    shape (renameLine r l).text = shape l.text := by
  unfold renameLine
  split
  · exact Renaming.shape_text l.text
  · rfl

theorem keepsPlaces_renameLine (r : Renaming) : KeepsPlaces 0 (renameLine r) := by
  constructor
  · intro l
    unfold renameLine
    split <;> rfl
  · intro l
    unfold renameLine
    split
    · exact isImport_text r l.text
    · rfl

theorem shapedLines_renameLine (r : Renaming) (ls : List Line) :
    shapedLines (ls.map (renameLine r)) =
      (shapedLines ls).map (ShapedLine.changed (renameLine r)) := by
  have hcode : ∀ l : Line, (renameLine r l).isCode = l.isCode := by
    intro l
    unfold renameLine
    split <;> rfl
  simp only [shapedLines, codeLines, List.filter_map, List.map_map, Function.comp_def, hcode,
    ShapedLine.changed, shape_renameLine]

theorem detect_renameLine (r : Renaming) (settings : StructureSettings) (ls : List Line) :
    detect settings (ls.map (renameLine r)) = detect settings ls := by
  have hstay : Finding.moveDown 0 = id := by
    funext f
    simp [Finding.moveDown]
  rw [detect_changed settings (keepsPlaces_renameLine r) (shapedLines_renameLine r ls), hstay,
    List.map_id_fun, id_map]

end Provenance.Detect.Structure

namespace Provenance.Detect

open Structure Lexis

/-- **The structure detector sees shapes, not names.** In every renamed line of code exactly the
free names outside literals are replaced, every line keeps its shape, and the patterns that are
found in the lines stay the same. -/
theorem renaming_keeps_structure (r : Renaming) (settings : Settings) (ls : List Line) :
    (∀ l ∈ codeLines ls, tokens (markLiterals (renameLine r l).text) =
      (tokens (markLiterals l.text)).map r.word) ∧
    (∀ l ∈ ls, shape (renameLine r l).text = shape l.text) ∧
    patternsOf settings (ls.map (renameLine r)) .structural =
      patternsOf settings ls .structural := by
  refine ⟨?_, fun l _ => shape_renameLine r l, ?_⟩
  · intro l hl
    rw [renameLine, if_pos (List.mem_filter.1 hl).2]
    exact Renaming.tokens_markLiterals_text l.text
  · rw [patternsOf, findings, detect_renameLine]
    rfl

end Provenance.Detect

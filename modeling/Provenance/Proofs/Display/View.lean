import Provenance.CommandLine.Command
import Provenance.Proofs.Checked
import Provenance.Proofs.Display.Template

/-!
# Proofs — Display — View

What the console is told of files, of projects and of failures, each string with its template.
Paths, descriptions, signatures, reasons and messages are put into the strings as they are: a string
has the tags of its template exactly where these texts are harmless.
-/

namespace Provenance.Display

open Template

/-! ## Words -/

theorem isTagContent_bold : IsTagContent "bold".toList := ⟨by decide, by decide, by decide⟩

theorem isTagContent_dim : IsTagContent "dim".toList := ⟨by decide, by decide, by decide⟩

theorem isTagContent_yellow : IsTagContent "yellow".toList := ⟨by decide, by decide, by decide⟩

theorem isTagContent_boldRed : IsTagContent "bold red".toList := ⟨by decide, by decide, by decide⟩

theorem isTagContent_band (band : Band) : IsTagContent band.style.toList := by
  cases band <;> exact ⟨by decide, by decide, by decide⟩

theorem isPlain_repr (n : Nat) : IsPlain (Nat.repr n).toList := by
  rw [Nat.toList_repr]
  refine List.all_eq_true.2 fun c hc => ?_
  have hdigit := Nat.isDigit_of_mem_toDigits (by decide) (by decide) hc
  have hne : c ≠ '[' ∧ c ≠ ']' ∧ c ≠ '\\' := by
    refine ⟨?_, ?_, ?_⟩ <;> (rintro rfl; exact absurd hdigit (by decide))
  simp [hne]

theorem isPlain_toString (n : Int) : IsPlain (toString n).toList := by
  cases n with
  | ofNat n => exact isPlain_repr n
  | negSucc n =>
    change IsPlain ("-" ++ Nat.repr (n + 1)).toList
    rw [String.toList_append, isPlain_append]
    exact ⟨by decide, isPlain_repr (n + 1)⟩

theorem isPlain_percent (percentage : Int) : IsPlain (percent percentage).toList := by
  rw [percent, String.toList_append, isPlain_append]
  exact ⟨isPlain_toString percentage, by decide⟩

theorem isPlain_intercalate {separator : String} {parts : List String}
    (hseparator : IsPlain separator.toList) (h : ∀ part ∈ parts, IsPlain part.toList) :
    IsPlain (separator.intercalate parts).toList := by
  induction parts with
  | nil => rfl
  | cons part parts ih =>
    obtain ⟨hpart, hparts⟩ := List.forall_mem_cons.1 h
    cases parts with
    | nil => rwa [String.intercalate_singleton]
    | cons next parts =>
      rw [String.intercalate_cons_cons, String.toList_append, String.toList_append, isPlain_append,
        isPlain_append]
      exact ⟨⟨hpart, hseparator⟩, ih hparts⟩

theorem isPlain_shownLines (lines : List Nat) : IsPlain (shownLines lines).toList := by
  have hnumbers : ∀ part ∈ (lines.take tableLines).map Nat.repr, IsPlain part.toList := by
    intro part hpart
    obtain ⟨n, _, rfl⟩ := List.mem_map.1 hpart
    exact isPlain_repr n
  rw [shownLines, String.toList_append, isPlain_append]
  refine ⟨isPlain_intercalate (by decide) hnumbers, ?_⟩
  split_ifs
  · rw [String.toList_append, String.toList_append, isPlain_append, isPlain_append]
    exact ⟨⟨by decide, isPlain_repr _⟩, by decide⟩
  · rfl

theorem isPlain_confidenceLabel (confidence : Int) :
    IsPlain (confidenceLabel confidence).toList := by
  rw [confidenceLabel]
  split_ifs <;> decide

theorem isPlain_name (kind : PatternKind) : IsPlain kind.name.toList := by
  cases kind <;> decide

/-! ## Views -/

/-- The marked-up strings of something that is printed. -/
def Printed.strings : Printed → List String
  | .text s => [s]
  | .blank => []
  | .table t => t.title :: t.columns ++ t.rows.flatten
  | .panel p => [p.title, p.text]
  | .chart _ => []

/-- What is printed with texts of a project in it. -/
inductive View where
  /-- The figures of a file. -/
  | file (f : FileAnalysis)
  /-- The patterns of a file. -/
  | patterns (f : FileAnalysis)
  /-- The most generated files. -/
  | generated (project : ProjectAnalysis) (top : Int)
  /-- The most human-written files. -/
  | human (project : ProjectAnalysis) (top : Int)
  /-- The folders of a project. -/
  | folders (summaries : List FolderSummary)
  /-- The files that were skipped. -/
  | skipped (project : ProjectAnalysis) (limit : Int)
  /-- The end of a command that failed. -/
  | failed (failure : Failure)

namespace View

/-- What is printed of a view. -/
def printed (settings : BandSettings) : View → List Printed
  | .file f => [.panel (filePanel settings f)]
  | .patterns f => [.table (patternTable f)]
  | .generated project top => [.table (generatedTable settings project top)]
  | .human project top => [.table (humanTable settings project top)]
  | .folders summaries => [.table (folderTable settings summaries)]
  | .skipped project limit => skippedLines limit project
  | .failed failure => (CommandLine.failed false failure).printed

/-- The marked-up strings of a view. -/
def strings (settings : BandSettings) (view : View) : List String :=
  (view.printed settings).flatMap Printed.strings

end View

/-! ## Templates of the views -/

namespace Template

/-- A share in the style of its band. -/
def banded (settings : BandSettings) (percentage : Int) : Template :=
  emphasized (Band.of settings percentage).style [.words (percent percentage)]

/-- A pattern on a line of its own. -/
def patternLine (p : Pattern) : Template :=
  emphasized "yellow" [.words "•"] ++ [.words " ", .given p.description, .words " "] ++
    emphasized "dim" [.words ("(" ++ percent p.confidence ++ ")")]

/-- The patterns with the highest confidence, and how many more there are. -/
def patternLines (limit : Int) (patterns : List Pattern) : Template :=
  if patterns = [] then emphasized "dim" [.words "No generation patterns detected"]
  else
    let ranked := patterns.mergeSort fun p q => decide (q.confidence ≤ p.confidence)
    let more := (patterns.length : Int) - limit
    lines ((limited limit ranked).map patternLine ++
      if 0 < more then [emphasized "dim" [.words ("… " ++ toString more ++ " more")]] else [])

/-- The figures of a file below its generated share. -/
def panelWords (f : FileAnalysis) : String :=
  "\n" ++
    "Human:     " ++ percent f.humanPercentage ++ " (" ++ toString f.humanLines ++ " lines)\n" ++
    "Code lines: " ++ toString f.codeLines ++ "   Comments: " ++ toString f.commentLines ++
    "   Blank: " ++ toString f.emptyLines ++ "\n" ++
    "Confidence: " ++ percent f.confidence ++ " (" ++ confidenceLabel f.confidence ++ ")\n\n"

/-- The figures of a file in a panel. -/
def filePanel (settings : BandSettings) (f : FileAnalysis) : Template :=
  emphasized (Band.of settings f.generatedPercentage).style
      [.words ("Generated: " ++ percent f.generatedPercentage ++ " (" ++
        toString f.generatedLines ++ " lines)")] ++
    [.words (panelWords f)] ++ patternLines panelPatterns f.patterns

/-- The cells of a pattern. -/
def patternRow (p : Pattern) : List Template :=
  [[.words p.kind.name], [.words (percent p.confidence)], [.words (shownLines p.lines)],
    [.given p.description, .words "\n"] ++ emphasized "dim" [.given p.signature]]

/-- The cells of a file. -/
def fileRow (settings : BandSettings) (project : ProjectAnalysis) (f : FileAnalysis) :
    List Template :=
  [[.given (shownPath project.path f.path)], banded settings f.generatedPercentage,
    [.words (toString f.codeLines)], [.words (percent f.confidence)]]

/-- The cells of a folder. -/
def folderRow (settings : BandSettings) (s : FolderSummary) : List Template :=
  [[.given s.path], [.words (Nat.repr s.files)], banded settings s.generatedPercentage,
    [.words (toString s.generatedLines ++ " / " ++ toString s.humanLines)]]

/-- A skipped file, and why. -/
def skippedLine (project : ProjectAnalysis) (s : SkippedFile) : Template :=
  [.words "  "] ++ emphasized "dim" [.given (shownPath project.path s.path)] ++
    [.words " ", .given s.reason]

end Template

/-- Cells of a table below its title and the heads of its columns. -/
def tableTemplates (title : Template) (columns : List String) (rows : List (List Template)) :
    List Template :=
  title :: columns.map (fun column => [.words column]) ++ rows.flatten

/-- The templates of the strings of a view. -/
def View.templates (settings : BandSettings) : View → List Template
  | .file f => [emphasized "bold" [.given f.path], Template.filePanel settings f]
  | .patterns f =>
    tableTemplates [.words "Detected patterns: ", .given f.path] (patternTable f).columns
      (f.patterns.map patternRow)
  | .generated project top =>
    let files := limited top (ranked (fun f => f.generatedPercentage) project.files)
    tableTemplates [.words ("Top " ++ Nat.repr files.length ++ " files by generated share")]
      (generatedTable settings project top).columns (files.map (fileRow settings project))
  | .human project top =>
    let files := limited top (ranked (fun f => f.humanPercentage) project.files)
    tableTemplates [.words ("Top " ++ Nat.repr files.length ++ " most human-written files")]
      (humanTable settings project top).columns (files.map (fileRow settings project))
  | .folders summaries =>
    tableTemplates [.words "Generated share by folder"] (folderTable settings summaries).columns
      (summaries.map (folderRow settings))
  | .skipped project limit =>
    if project.skipped = [] then []
    else
      emphasized "yellow" [.words ("Skipped " ++ Nat.repr project.skipped.length ++ " file(s):")] ::
        (limited limit project.skipped).map (skippedLine project)
  | .failed failure =>
    [emphasized "bold red" [.words "Error"] ++ [.words ": ", .given failure.message]]

/-! ## Strings by their templates -/

/-- A string is told by a template. -/
structure IsTold (s : String) (t : Template) : Prop where
  source_eq : source t = s
  wellFormed : WellFormed false t

variable {settings : BandSettings}

theorem forall₂_maps {α β γ : Type} {R : β → γ → Prop} {f : α → β} {g : α → γ} (xs : List α)
    (h : ∀ x, R (f x) (g x)) : List.Forall₂ R (xs.map f) (xs.map g) := by
  rw [List.forall₂_map_left_iff, List.forall₂_map_right_iff, List.forall₂_same]
  exact fun x _ => h x

theorem isTold_words {s : String} (h : IsPlain s.toList) : IsTold s [.words s] where
  source_eq := String.append_empty
  wellFormed := ⟨h, by simp, trivial⟩

theorem isTold_given (s : String) : IsTold s [.given s] where
  source_eq := String.append_empty
  wellFormed := ⟨rfl, trivial⟩

theorem IsTold.append {s s' : String} {t t' : Template} (h : IsTold s t) (h' : IsTold s' t')
    (hends : endsGiven false t = false) : IsTold (s ++ s') (t ++ t') where
  source_eq := by rw [source_append, h.source_eq, h'.source_eq]
  wellFormed := wellFormed_append.2 ⟨h.wellFormed, by rw [hends]; exact h'.wellFormed⟩

theorem isTold_emphasized {style s : String} {t : Template} (hstyle : IsTagContent style.toList)
    (h : IsTold s t) : IsTold (styled style s) (t.emphasized style) where
  source_eq := by rw [source_emphasized, h.source_eq]
  wellFormed := (wellFormed_emphasized hstyle).2 h.wellFormed

theorem isTold_banded (percentage : Int) :
    IsTold (bandedPercent settings percentage) (banded settings percentage) :=
  isTold_emphasized (isTagContent_band _) (isTold_words (isPlain_percent percentage))

theorem isTold_patternLine (p : Pattern) :
    IsTold (Display.patternLine p) (Template.patternLine p) where
  source_eq := by
    simp [Template.patternLine, Display.patternLine, source_append, source_emphasized, source,
      Span.text, yellow, dim, String.append_assoc]
  wellFormed := by
    have hwords : IsPlain ("(" ++ percent p.confidence ++ ")").toList := by
      simp only [String.toList_append, isPlain_append]
      exact ⟨⟨by decide, isPlain_percent _⟩, by decide⟩
    simp only [Template.patternLine, wellFormed_append, wellFormed_emphasized isTagContent_yellow,
      wellFormed_emphasized isTagContent_dim, endsGiven_append, endsGiven_emphasized, WellFormed]
    exact ⟨⟨⟨by decide, by simp, trivial⟩,
      by decide, by simp, trivial, by decide, by simp, trivial⟩, hwords, by simp, trivial⟩

theorem endsGiven_patternLine (p : Pattern) : (Template.patternLine p).endsGiven false = false := by
  rw [Template.patternLine, endsGiven_append, endsGiven_emphasized]

theorem map_source_eq {ss : List String} {ts : List Template} (h : List.Forall₂ IsTold ss ts) :
    ts.map source = ss := by
  induction h with
  | nil => rfl
  | cons hst _ ih => rw [List.map_cons, hst.source_eq, ih]

theorem isTold_lines {ss : List String} {ts : List Template} (h : List.Forall₂ IsTold ss ts)
    (hends : ∀ t ∈ ts, endsGiven false t = false) : IsTold ("\n".intercalate ss) (lines ts) where
  source_eq := by rw [source_lines, map_source_eq h]
  wellFormed := wellFormed_lines fun t ht => by
    obtain ⟨s, _, hst⟩ := exists_of_mem_forall₂ h ht
    exact ⟨hst.wellFormed, hends t ht⟩

theorem isTold_patternLines (limit : Int) (patterns : List Pattern) :
    IsTold (Display.patternLines limit patterns) (Template.patternLines limit patterns) := by
  rw [Display.patternLines, Template.patternLines]
  split_ifs with hpatterns
  · exact isTold_emphasized isTagContent_dim (isTold_words (by decide))
  · refine isTold_lines (List.rel_append ?_ ?_) fun t ht => ?_
    · exact forall₂_maps _ isTold_patternLine
    · split_ifs
      · refine .cons (isTold_emphasized isTagContent_dim (isTold_words ?_)) .nil
        simp only [String.toList_append, isPlain_append]
        exact ⟨⟨by decide, isPlain_toString _⟩, by decide⟩
      · exact .nil
    · obtain ht | ht := List.mem_append.1 ht
      · obtain ⟨p, _, rfl⟩ := List.mem_map.1 ht
        exact endsGiven_patternLine p
      · split_ifs at ht
        · rw [List.mem_singleton.1 ht, endsGiven_emphasized]
        · cases ht

theorem isTold_filePanel (f : FileAnalysis) :
    IsTold (Display.filePanel settings f).text (Template.filePanel settings f) := by
  have hshare : IsPlain ("Generated: " ++ percent f.generatedPercentage ++ " (" ++
      toString f.generatedLines ++ " lines)").toList := by
    simp only [String.toList_append, isPlain_append, isPlain_percent, isPlain_toString]
    decide
  have hrest : IsPlain (panelWords f).toList := by
    unfold panelWords
    simp only [String.toList_append, isPlain_append, isPlain_percent, isPlain_toString,
      isPlain_confidenceLabel]
    decide
  have htext : (Display.filePanel settings f).text =
      styled (Band.of settings f.generatedPercentage).style ("Generated: " ++
        percent f.generatedPercentage ++ " (" ++ toString f.generatedLines ++ " lines)") ++
        panelWords f ++ Display.patternLines panelPatterns f.patterns := by
    unfold Display.filePanel panelWords
    simp only [String.append_assoc]
  rw [htext]
  exact ((isTold_emphasized (isTagContent_band _) (isTold_words hshare)).append (isTold_words hrest)
    endsGiven_emphasized).append (isTold_patternLines panelPatterns f.patterns)
      (by rw [endsGiven_append, endsGiven_emphasized, endsGiven, endsGiven])

theorem forall₂_table {table : Table} {title : Template} {rows : List (List Template)}
    (htitle : IsTold table.title title) (hcolumns : ∀ c ∈ table.columns, IsPlain c.toList)
    (hrows : List.Forall₂ (List.Forall₂ IsTold) table.rows rows) :
    List.Forall₂ IsTold (Printed.table table).strings
      (tableTemplates title table.columns rows) := by
  refine .cons htitle (List.rel_append ?_ (List.rel_flatten hrows))
  exact List.forall₂_map_right_iff.2 (List.forall₂_same.2 fun c hc => isTold_words (hcolumns c hc))

theorem isTold_signature (p : Pattern) :
    IsTold (p.description ++ "\n" ++ dim p.signature)
      ([.given p.description, .words "\n"] ++ emphasized "dim" [.given p.signature]) where
  source_eq := by
    simp [source_emphasized, source, Span.text, dim, String.append_assoc]
  wellFormed := by
    simp only [wellFormed_append, wellFormed_emphasized isTagContent_dim, WellFormed]
    exact ⟨⟨trivial, by decide, by simp, trivial⟩, trivial, trivial⟩

theorem isTold_patternRow (p : Pattern) :
    List.Forall₂ IsTold [p.kind.name, percent p.confidence, shownLines p.lines,
      p.description ++ "\n" ++ dim p.signature] (patternRow p) :=
  .cons (isTold_words (isPlain_name _)) <| .cons (isTold_words (isPlain_percent _)) <|
    .cons (isTold_words (isPlain_shownLines _)) <| .cons (isTold_signature p) .nil

theorem isTold_fileRow (project : ProjectAnalysis) (f : FileAnalysis) :
    List.Forall₂ IsTold [shownPath project.path f.path,
      bandedPercent settings f.generatedPercentage, toString f.codeLines, percent f.confidence]
      (fileRow settings project f) :=
  .cons (isTold_given _) <| .cons (isTold_banded _) <| .cons (isTold_words (isPlain_toString _)) <|
    .cons (isTold_words (isPlain_percent _)) .nil

theorem isTold_folderRow (s : FolderSummary) :
    List.Forall₂ IsTold [s.path, Nat.repr s.files, bandedPercent settings s.generatedPercentage,
      toString s.generatedLines ++ " / " ++ toString s.humanLines] (folderRow settings s) := by
  have hlines : IsPlain (toString s.generatedLines ++ " / " ++ toString s.humanLines).toList := by
    simp only [String.toList_append, isPlain_append, isPlain_toString]
    decide
  exact .cons (isTold_given _) <| .cons (isTold_words (isPlain_repr _)) <|
    .cons (isTold_banded _) <| .cons (isTold_words hlines) .nil

theorem isTold_skippedLine (project : ProjectAnalysis) (s : SkippedFile) :
    IsTold ("  " ++ dim (shownPath project.path s.path) ++ " " ++ s.reason)
      (skippedLine project s) where
  source_eq := by
    simp [skippedLine, source_append, source_emphasized, source, Span.text, dim,
      String.append_assoc]
  wellFormed := by
    simp only [skippedLine, wellFormed_append, wellFormed_emphasized isTagContent_dim,
      endsGiven_append, endsGiven_emphasized, WellFormed]
    exact ⟨⟨⟨by decide, by simp, trivial⟩, trivial, trivial⟩, by decide, by simp, trivial, trivial⟩

theorem forall₂_fileTable {title : String} (project : ProjectAnalysis) (files : List FileAnalysis)
    (htitle : IsPlain title.toList) :
    List.Forall₂ IsTold (Printed.table (fileTable settings project title files)).strings
      (tableTemplates [.words title] (fileTable settings project title files).columns
        (files.map (fileRow settings project))) := by
  have hcolumns : ∀ c ∈ ["File", "Generated", "Code Lines", "Confidence"], IsPlain c.toList := by
    decide
  exact forall₂_table (isTold_words htitle) hcolumns (forall₂_maps _ (isTold_fileRow project))

/-- Every string of a view is told by its template. -/
theorem forall₂_templates (settings : BandSettings) (view : View) :
    List.Forall₂ IsTold (view.strings settings) (view.templates settings) := by
  cases view with
  | file f =>
    exact .cons (isTold_emphasized isTagContent_bold (isTold_given _)) <|
      .cons (isTold_filePanel f) .nil
  | patterns f =>
    have htitle : IsTold ("Detected patterns: " ++ f.path)
        [.words "Detected patterns: ", .given f.path] :=
      ⟨by simp [source, Span.text], by decide, by simp, rfl, trivial⟩
    have hcolumns : ∀ c ∈ ["Type", "Confidence", "Lines", "Description"], IsPlain c.toList := by
      decide
    rw [View.strings, View.printed, List.flatMap_singleton]
    exact forall₂_table htitle hcolumns (forall₂_maps _ isTold_patternRow)
  | generated project top =>
    rw [View.strings, View.printed, List.flatMap_singleton]
    refine forall₂_fileTable project (limited top (ranked _ project.files)) ?_
    simp only [String.toList_append, isPlain_append, isPlain_repr]
    decide
  | human project top =>
    rw [View.strings, View.printed, List.flatMap_singleton]
    refine forall₂_fileTable project (limited top (ranked _ project.files)) ?_
    simp only [String.toList_append, isPlain_append, isPlain_repr]
    decide
  | folders summaries =>
    have hcolumns : ∀ c ∈ ["Folder", "Files", "Generated", "Generated / Human Lines"],
        IsPlain c.toList := by decide
    have htitle : IsPlain "Generated share by folder".toList := by decide
    rw [View.strings, View.printed, List.flatMap_singleton]
    exact forall₂_table (isTold_words htitle) hcolumns (forall₂_maps _ isTold_folderRow)
  | skipped project limit =>
    have hcount :
        IsPlain ("Skipped " ++ Nat.repr project.skipped.length ++ " file(s):").toList := by
      simp only [String.toList_append, isPlain_append, isPlain_repr]
      decide
    rw [View.strings, View.printed, skippedLines, View.templates]
    split_ifs with hskipped
    · exact .nil
    · rw [List.flatMap_cons, List.flatMap_map]
      refine .cons (isTold_emphasized isTagContent_yellow (isTold_words hcount)) ?_
      have hlines := forall₂_maps (limited limit project.skipped) (isTold_skippedLine project)
      rwa [List.map_eq_flatMap] at hlines
  | failed failure =>
    have hmessage : IsTold (": " ++ failure.message) [.words ": ", .given failure.message] :=
      ⟨by simp [source, Span.text], by decide, by simp, rfl, trivial⟩
    have herror := (isTold_emphasized isTagContent_boldRed
      (isTold_words (by decide : IsPlain "Error".toList))).append hmessage endsGiven_emphasized
    rw [← String.append_assoc] at herror
    exact .cons herror .nil

/-! ## Tags -/

/-- The tags of every string of a view are those of its template. -/
def View.TagsAreWritten (settings : BandSettings) (view : View) : Prop :=
  (view.strings settings).map tags = (view.templates settings).map written

theorem tags_iff_of_mem_templates {view : View} {t : Template}
    (ht : t ∈ view.templates settings) : tags (source t) = written t ↔ Harmless t := by
  obtain ⟨s, _, hst⟩ := exists_of_mem_forall₂ (forall₂_templates settings view) ht
  exact tags_source_iff hst.wellFormed

theorem tagsAreWritten_of_harmless {view : View}
    (h : ∀ t ∈ view.templates settings, Harmless t) : view.TagsAreWritten settings := by
  rw [View.TagsAreWritten, ← map_source_eq (forall₂_templates settings view), List.map_map,
    List.map_inj_left]
  exact fun t ht => (tags_iff_of_mem_templates ht).2 (h t ht)

/-- Texts without brackets and backslashes are harmless wherever they stand. -/
theorem tagsAreWritten_of_isPlain {view : View}
    (h : ∀ t ∈ view.templates settings, ∀ s, .given s ∈ t → IsPlain s.toList) :
    view.TagsAreWritten settings :=
  tagsAreWritten_of_harmless fun t ht => harmless_of_isPlain (h t ht)

/-- **A view has the tags of its templates exactly where all texts in it are harmless.** Its strings
are the marked-up texts of the templates, and each of them has no tags but the written ones if and
only if no text in it has a tag of its own or escapes the tag behind it. -/
theorem tags_are_written_iff (settings : BandSettings) (view : View) :
    view.strings settings = (view.templates settings).map source ∧
      (∀ t ∈ view.templates settings, tags (source t) = written t ↔ Harmless t) ∧
      (view.TagsAreWritten settings ↔ ∀ t ∈ view.templates settings, Harmless t) := by
  have hsource := map_source_eq (forall₂_templates settings view)
  refine ⟨hsource.symm, fun t ht => tags_iff_of_mem_templates ht, fun h t ht => ?_,
    tagsAreWritten_of_harmless⟩
  rw [View.TagsAreWritten, ← hsource, List.map_map, List.map_inj_left] at h
  exact (tags_iff_of_mem_templates ht).1 (h t ht)

/-- A page whose file is named for its parameter, and has no text. -/
def skippedPage : ProjectAnalysis :=
  ⟨"", 1, 0, 0, 0, 0, 0, [], [⟨"pages/[id].tsx", Failure.notUtf8⟩], ⟨2000, 1, 1, 0, 0, 0, 0⟩⟩

theorem bracketed_path_not_harmless :
    ∃ t ∈ (View.skipped skippedPage namedSkipped).templates {},
      (tags (source t) = written t ↔ Harmless t) ∧ ¬ Harmless t := by
  have ht : skippedLine skippedPage ⟨"pages/[id].tsx", Failure.notUtf8⟩ ∈
      (View.skipped skippedPage namedSkipped).templates {} := by decide +kernel
  obtain ⟨_, htags, _⟩ := tags_are_written_iff {} (View.skipped skippedPage namedSkipped)
  have htag : tags (source (skippedLine skippedPage ⟨"pages/[id].tsx", Failure.notUtf8⟩)) ≠
      written (skippedLine skippedPage ⟨"pages/[id].tsx", Failure.notUtf8⟩) := by decide +kernel
  exact ⟨_, ht, htags _ ht, mt (htags _ ht).2 htag⟩

/-- **A path in brackets is taken for a tag.** The line of the skipped page has one tag more than
its template. -/
theorem bracketed_path_opens_tag :
    ¬ (View.skipped skippedPage namedSkipped).TagsAreWritten {} ∧
      (View.skipped skippedPage namedSkipped).strings {} =
        ["[yellow]Skipped 1 file(s):[/yellow]",
          "  [dim]pages/[id].tsx[/dim] not valid UTF-8 text"] ∧
      (⟨13, "id".toList⟩ : Tag) ∈ tags "  [dim]pages/[id].tsx[/dim] not valid UTF-8 text" := by
  unfold View.TagsAreWritten
  decide +kernel

end Provenance.Display

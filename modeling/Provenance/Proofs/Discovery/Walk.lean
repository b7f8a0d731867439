import Provenance.Proofs.Discovery

/-!
# Proofs — Discovery — Walk

Discovery where version control lists nothing. A walk comes to exactly the files that lie in no
skipped folder (`mem_walk_iff`), the files of a folder before those of the folders in it, and all by
name (`pairwise_walk`). Discovery keeps those of them that have a suffix of source files and fit no
pattern to exclude, so it finds exactly the source files (`source_files_found`).
-/

namespace Provenance

open Provenance.Path

namespace Disk

/-! ## What a walk comes to -/

theorem mem_fileNames_iff {t : Tree} (h : t.IsProper) {name : String} :
    name ∈ fileNames t ↔ ∃ bytes, t.find? name = some (.file bytes) := by
  induction h with
  | empty => simp [fileNames, Tree.find?]
  | @file n bytes rest _ hfresh _ ih =>
    rw [fileNames, List.mem_cons, ih, Tree.find?]
    by_cases he : n = name
    · simp [he]
    · simp [he, Ne.symm he]
  | @folder n entries rest _ hfresh _ _ _ ih =>
    rw [fileNames, ih, Tree.find?]
    by_cases he : n = name
    · subst he
      -- the name of a folder is the name of no file beside it
      rw [Tree.find?_eq_none hfresh, if_pos rfl]
      simp
    · rw [if_neg he]

theorem mem_folderWalks_iff {t : Tree} (h : t.IsProper) {name : String}
    {files : List (List String)} :
    (name, files) ∈ folderWalks t ↔ ∃ entries, t.find? name = some (.folder entries) ∧
      name ∉ skippedFolders ∧ files = walk entries := by
  induction h with
  | empty => simp [folderWalks, Tree.find?]
  | @file n bytes rest _ hfresh _ ih =>
    rw [folderWalks, ih, Tree.find?]
    by_cases he : n = name
    · subst he
      rw [Tree.find?_eq_none hfresh, if_pos rfl]
      simp
    · rw [if_neg he]
  | @folder n entries rest _ hfresh _ _ _ ih =>
    rw [folderWalks, Tree.find?]
    by_cases he : n = name
    · subst he
      have hother : (n, files) ∉ folderWalks rest := by
        rw [ih, Tree.find?_eq_none hfresh]
        simp
      rw [if_pos rfl]
      by_cases hskipped : n ∈ skippedFolders
      · simp [hskipped, hother]
      · simp [hskipped, hother, walk]
    · rw [if_neg he, ← ih]
      split
      · rfl
      · simp [Ne.symm he]

/-- A path in a walk is the name of a file, or that of a folder before a path in its own walk. -/
theorem cons_mem_walk_iff {t : Tree} (h : t.IsProper) {name : String} {rest : List String} :
    name :: rest ∈ walk t ↔ (rest = [] ∧ ∃ bytes, t.find? name = some (.file bytes)) ∨
      ∃ entries, t.find? name = some (.folder entries) ∧ name ∉ skippedFolders ∧
        rest ∈ walk entries := by
  have hfiles : name :: rest ∈ (byName (fileNames t)).map ([·]) ↔
      rest = [] ∧ ∃ bytes, t.find? name = some (.file bytes) := by
    rw [← mem_fileNames_iff h]
    simp only [List.mem_map, byName, List.mem_mergeSort, List.cons.injEq]
    constructor
    · rintro ⟨name', hmem, rfl, rfl⟩
      exact ⟨rfl, hmem⟩
    · rintro ⟨rfl, hmem⟩
      exact ⟨name, hmem, rfl, rfl⟩
  have hfolders : name :: rest ∈ inFolders (folderWalks t) ↔
      ∃ entries, t.find? name = some (.folder entries) ∧ name ∉ skippedFolders ∧
        rest ∈ walk entries := by
    simp only [inFolders, List.mem_flatMap, List.mem_mergeSort, List.mem_map, List.cons.injEq,
      Prod.exists, mem_folderWalks_iff h]
    constructor
    · rintro ⟨_, _, ⟨entries, hfolder, hkept, rfl⟩, _, hrest, rfl, rfl⟩
      exact ⟨entries, hfolder, hkept, hrest⟩
    · rintro ⟨entries, hfolder, hkept, hrest⟩
      exact ⟨name, _, ⟨entries, hfolder, hkept, rfl⟩, rest, hrest, rfl, rfl⟩
  rw [walk, List.mem_append, hfiles, hfolders]

theorem nil_not_mem_walk {t : Tree} (h : t.IsProper) : [] ∉ walk t :=
  fun hmem => ((isWalk_walk h).names [] hmem).2 rfl

/-- **A walk comes to the files that lie in no skipped folder**, and to nothing else. -/
theorem mem_walk_iff {t : Tree} (h : t.IsProper) {parts : List String} :
    parts ∈ walk t ↔
      t.hasFile parts = true ∧ ∀ folder ∈ parts.dropLast, folder ∉ skippedFolders := by
  induction parts generalizing t with
  | nil =>
    constructor
    · intro hmem
      exact absurd hmem (nil_not_mem_walk h)
    · rintro ⟨hfile, _⟩
      cases hfile
  | cons name rest ih =>
    rw [cons_mem_walk_iff h]
    by_cases hrest : rest = []
    · subst hrest
      rw [Tree.hasFile_iff]
      constructor
      · rintro (⟨_, hfile⟩ | ⟨entries, hfolder, _, hmem⟩)
        · exact ⟨hfile, fun _ hf => nomatch hf⟩
        · exact absurd hmem (nil_not_mem_walk (h.find? hfolder).2)
      · rintro ⟨hfile, _⟩
        exact .inl ⟨rfl, hfile⟩
    · have hbelow : t.hasFile (name :: rest) = true ↔
          ∃ entries, t.find? name = some (.folder entries) ∧ entries.hasFile rest = true := by
        rw [← List.singleton_append, Tree.hasFile_append_iff hrest]
        simp only [Tree.folder?_eq_some_iff, Tree.node?]
      rw [hbelow, List.dropLast_cons_of_ne_nil hrest, List.forall_mem_cons]
      constructor
      · rintro (⟨hnil, _⟩ | ⟨entries, hfolder, hkept, hmem⟩)
        · exact absurd hnil hrest
        · obtain ⟨hfile, hinner⟩ := (ih (h.find? hfolder).2).mp hmem
          exact ⟨⟨entries, hfolder, hfile⟩, hkept, hinner⟩
      · rintro ⟨⟨entries, hfolder, hfile⟩, hkept, hinner⟩
        exact .inr ⟨entries, hfolder, hkept, (ih (h.find? hfolder).2).mpr ⟨hfile, hinner⟩⟩

/-! ## The order of a walk -/

/-- The order in which files are listed: those of a folder by name, before those of the folders in
it, which come by name one after another. -/
inductive ComesFirst : List String → List String → Prop
  | files {name other : String} (h : name < other) : ComesFirst [name] [other]
  | file {name folder : String} {rest : List String} (hrest : rest ≠ []) :
    ComesFirst [name] (folder :: rest)
  | folders {folder other : String} {rest rest' : List String} (h : folder < other)
    (hrest : rest ≠ []) (hrest' : rest' ≠ []) : ComesFirst (folder :: rest) (other :: rest')
  | inside {folder : String} {rest rest' : List String} (h : ComesFirst rest rest') :
    ComesFirst (folder :: rest) (folder :: rest')

/-- What is sorted by keys that are all different has growing keys. -/
theorem pairwise_sorted {α : Type} {key : α → String} {xs : List α} (h : (xs.map key).Nodup) :
    (xs.mergeSort fun a b => decide (key a ≤ key b)).Pairwise fun a b => key a < key b := by
  have hperm := List.mergeSort_perm xs fun a b => decide (key a ≤ key b)
  have hdistinct := List.pairwise_map.mp ((hperm.map key).nodup_iff.mpr h)
  have hsorted : (xs.mergeSort fun a b => decide (key a ≤ key b)).Pairwise
      fun a b => decide (key a ≤ key b) = true := by
    apply List.pairwise_mergeSort
    · simpa using fun a b c => String.le_trans
    · simpa using fun a b => String.le_total _ _
  refine (hsorted.and hdistinct).imp fun {a b} hab => ?_
  exact Std.lt_of_le_of_ne (of_decide_eq_true hab.1) hab.2

/-- A walk is in order if those of the folders are. -/
theorem pairwise_walk_of {t : Tree} (h : t.IsProper)
    (hfolders : ∀ folder ∈ folderWalks t, folder.2.Pairwise ComesFirst) :
    (walk t).Pairwise ComesFirst := by
  obtain ⟨hnodup, hwalks⟩ := isWalk_folderWalks h
  have hfolder {folder : String × List (List String)}
      (hmem : folder ∈ (folderWalks t).mergeSort fun a b => decide (a.1 ≤ b.1)) :
      folder ∈ folderWalks t := List.mem_mergeSort.mp hmem
  rw [walk, List.pairwise_append, inFolders, List.pairwise_flatMap]
  refine ⟨?_, ⟨?_, ?_⟩, ?_⟩
  · rw [List.pairwise_map]
    have hnames : ((fileNames t).map id).Nodup := by
      rw [List.map_id]
      exact (nodup_fileNames h).1
    exact (pairwise_sorted hnames).imp .files
  · intro folder hmem
    rw [List.pairwise_map]
    exact (hfolders folder (hfolder hmem)).imp .inside
  · refine (pairwise_sorted hnodup).imp_of_mem fun hmem hmem' hlt parts hparts parts' hparts' => ?_
    obtain ⟨rest, hrest, rfl⟩ := List.mem_map.mp hparts
    obtain ⟨rest', hrest', rfl⟩ := List.mem_map.mp hparts'
    exact .folders hlt ((hwalks _ (hfolder hmem)).2.names _ hrest).2
      ((hwalks _ (hfolder hmem')).2.names _ hrest').2
  · intro parts hparts parts' hparts'
    obtain ⟨name, _, rfl⟩ := List.mem_map.mp hparts
    obtain ⟨folder, hmem, hparts'⟩ := List.mem_flatMap.mp hparts'
    obtain ⟨rest, hrest, rfl⟩ := List.mem_map.mp hparts'
    exact .file ((hwalks _ (hfolder hmem)).2.names _ hrest).2

/-- The induction goes into the folders of a tree before it comes to the tree itself. -/
theorem pairwise_folderWalks {t : Tree} (h : t.IsProper) :
    ∀ folder ∈ folderWalks t, folder.2.Pairwise ComesFirst := by
  induction h with
  | empty => exact fun _ hf => nomatch hf
  | file _ _ _ ih => exact ih
  | folder _ _ hentries _ ihentries ih =>
    rw [folderWalks]
    split
    · exact ih
    · intro folder hfolder
      rcases List.mem_cons.mp hfolder with rfl | hfolder
      · exact pairwise_walk_of hentries ihentries
      · exact ih folder hfolder

/-- **A walk is in order.** -/
theorem pairwise_walk {t : Tree} (h : t.IsProper) : (walk t).Pairwise ComesFirst :=
  pairwise_walk_of h (pairwise_folderWalks h)

end Disk

/-! ## Included and excluded files -/

/-- The name of a file, by the parts of its path. -/
def fileName (parts : List String) : String := parts.getLast?.getD ""

/-- A file has one of the suffixes, in any letter case. -/
def HasSuffix (extensions : List String) (parts : List String) : Prop :=
  ∃ extension ∈ extensions,
    Text.lowerString extension = String.ofList (Text.lower (suffixOfName (fileName parts).toList))

/-- One of the patterns fits the path of a file or its name. -/
def IsLeftOut (patterns : List String) (parts : List String) : Prop :=
  ∃ p ∈ patterns, Glob.fits p (joined parts) ∨ Glob.fits p (fileName parts)

instance (extensions parts : List String) : Decidable (HasSuffix extensions parts) :=
  inferInstanceAs (Decidable (∃ _ ∈ _, _))

instance (patterns parts : List String) : Decidable (IsLeftOut patterns parts) :=
  inferInstanceAs (Decidable (∃ _ ∈ _, _))

theorem lastName_joined {parts : List String} (h : AreNames parts) :
    lastName (joined parts) = fileName parts := by
  rw [lastName]
  by_cases hnil : parts = []
  · subst hnil
    rfl
  · rw [splitOn_joined h hnil, List.getLastD_eq_getLast?, List.getLast?_map, fileName]
    cases parts.getLast? <;> simp

theorem isIncluded_joined {extensions parts : List String} (h : AreNames parts) :
    isIncluded extensions (joined parts) = decide (HasSuffix extensions parts) := by
  have hname : (ofString (joined parts)).name = fileName parts := by
    rw [name, parts_ofString_joined h, fileName]
  rw [isIncluded, suffix, hname, Bool.eq_iff_iff, List.contains_iff_mem, List.mem_map,
    decide_eq_true_iff, HasSuffix]

theorem isExcluded_joined {patterns parts : List String} (h : AreNames parts) :
    isExcluded patterns (joined parts) = decide (IsLeftOut patterns parts) := by
  rw [isExcluded, lastName_joined h, Bool.eq_iff_iff, List.any_eq_true, decide_eq_true_iff,
    IsLeftOut]
  simp only [Bool.or_eq_true]

/-! ## Discovered files -/

/-- A file that discovery is to find below a folder. -/
structure IsSourceFile (root : Tree) (settings : DiscoverySettings) (top parts : List String) :
    Prop where
  below : parts ≠ []
  isFile : root.hasFile (top ++ parts) = true
  isKept : ∀ folder ∈ parts.dropLast, folder ∉ Disk.skippedFolders
  hasSuffix : HasSuffix settings.includeExtensions parts
  notLeftOut : ¬IsLeftOut settings.excludePatterns parts

/-- The files that a walk below a folder comes to. -/
def walked (root : Tree) (top : List String) : List (List String) :=
  ((root.folder? top).map Disk.walk).getD []

theorem mem_walked_iff {root : Tree} (h : root.IsProper) {top parts : List String} :
    parts ∈ walked root top ↔ parts ≠ [] ∧ root.hasFile (top ++ parts) = true ∧
      ∀ folder ∈ parts.dropLast, folder ∉ Disk.skippedFolders := by
  cases hfolder : root.folder? top with
  | none =>
    have hnone : parts ≠ [] → ¬root.hasFile (top ++ parts) = true := by
      intro hne hfile
      obtain ⟨entries, hentries, _⟩ := (Tree.hasFile_append_iff hne).mp hfile
      rw [hfolder] at hentries
      cases hentries
    rw [walked, hfolder]
    simpa using fun hne hfile => absurd hfile (hnone hne)
  | some entries =>
    have hentries := (h.folder? hfolder).2
    have hbelow (hne : parts ≠ []) :
        root.hasFile (top ++ parts) = true ↔ entries.hasFile parts = true := by
      rw [Tree.hasFile_append_iff hne, hfolder]
      simp
    rw [walked, hfolder]
    show parts ∈ Disk.walk entries ↔ _
    constructor
    · intro hmem
      have hne : parts ≠ [] := ((Disk.isWalk_walk hentries).names parts hmem).2
      rw [hbelow hne]
      exact ⟨hne, (Disk.mem_walk_iff hentries).mp hmem⟩
    · rintro ⟨hne, hreached⟩
      rw [hbelow hne] at hreached
      exact (Disk.mem_walk_iff hentries).mpr hreached

theorem isWalk_walked {root : Tree} (h : root.IsProper) (top : List String) :
    Disk.IsWalk (walked root top) ∧ (walked root top).Pairwise Disk.ComesFirst := by
  rw [walked]
  cases hfolder : root.folder? top with
  | none => exact ⟨⟨List.nodup_nil, fun _ hp => nomatch hp⟩, .nil⟩
  | some entries =>
    have hentries := (h.folder? hfolder).2
    exact ⟨Disk.isWalk_walk hentries, Disk.pairwise_walk hentries⟩

theorem consideredFiles_walked {control : VersionControl} {root : Tree} {top : List String}
    (houtside : control.files? root top = none) :
    consideredFiles control root top = (walked root top).map joined := by
  rw [consideredFiles, houtside, walked]
  cases root.folder? top <;> rfl

/-- Discovery keeps files of the walk by their suffixes and the patterns. -/
theorem discover_walked {control : VersionControl} {disk : Disk} (h : disk.root.IsProper)
    (settings : DiscoverySettings) {root : String}
    (houtside : control.files? disk.root (disk.resolve root).parts = none) :
    discover control disk settings root =
      ((walked disk.root (disk.resolve root).parts).filter fun parts =>
        HasSuffix settings.includeExtensions parts ∧
          ¬IsLeftOut settings.excludePatterns parts).map (disk.resolve root).append := by
  rw [discover]
  dsimp only
  rw [consideredFiles_walked houtside, List.filterMap_map, ← List.filterMap_eq_map,
    List.filterMap_filter]
  refine List.filterMap_congr fun parts hmem => ?_
  have hnames := ((isWalk_walked h _).1.names parts hmem).1
  have hfile := ((mem_walked_iff h).mp hmem).2.1
  simp [append, parts_ofString_joined hnames, isIncluded_joined hnames, isExcluded_joined hnames,
    hfile]

/-- **Discovery outside of version control finds exactly the source files**: each of them once, the
files of a folder by name before those of the folders in it, which come by name. More patterns to
exclude leave out the files that they fit, and change nothing else. -/
theorem source_files_found {control : VersionControl} {disk : Disk} (h : disk.root.IsProper)
    (settings : DiscoverySettings) (root : String)
    (houtside : control.files? disk.root (disk.resolve root).parts = none) :
    ∃ found : List (List String),
      discover control disk settings root = found.map (disk.resolve root).append ∧
      found.Nodup ∧ found.Pairwise Disk.ComesFirst ∧
      (∀ parts, parts ∈ found ↔ IsSourceFile disk.root settings (disk.resolve root).parts parts) ∧
      ∀ more, discover control disk
          { settings with excludePatterns := settings.excludePatterns ++ more } root =
        (found.filter fun parts => ¬IsLeftOut more parts).map (disk.resolve root).append := by
  obtain ⟨hwalk, hordered⟩ := isWalk_walked h (disk.resolve root).parts
  refine ⟨_, discover_walked h settings houtside, hwalk.nodup.filter _, hordered.filter _, ?_, ?_⟩
  · intro parts
    rw [List.mem_filter, mem_walked_iff h, decide_eq_true_iff]
    constructor
    · rintro ⟨⟨hbelow, hfile, hkept⟩, hsuffix, hleft⟩
      exact ⟨hbelow, hfile, hkept, hsuffix, hleft⟩
    · rintro ⟨hbelow, hfile, hkept, hsuffix, hleft⟩
      exact ⟨⟨hbelow, hfile, hkept⟩, hsuffix, hleft⟩
  · intro more
    rw [discover_walked h _ houtside, List.filter_filter]
    congr 1
    refine List.filter_congr fun parts _ => ?_
    have hleft : IsLeftOut (settings.excludePatterns ++ more) parts ↔
        IsLeftOut settings.excludePatterns parts ∨ IsLeftOut more parts := by
      simp only [IsLeftOut, List.mem_append, or_and_right, exists_or]
    rw [Bool.eq_iff_iff]
    simp only [Bool.and_eq_true, decide_eq_true_iff, hleft, not_or]
    tauto

/-- A folder with files of several kinds, outside of version control. -/
def mixedDisk : Disk where
  root := .folder "work"
    (.file "main.PY" []
      (.file "app.min.js" []
        (.folder "lib" (.file "a.go" [] .empty)
          (.folder "build" (.file "b.go" [] .empty) .empty)))) .empty
  cwd := ⟨"/", ["work"]⟩

theorem isProper_mixedDisk : mixedDisk.root.IsProper :=
  have hlib : (Tree.file "a.go" [] .empty).IsProper := .file (by decide) List.not_mem_nil .empty
  have hbuild : (Tree.file "b.go" [] .empty).IsProper := .file (by decide) List.not_mem_nil .empty
  have hfolders := Tree.IsProper.folder (by decide) List.not_mem_nil hbuild .empty
  .folder (by decide) List.not_mem_nil
    (.file (by decide) (by decide)
      (.file (by decide) (by decide) (.folder (by decide) (by decide) hlib hfolders)))
    .empty

theorem source_files_found_in_mixedDisk :
    mixedDisk.root.IsProper ∧
      VersionControl.absent.files? mixedDisk.root (mixedDisk.resolve ".").parts = none ∧
      ∃ found : List (List String),
        discover .absent mixedDisk {} "." = found.map (mixedDisk.resolve ".").append ∧
        found.Nodup ∧ ["main.PY"] ∈ found ∧ ["lib", "a.go"] ∈ found ∧
        ["build", "b.go"] ∉ found ∧ ["app.min.js"] ∉ found := by
  have houtside :
      VersionControl.absent.files? mixedDisk.root (mixedDisk.resolve ".").parts = none := rfl
  obtain ⟨found, hdiscover, hnodup, _, hmem, _⟩ :=
    source_files_found isProper_mixedDisk {} "." houtside
  refine ⟨isProper_mixedDisk, houtside, found, hdiscover, hnodup, ?_, ?_, ?_, ?_⟩
  · exact (hmem _).mpr
      ⟨by decide, by decide +kernel, by decide, by decide +kernel, by decide +kernel⟩
  · exact (hmem _).mpr
      ⟨by decide, by decide +kernel, by decide, by decide +kernel, by decide +kernel⟩
  · exact fun hbuild => ((hmem _).mp hbuild).isKept "build" (by decide) (by decide)
  · exact fun hscript => ((hmem _).mp hscript).notLeftOut (by decide +kernel)

end Provenance

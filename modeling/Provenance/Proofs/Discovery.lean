import Provenance.Discovery
import Provenance.Proofs.Grouping
import Provenance.Proofs.Tree
import Mathlib.Data.List.Nodup

/-!
# Proofs — Discovery

What is discovered in a proper tree: paths that are absolute, and none of them twice
(`discover_lists`), whether the files are listed by version control or found by a walk. Of version
control it takes only that what it lists are paths (`VersionControl.ListsPaths`).
-/

namespace Provenance

open Provenance.Path

/-! ## Listings -/

/-- What a listing has of something below a folder: the path of a file, which is names joined by
slashes. A repository below the folder is listed with a slash behind it, and is no file. -/
inductive IsListed (root : Tree) (folder : List String) : String → Prop
  | file {parts : List String} (h : AreNames parts) : IsListed root folder (joined parts)
  | repository {parts : List String} (h : AreNames parts)
    (hfile : root.hasFile (folder ++ parts) = false) : IsListed root folder (joined parts ++ "/")

/-- Version control lists paths. -/
def VersionControl.ListsPaths (control : VersionControl) (root : Tree) : Prop :=
  ∀ folder listing, control.listing? root folder = some listing →
    ∀ file ∈ listedFiles listing, IsListed root folder file

/-- Files below a folder, none listed twice. -/
structure IsListing (root : Tree) (folder : List String) (files : List String) : Prop where
  nodup : files.Nodup
  listed : ∀ file ∈ files, IsListed root folder file

theorem nodup_listedFiles (listing : String) : (listedFiles listing).Nodup :=
  (List.mergeSort_perm _ _).nodup_iff.2 (nodup_eraseDups _)

/-- A file on disk has the path that it is listed by. -/
theorem IsListed.eq_joined {root : Tree} {folder : List String} {file : String}
    (h : IsListed root folder file)
    (hfile : root.hasFile (folder ++ (ofString file).parts) = true) :
    file = joined (ofString file).parts := by
  cases h with
  | file hnames => rw [parts_ofString_joined hnames]
  | repository hnames hnone =>
    rw [parts_ofString_slash, parts_ofString_joined hnames, hnone] at hfile
    cases hfile

namespace Disk

/-! ## Walks -/

/-- Files below a folder, by the parts of their paths: not the folder itself, and none twice. -/
structure IsWalk (files : List (List String)) : Prop where
  nodup : files.Nodup
  names : ∀ parts ∈ files, AreNames parts ∧ parts ≠ []

theorem mem_names_of_mem_fileNames {t : Tree} {name : String} (h : name ∈ fileNames t) :
    name ∈ t.names := by
  induction t with
  | empty => cases h
  | file n bytes rest ih =>
    rcases List.mem_cons.1 h with rfl | h
    · exact List.mem_cons_self
    · exact List.mem_cons_of_mem _ (ih h)
  | folder n entries rest _ ih => exact List.mem_cons_of_mem _ (ih h)

theorem nodup_fileNames {t : Tree} (h : t.IsProper) :
    (fileNames t).Nodup ∧ ∀ name ∈ fileNames t, isName name = true := by
  induction h with
  | empty => exact ⟨List.nodup_nil, fun _ hn => nomatch hn⟩
  | file hname hfresh _ ih =>
    refine ⟨List.nodup_cons.2 ⟨fun hm => hfresh (mem_names_of_mem_fileNames hm), ih.1⟩, ?_⟩
    intro n hn
    rcases List.mem_cons.1 hn with rfl | hn
    · exact hname
    · exact ih.2 n hn
  | folder _ _ _ _ _ ih => exact ih

/-- What stands below different folders is different. -/
theorem isWalk_inFolders {found : List (String × List (List String))}
    (hnodup : (found.map (·.1)).Nodup)
    (hfound : ∀ folder ∈ found, isName folder.1 = true ∧ IsWalk folder.2) :
    IsWalk (inFolders found) := by
  have hsorted := List.mergeSort_perm found fun a b => decide (a.1 ≤ b.1)
  constructor
  · rw [inFolders, List.nodup_flatMap]
    constructor
    · intro folder hfolder
      have hwalk := (hfound folder (hsorted.mem_iff.1 hfolder)).2
      exact hwalk.nodup.map fun _ _ he => List.tail_eq_of_cons_eq he
    · have hne := List.pairwise_map.1 ((hsorted.map (·.1)).nodup_iff.2 hnodup)
      refine hne.imp fun hne parts hparts hparts' => ?_
      obtain ⟨rest, _, rfl⟩ := List.mem_map.1 hparts
      obtain ⟨rest', _, he⟩ := List.mem_map.1 hparts'
      exact hne (List.head_eq_of_cons_eq he).symm
  · intro parts hparts
    obtain ⟨folder, hfolder, hparts⟩ := List.mem_flatMap.1 hparts
    obtain ⟨rest, hrest, rfl⟩ := List.mem_map.1 hparts
    obtain ⟨hname, hwalk⟩ := hfound folder (hsorted.mem_iff.1 hfolder)
    exact ⟨.cons hname (hwalk.names rest hrest).1, List.cons_ne_nil _ _⟩

/-- Files of the folder itself have paths of one part, and all others have longer ones. -/
theorem isWalk_walk_of {t : Tree} (h : t.IsProper) (hnodup : ((folderWalks t).map (·.1)).Nodup)
    (hwalks : ∀ folder ∈ folderWalks t, isName folder.1 = true ∧ IsWalk folder.2) :
    IsWalk (walk t) := by
  obtain ⟨hfiles, hnames⟩ := nodup_fileNames h
  have hsorted := List.mergeSort_perm (fileNames t) fun a b => decide (a ≤ b)
  have hin := isWalk_inFolders hnodup hwalks
  constructor
  · rw [walk, List.nodup_append]
    refine ⟨?_, hin.nodup, ?_⟩
    · exact (hsorted.nodup_iff.2 hfiles).map fun _ _ he => List.head_eq_of_cons_eq he
    · intro parts hparts parts' hparts' he
      obtain ⟨name, _, rfl⟩ := List.mem_map.1 hparts
      obtain ⟨folder, hfolder, hparts'⟩ := List.mem_flatMap.1 hparts'
      obtain ⟨rest, hrest, rfl⟩ := List.mem_map.1 hparts'
      have hwalk := (hwalks folder ((List.mergeSort_perm _ _).mem_iff.1 hfolder)).2
      exact (hwalk.names rest hrest).2 (List.tail_eq_of_cons_eq he).symm
  · intro parts hparts
    rcases List.mem_append.1 hparts with hparts | hparts
    · obtain ⟨name, hname, rfl⟩ := List.mem_map.1 hparts
      exact ⟨.cons (hnames name (hsorted.mem_iff.1 hname)) .nil, List.cons_ne_nil _ _⟩
    · exact hin.names parts hparts

theorem mem_names_of_mem_folderWalks {t : Tree} {folder : String × List (List String)}
    (h : folder ∈ folderWalks t) : folder.1 ∈ t.names := by
  induction t with
  | empty => cases h
  | file n bytes rest ih => exact List.mem_cons_of_mem _ (ih h)
  | folder n entries rest _ ih =>
    rw [folderWalks] at h
    split at h
    · exact List.mem_cons_of_mem _ (ih h)
    · rcases List.mem_cons.1 h with rfl | h
      · exact List.mem_cons_self
      · exact List.mem_cons_of_mem _ (ih h)

/-- The induction goes into the folders of a tree before it comes to the tree itself. -/
theorem isWalk_folderWalks {t : Tree} (h : t.IsProper) :
    ((folderWalks t).map (·.1)).Nodup ∧
      ∀ folder ∈ folderWalks t, isName folder.1 = true ∧ IsWalk folder.2 := by
  induction h with
  | empty => exact ⟨List.nodup_nil, fun _ hf => nomatch hf⟩
  | file _ _ _ ih => exact ih
  | @folder name entries rest hname hfresh hentries hrest ihentries ih =>
    rw [folderWalks]
    split
    · exact ih
    · constructor
      · refine List.nodup_cons.2 ⟨fun hm => ?_, ih.1⟩
        obtain ⟨folder, hfolder, he⟩ := List.mem_map.1 hm
        have he : folder.1 = name := he
        exact hfresh (he ▸ mem_names_of_mem_folderWalks hfolder)
      · intro folder hfolder
        rcases List.mem_cons.1 hfolder with rfl | hfolder
        · exact ⟨hname, isWalk_walk_of hentries ihentries.1 ihentries.2⟩
        · exact ih.2 folder hfolder

/-- **A walk comes to no file twice.** -/
theorem isWalk_walk {t : Tree} (h : t.IsProper) : IsWalk (walk t) :=
  isWalk_walk_of h (isWalk_folderWalks h).1 (isWalk_folderWalks h).2

theorem isListing_walk {root t : Tree} (h : t.IsProper) (folder : List String) :
    IsListing root folder ((walk t).map joined) := by
  have hwalk := isWalk_walk h
  constructor
  · refine List.Nodup.map_on (fun parts hparts parts' hparts' he => ?_) hwalk.nodup
    exact joined_injective (hwalk.names parts hparts).1 (hwalk.names parts' hparts').1 he
  · intro file hfile
    obtain ⟨parts, hparts, rfl⟩ := List.mem_map.1 hfile
    exact .file (hwalk.names parts hparts).1

end Disk

/-! ## Discovered files -/

theorem isListing_consideredFiles {control : VersionControl} {root : Tree} (h : root.IsProper)
    (hcontrol : control.ListsPaths root) (folder : List String) :
    IsListing root folder (consideredFiles control root folder) := by
  rw [consideredFiles, VersionControl.files?]
  split
  · rename_i listed hlisted
    split at hlisted
    · obtain ⟨listing, hlisting, rfl⟩ := Option.map_eq_some_iff.1 hlisted
      exact ⟨nodup_listedFiles listing, hcontrol folder listing hlisting⟩
    · cases hlisted
  · split
    · rename_i hfolder
      exact Disk.isListing_walk (h.folder? hfolder).2 folder
    · exact ⟨List.nodup_nil, fun _ hr => nomatch hr⟩

/-- **What is discovered are absolute paths, and none twice.** -/
theorem discover_lists {control : VersionControl} {disk : Disk} (h : disk.root.IsProper)
    (hcontrol : control.ListsPaths disk.root) (settings : DiscoverySettings) (root : String) :
    (discover control disk settings root).Nodup ∧
      ∀ path ∈ discover control disk settings root, path.IsAbsolute := by
  obtain ⟨hnodup, hlisted⟩ := isListing_consideredFiles h hcontrol (disk.resolve root).parts
  rw [discover]
  dsimp only
  constructor
  · refine List.pairwise_filterMap.2 (hnodup.imp_of_mem ?_)
    intro file file' hmem hmem' hne path hpath path' hpath' he
    split at hpath
    · rename_i hcondition
      split at hpath'
      · rename_i hcondition'
        cases hpath
        cases hpath'
        have hfile := (hlisted file hmem).eq_joined (Bool.and_eq_true_iff.1 hcondition).2
        have hfile' := (hlisted file' hmem').eq_joined (Bool.and_eq_true_iff.1 hcondition').2
        have hparts := List.append_cancel_left (congrArg Path.parts he)
        exact hne (by rw [hfile, hfile', hparts])
      · cases hpath'
    · cases hpath
  · intro path hpath
    obtain ⟨file, _, hpath⟩ := List.mem_filterMap.1 hpath
    split at hpath
    · rename_i hcondition
      cases hpath
      exact ⟨rfl, h.hasFile (Bool.and_eq_true_iff.1 hcondition).2⟩
    · cases hpath

end Provenance

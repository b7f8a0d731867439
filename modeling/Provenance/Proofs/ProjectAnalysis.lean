import Provenance.ProjectAnalysis
import Provenance.Proofs.Number.Percentage

/-!
# Proofs — ProjectAnalysis

Files whose lines are counted make up a project: their share of generated lines is a percentage,
whatever files there are (`gives_aggregate`).
-/

namespace Provenance

/-- An analysis that attributes no negative count of lines. -/
def HasCounts (a : FileAnalysis) : Prop := 0 ≤ a.generatedLines ∧ 0 ≤ a.humanLines

theorem total_nonneg {ns : List Int} (h : ∀ n ∈ ns, 0 ≤ n) : 0 ≤ total ns := by
  induction ns with
  | nil => exact Int.le_refl 0
  | cons n ns ih =>
    have hn := h n List.mem_cons_self
    have hns := ih fun m hm => h m (List.mem_cons_of_mem _ hm)
    rw [total_cons]
    omega

theorem sums_nonneg {files : List FileAnalysis} (h : ∀ a ∈ files, HasCounts a) :
    0 ≤ sumGenerated files ∧ 0 ≤ sumHuman files := by
  constructor
  · refine total_nonneg fun n hn => ?_
    obtain ⟨a, ha, rfl⟩ := List.mem_map.1 hn
    exact (h a ha).1
  · refine total_nonneg fun n hn => ?_
    obtain ⟨a, ha, rfl⟩ := List.mem_map.1 hn
    exact (h a ha).2

/-- Generated lines are a part of the attributed lines. -/
theorem gives_sharedPercentage {files : List FileAnalysis} (h : ∀ a ∈ files, HasCounts a) :
    Gives (sharedPercentage files) fun p => 0 ≤ p ∧ p ≤ 100 := by
  obtain ⟨hg, hh⟩ := sums_nonneg h
  exact gives_countPercentage hg (by omega)

/-- All that a project tells of its files. -/
theorem of_aggregate_eq_ok {path : String} {totalFiles : Int} {files : List FileAnalysis}
    {skipped : List SkippedFile} {timestamp : Timestamp} {project : ProjectAnalysis}
    (h : aggregate path totalFiles files skipped timestamp = .ok project) :
    ∃ share, sharedPercentage files = .ok share ∧ project = {
      path, totalFiles
      analyzedFiles := files.length
      totalLines := total (files.map fun f => f.totalLines)
      generatedLines := sumGenerated files
      humanLines := sumHuman files
      generatedPercentage := share, files, skipped, timestamp } := by
  obtain ⟨share, hshare, he⟩ := of_bind_eq_ok h
  cases he
  exact ⟨share, hshare, rfl⟩

/-- **The analyses of counted files make up a project**, which tells them as they are. -/
theorem gives_aggregate {files : List FileAnalysis} (h : ∀ a ∈ files, HasCounts a) (path : String)
    (totalFiles : Int) (skipped : List SkippedFile) (timestamp : Timestamp) :
    Gives (aggregate path totalFiles files skipped timestamp) fun project =>
      project.files = files ∧ project.skipped = skipped ∧ project.timestamp = timestamp :=
  (gives_sharedPercentage h).bind fun _ _ => .pure ⟨rfl, rfl, rfl⟩

end Provenance

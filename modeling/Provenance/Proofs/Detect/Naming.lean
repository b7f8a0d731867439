import Provenance.Detect.Naming
import Provenance.Proofs.Detect.Evidence
import Provenance.Proofs.Grouping
import Provenance.Proofs.Number.Percentage

/-!
# Proofs — Detect — Naming

The naming detector finishes on every file, since it only divides by counts of names that are there,
and what it finds is sound: lines of code, those of some names or those of a block
(`gives_detect`). It reads names and their order, and not where in the file they stand
(`detect_padded`).
-/

namespace Provenance.Detect.Naming

open Binary64 Lexis

variable {settings : NamingSettings} {ls : List Line}

/-! ## Confidence -/

/-- A share of names on top of a base. -/
theorem gives_confidence (base : Nat) (hb : base ≤ 90) {share : Binary64} (hs : Between 0 1 share) :
    Gives (confidence base share) fun c => base ≤ c ∧ c ≤ 90 := by
  have hsum := (between_count base (by omega)).raise (hs.scale 200 (by omega)) (by omega)
  exact gives_capped base 90 (between_count 90 (by omega)) hsum hb

/-- A contrast between conventions. -/
theorem gives_islandConfidence {contrast : Binary64} (h : Between 0 1 contrast) :
    Gives (islandConfidence contrast) fun c => 35 ≤ c ∧ c ≤ 85 := by
  have hsum := (between_count 35 (by omega)).raise (h.scale 50 (by omega)) (by omega)
  exact gives_capped 35 85 (between_count 85 (by omega)) hsum (by omega)

/-! ## Uses of names -/

/-- A name is used on a line of code. -/
theorem mem_uses {u : Use} (h : u ∈ uses (codeLines ls)) :
    ∃ l ∈ codeLines ls, l.number = u.line := by
  obtain ⟨l, hl, hu⟩ := List.mem_flatMap.1 h
  obtain ⟨name, _, rfl⟩ := List.mem_map.1 hu
  exact ⟨l, hl, rfl⟩

/-- The lines of some uses of names make a sound finding. -/
theorem isSound_of_uses {us : List Use} (hne : us ≠ [])
    (hu : ∀ u ∈ us, u ∈ uses (codeLines ls)) {f : Finding} (hk : f.kind = .naming)
    (hc : 30 ≤ f.confidence ∧ f.confidence ≤ 90)
    (hl : f.lines = us.map fun u => (u.line : Int)) : IsSound ls .naming f := by
  refine ⟨hk, by omega, by omega, ?_, ?_⟩
  · rw [hl]
    exact fun hnil => hne (List.map_eq_nil_iff.1 hnil)
  · intro n hn
    rw [hl] at hn
    obtain ⟨u, hmem, rfl⟩ := List.mem_map.1 hn
    obtain ⟨l, hl, he⟩ := mem_uses (hu u hmem)
    exact ⟨l, hl, by rw [he]⟩

/-! ## Placeholder names -/

theorem gives_placeholders :
    Gives (placeholders settings (uses (codeLines ls))) fun fs =>
      ∀ f ∈ fs, IsSound ls .naming f := by
  have hsub : (placeholderUses (uses (codeLines ls))).Sublist (uses (codeLines ls)) :=
    List.filter_sublist
  have hmin : 1 ≤ settings.minMatches.val := settings.minMatches.property
  have hlen := hsub.length_le
  rw [placeholders]
  split
  · exact .pure (by simp)
  rename_i hfound
  refine (gives_share (by omega) hlen).bind fun share hs => ?_
  refine (gives_confidence 30 (by omega) hs).bind fun confidence hc => .pure fun f hf => ?_
  rw [List.mem_singleton.1 hf]
  have hne : placeholderUses (uses (codeLines ls)) ≠ [] := List.ne_nil_of_length_pos (by omega)
  exact isSound_of_uses hne (fun u hu => hsub.subset hu) rfl hc rfl

/-! ## Boilerplate names -/

/-- What a share is above a smaller share. -/
theorem between_excess {share : Binary64} (hs : Between 0 1 share) (bound : PositiveShare)
    (h : ¬ share < bound.val) : Between 0 1 (share - bound.val) := by
  have hb : Between 0 1 bound.val :=
    between_of_le (Binary64.le_of_lt bound.property.2) bound.property.1
  have hle : bound.val.toRat ≤ share.toRat := by
    rw [lt_iff hs hb] at h
    exact not_lt.1 h
  show Between 0 1 (share + -bound.val)
  have hneg := hb.neg
  rw [add_eq hs hneg, toRat_neg hb]
  refine between_ofRat isExact_zero isExact_one (by linarith) ?_ _
  linarith [hs.toRat.2, hb.toRat.1]

theorem gives_boilerplate :
    Gives (boilerplate settings (uses (codeLines ls))) fun fs =>
      ∀ f ∈ fs, IsSound ls .naming f := by
  have hmin : 1 ≤ settings.minMatches.val := settings.minMatches.property
  rw [boilerplate]
  generalize hdistinct : ((uses (codeLines ls)).map Use.name).eraseDups = distinct
  have hlen := List.length_filter_le isBoilerplate distinct
  split
  · exact .pure (by simp)
  rename_i hfound
  refine (gives_share (by omega) hlen).bind fun share hs => ?_
  split
  · exact .pure (by simp)
  rename_i hshare
  have hexcess := between_excess hs settings.verboseFraction hshare
  refine (gives_confidence 35 (by omega) hexcess).bind fun confidence hc => .pure fun f hf => ?_
  have hbounds : 30 ≤ confidence ∧ confidence ≤ 90 := by omega
  rw [List.mem_singleton.1 hf]
  suffices hne : ((uses (codeLines ls)).filter fun u => isBoilerplate u.name) ≠ [] from
    isSound_of_uses hne (fun u hu => List.mem_of_mem_filter hu) rfl hbounds rfl
  -- a boilerplate name among the distinct names is the name of some use
  have hne : distinct.filter isBoilerplate ≠ [] := List.ne_nil_of_length_pos (by omega)
  obtain ⟨name, hname⟩ := List.exists_mem_of_ne_nil _ hne
  obtain ⟨hname, hb⟩ := List.mem_filter.1 hname
  rw [← hdistinct] at hname
  obtain ⟨u, hu, rfl⟩ := List.mem_map.1 (List.mem_eraseDups.1 hname)
  exact List.ne_nil_of_mem (List.mem_filter.2 ⟨hu, hb⟩)

/-! ## Uniform islands -/

theorem Tally.count_le_total (t : Tally) (convention : Convention) :
    t.count convention ≤ t.total := by
  rw [Tally.total]
  cases convention <;> simp only [Tally.count] <;> omega

theorem gives_contrast {convention : Convention} {rest : Tally} (h : rest.total ≠ 0) :
    Gives (contrast convention rest) (Between 0 1) := by
  refine (gives_share (by omega) (rest.count_le_total convention)).bind fun share hs => .pure ?_
  have := between_one.sub hs (by simpa using isExact_zero) (by simpa using isExact_one)
  simpa using this

/-- A block of code that stands out makes a sound finding. -/
theorem gives_island? {block : List Line} (hne : block ≠ [])
    (hcode : ∀ l ∈ block, l ∈ codeLines ls) (rest : Tally) :
    Gives (island? settings block rest) fun f? => ∀ f ∈ f?, IsSound ls .naming f := by
  rw [island?]
  split
  · exact .pure (by simp)
  rename_i convention _
  split
  · exact .pure (by simp)
  rename_i hcounts
  refine (gives_contrast (fun h => hcounts (.inr h))).bind fun contrast hcontrast => ?_
  split
  · exact .pure (by simp)
  refine (gives_islandConfidence hcontrast).bind fun confidence hc => .pure fun f hf => ?_
  cases hf
  have hbounds : 0 ≤ confidence ∧ confidence ≤ 100 := by omega
  exact ⟨rfl, hbounds.1, hbounds.2, fun hnil => hne (List.map_eq_nil_iff.1 hnil),
    ofCode_block hcode⟩

theorem gives_islands :
    Gives (islands settings (codeLines ls)) fun fs => ∀ f ∈ fs, IsSound ls .naming f := by
  have hblock : 4 ≤ settings.blockLines.val := settings.blockLines.property
  rw [islands]
  split
  · exact .ok (by simp)
  refine Gives.filterMapM fun entry hentry => ?_
  obtain ⟨block, i⟩ := entry
  have hmem := List.fst_mem_of_mem_zipIdx hentry
  have hcode : ∀ l ∈ block, l ∈ codeLines ls := fun l hl =>
    mem_of_mem_chunks (by omega) hmem hl
  exact gives_island? (ne_nil_of_mem_chunks hmem) hcode _

/-! ## The detector -/

/-- **The naming detector finds only lines of code.** -/
theorem gives_detect (settings : NamingSettings) (ls : List Line) :
    Gives (detect settings ls) fun fs => ∀ f ∈ fs, IsSound ls .naming f := by
  rw [detect]
  split
  · exact .pure (by simp)
  refine gives_placeholders.bind fun placeholders hp => gives_boilerplate.bind fun boilerplate hb =>
    gives_islands.bind fun islands hi => .pure ?_
  intro f hf
  rcases List.mem_append.1 hf with hf | hf
  · rcases List.mem_append.1 hf with hf | hf
    · exact hp f hf
    · exact hb f hf
  · exact hi f hf

/-! ## Files that are moved down -/

section Moved

variable (settings) {moved count : Nat} {padded front back : List Line}

def Use.moveDown (moved : Nat) (u : Use) : Use := { u with line := u.line + moved }

theorem uses_moveDown (code : List Line) :
    uses (code.map (Line.moveDown moved)) = (uses code).map (Use.moveDown moved) := by
  unfold uses
  rw [List.flatMap_map, List.map_flatMap]
  congr 1
  funext l
  rw [List.map_map]
  rfl

theorem map_name_moveDown (us : List Use) :
    (us.map (Use.moveDown moved)).map Use.name = us.map Use.name := by
  rw [List.map_map]
  rfl

theorem map_line_moveDown (us : List Use) :
    (us.map (Use.moveDown moved)).map (fun u => (u.line : Int)) =
      (us.map fun u => (u.line : Int)).map (· + (moved : Int)) := by
  rw [List.map_map, List.map_map]
  rfl

theorem sequentialStems_moveDown (us : List Use) :
    sequentialStems (us.map (Use.moveDown moved)) = sequentialStems us := by
  unfold sequentialStems
  rw [List.filterMap_map]
  rfl

theorem placeholderUses_moveDown (us : List Use) :
    placeholderUses (us.map (Use.moveDown moved)) =
      (placeholderUses us).map (Use.moveDown moved) := by
  simp only [placeholderUses, sequentialStems_moveDown, List.filter_map]
  rfl

theorem placeholders_moveDown (us : List Use) :
    placeholders settings (us.map (Use.moveDown moved)) =
      List.map (Finding.moveDown moved) <$> placeholders settings us := by
  unfold placeholders
  simp only [placeholderUses_moveDown, List.length_map]
  split
  · rfl
  · simp only [map_bind, map_pure]
    apply bind_congr
    intro share
    apply bind_congr
    intro c
    simp only [placeholderFinding, Finding.moveDown, map_name_moveDown, map_line_moveDown,
      List.map_cons, List.map_nil]

theorem boilerplate_moveDown (us : List Use) :
    boilerplate settings (us.map (Use.moveDown moved)) =
      List.map (Finding.moveDown moved) <$> boilerplate settings us := by
  have hfilter : (us.map (Use.moveDown moved)).filter (fun u => isBoilerplate u.name) =
      (us.filter fun u => isBoilerplate u.name).map (Use.moveDown moved) := by
    rw [List.filter_map]
    rfl
  unfold boilerplate
  simp only [map_name_moveDown]
  split
  · rfl
  · simp only [map_bind]
    apply bind_congr
    intro share
    split
    · rfl
    · simp only [map_bind, map_pure]
      apply bind_congr
      intro c
      simp only [boilerplateFinding, Finding.moveDown, hfilter, map_line_moveDown, List.map_cons,
        List.map_nil]

theorem ofBlock_moveDown (block : List Line) :
    Tally.ofBlock (block.map (Line.moveDown moved)) = Tally.ofBlock block := by
  unfold Tally.ofBlock
  rw [List.map_map]
  rfl

theorem island?_moveDown (block : List Line) (rest : Tally) :
    island? settings (block.map (Line.moveDown moved)) rest =
      Option.map (Finding.moveDown moved) <$> island? settings block rest := by
  unfold island?
  simp only [ofBlock_moveDown]
  cases (Tally.ofBlock block).only? with
  | none => rfl
  | some convention =>
    dsimp only
    split
    · rfl
    · simp only [map_bind]
      apply bind_congr
      intro contrast
      split
      · rfl
      · simp only [map_bind, map_pure]
        apply bind_congr
        intro c
        simp only [islandFinding, Finding.moveDown, map_number_moveDown, Option.map_some]

theorem islands_moveDown (code : List Line) :
    islands settings (code.map (Line.moveDown moved)) =
      List.map (Finding.moveDown moved) <$> islands settings code := by
  have htallies : (Tally.ofBlock ∘ List.map (Line.moveDown moved)) = Tally.ofBlock := by
    funext block
    exact ofBlock_moveDown block
  unfold islands
  rw [List.length_map]
  split
  · rfl
  · simp only [chunks_map, List.map_map, htallies, List.zipIdx_map]
    apply filterMapM_map_of_comm
    intro entry _
    exact island?_moveDown settings entry.1 _

theorem detect_padded (h : IsPadded count moved ls padded front back) :
    detect settings padded = List.map (Finding.moveDown moved) <$> detect settings ls := by
  unfold detect
  simp only [h.codeLines_eq, uses_moveDown, List.map_eq_nil_iff, placeholders_moveDown,
    boilerplate_moveDown, islands_moveDown]
  split
  · rfl
  · simp only [bind_map_left, map_bind, map_pure, List.map_append]

end Moved

end Provenance.Detect.Naming

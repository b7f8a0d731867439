import Provenance.Proofs.Detect.Naming

/-!
# Proofs — Detect — Naming — Island

Which blocks are told as uniform islands. Of the two conventions that are weighed against each other
the names of such a block follow one only, and the rest of the code has names of these conventions
too (`IsIsland`). If a contrast above zero is asked for, some of them follow the other convention;
if none is asked for, a block is told also where the whole code follows one convention
(`one_convention_told`). Blocks that are told share no line (`islands_stand_apart`).
-/

namespace Provenance.Lexis

/-! ## Weighed conventions -/

/-- The two conventions that are weighed against each other. -/
def Convention.IsWeighed (convention : Convention) : Prop :=
  convention = .snakeCase ∨ convention = .camelCase

/-- The convention that a weighed one is weighed against. -/
def Convention.opposite : Convention → Convention
  | .snakeCase => .camelCase
  | .camelCase => .snakeCase
  | convention => convention

theorem Convention.IsWeighed.opposite {convention : Convention} (h : convention.IsWeighed) :
    convention.opposite.IsWeighed := by
  rcases h with rfl | rfl
  · exact .inr rfl
  · exact .inl rfl

theorem Convention.IsWeighed.eq_or_eq {convention other : Convention} (h : convention.IsWeighed)
    (hother : other.IsWeighed) : other = convention ∨ other = convention.opposite := by
  rcases h with rfl | rfl
  · exact hother
  · exact hother.symm

end Provenance.Lexis

namespace Provenance.Detect.Naming

open Binary64 Lexis

variable {settings : NamingSettings} {code : List Line} {convention : Convention}

/-! ## Tallies -/

namespace Tally

@[simp] theorem count_add (t u : Tally) (convention : Convention) :
    (t.add u).count convention = t.count convention + u.count convention := by
  cases convention <;> simp [add, count]

theorem total_eq_count_add (h : convention.IsWeighed) (t : Tally) :
    t.total = t.count convention + t.count convention.opposite := by
  rcases h with rfl | rfl
  · rfl
  · exact Nat.add_comm _ _

/-- All counted names follow one convention. -/
theorem of_only? {t : Tally} (h : t.only? = some convention) :
    convention.IsWeighed ∧ t.count convention.opposite = 0 := by
  rw [only?] at h
  split at h
  · rename_i hsnake
    cases h
    exact ⟨.inl rfl, hsnake.2⟩
  · split at h
    · rename_i hcamel
      cases h
      exact ⟨.inr rfl, hcamel.1⟩
    · cases h

theorem ofBlock_cons (l : Line) (block : List Line) :
    ofBlock (l :: block) = add (ofNames (names l.text).eraseDups) (ofBlock block) := rfl

theorem ofBlock_append (front back : List Line) :
    ofBlock (front ++ back) = add (ofBlock front) (ofBlock back) := by
  induction front with
  | nil => simp [ofBlock, sum, add]
  | cons l front ih =>
    rw [List.cons_append, ofBlock_cons, ofBlock_cons, ih]
    simp [add, Nat.add_assoc]

/-- The tallies of blocks add up to the tally of their lines. -/
theorem sum_map_ofBlock (blocks : List (List Line)) :
    sum (blocks.map ofBlock) = ofBlock blocks.flatten := by
  induction blocks with
  | nil => rfl
  | cons block blocks ih =>
    rw [List.flatten_cons, ofBlock_append, ← ih]
    rfl

theorem count_ofNames_eq_zero_iff (h : convention.IsWeighed) (ns : List (List Char)) :
    (ofNames ns).count convention = 0 ↔ ∀ name ∈ ns, Convention.ofName name ≠ convention := by
  rcases h with rfl | rfl <;> simp [ofNames, count]

/-- **Nothing is counted of a convention that no name of a block follows.** -/
theorem count_ofBlock_eq_zero_iff (h : convention.IsWeighed) (block : List Line) :
    (ofBlock block).count convention = 0 ↔
      ∀ l ∈ block, ∀ name ∈ names l.text, Convention.ofName name ≠ convention := by
  induction block with
  | nil => rcases h with rfl | rfl <;> simp [ofBlock, sum, count]
  | cons l block ih =>
    rw [ofBlock_cons, count_add, Nat.add_eq_zero_iff, count_ofNames_eq_zero_iff h, ih]
    simp [List.mem_eraseDups]

theorem exists_name (h : convention.IsWeighed) {block : List Line}
    (hcount : (ofBlock block).count convention ≠ 0) :
    ∃ l ∈ block, ∃ name ∈ names l.text, Convention.ofName name = convention := by
  by_contra hnone
  refine hcount ((count_ofBlock_eq_zero_iff h block).2 ?_)
  intro l hl name hname he
  exact hnone ⟨l, hl, name, hname, he⟩

end Tally

/-! ## Contrast -/

/-- Where all names outside a block follow its convention there is no contrast. -/
theorem gives_contrast_of_all {rest : Tally} (hne : rest.total ≠ 0)
    (hall : rest.count convention = rest.total) :
    Gives (contrast convention rest) (Between 0 0) := by
  have hquotient : Gives (countQuotient (rest.count convention) rest.total) (Between 1 1) := by
    rw [hall]
    refine (gives_divide (by omega) isExact_one isExact_one ?_ ?_).mapError <;> simp
  refine hquotient.bind fun share hshare => .pure ?_
  simpa using between_one.sub hshare (by simpa using isExact_zero) (by simpa using isExact_zero)

/-- **A contrast above zero is one with names of the other convention.** -/
theorem count_opposite_ne_zero (h : convention.IsWeighed) {rest : Tally} (hne : rest.total ≠ 0)
    {value : Binary64} (hvalue : contrast convention rest = .ok value)
    (hpos : 0 < settings.minContrast.val) (henough : ¬value < settings.minContrast.val) :
    rest.count convention.opposite ≠ 0 := by
  intro hnone
  have hall : rest.count convention = rest.total := by
    rw [Tally.total_eq_count_add h, hnone, Nat.add_zero]
  obtain ⟨zero, hzero, hbetween⟩ := gives_contrast_of_all hne hall
  obtain rfl := Except.ok.inj (hvalue.symm.trans hzero)
  have hmin : Between 0 1 settings.minContrast.val :=
    between_of_le settings.minContrast.property.2 settings.minContrast.property.1
  have hminpos : 0 < settings.minContrast.val.toRat := by
    have := (lt_iff between_zero hmin).1 hpos
    rwa [le_antisymm between_zero.toRat.2 between_zero.toRat.1] at this
  refine henough ((lt_iff hbetween hmin).2 ?_)
  rwa [le_antisymm hbetween.toRat.2 hbetween.toRat.1]

/-! ## Islands -/

/-- Names of a convention on some lines. -/
def HasName (lines : List Line) (convention : Convention) : Prop :=
  ∃ l ∈ lines, ∃ name ∈ names l.text, Convention.ofName name = convention

instance (lines : List Line) (convention : Convention) : Decidable (HasName lines convention) :=
  inferInstanceAs (Decidable (∃ l ∈ lines, ∃ name ∈ names l.text,
    Convention.ofName name = convention))

/-- A block of code stands out by a convention between the code in front of it and behind it. -/
structure IsIsland (settings : NamingSettings) (code front block back : List Line)
    (convention : Convention) : Prop where
  code_eq : code = front ++ block ++ back
  chunk : block ∈ chunks settings.blockLines.val code
  weighed : convention.IsWeighed
  /-- Names of the block that follow a weighed convention follow this one. -/
  uniform : ∀ l ∈ block, ∀ name ∈ names l.text,
    (Convention.ofName name).IsWeighed → Convention.ofName name = convention
  enough : settings.minNames.val ≤ (Tally.ofBlock block).total
  outside : ∃ other, other.IsWeighed ∧ HasName (front ++ back) other
  contrast : 0 < settings.minContrast.val → HasName (front ++ back) convention.opposite

/-- What a finding says of an island: its convention and its lines. Where lines are numbered from
one the finding is a pattern on just these lines. -/
structure TellsOfIsland (block : List Line) (convention : Convention) (f : Finding) : Prop where
  kind_eq : f.kind = .naming
  description_eq : f.description = "Block uses only " ++ convention.text ++
    " names while the rest of the file mixes conventions"
  signature_eq : f.signature = convention.text
  lines_eq : f.lines = block.map fun l => (l.number : Int)
  pattern : (∀ l ∈ block, 1 ≤ l.number) →
    ∃ p, f.check = .ok p ∧ p.lines = block.map Line.number

theorem tellsOfIsland_islandFinding {block : List Line} (hne : block ≠ [])
    (hincrease : block.Pairwise fun l l' => l.number < l'.number) {c : Int}
    (hc : 35 ≤ c ∧ c ≤ 85) (convention : Convention) :
    TellsOfIsland block convention (islandFinding c convention block) := by
  refine ⟨rfl, rfl, rfl, rfl, fun hpos => ?_⟩
  refine Finding.gives_pattern_of_increasing ?_ (mt List.map_eq_nil_iff.1 hne) ?_
    (List.pairwise_map.2 hincrease) ?_
  · rw [List.map_map]
    rfl
  · constructor
    · show 0 ≤ c
      omega
    · show c ≤ 100
      omega
  · intro n hn
    obtain ⟨l, hl, rfl⟩ := List.mem_map.1 hn
    exact hpos l hl

/-- A block that is told is an island. -/
theorem gives_island?_told {front block back : List Line} (hcode : code = front ++ block ++ back)
    (hchunk : block ∈ chunks settings.blockLines.val code)
    (hincrease : block.Pairwise fun l l' => l.number < l'.number) :
    Gives (island? settings block (Tally.ofBlock (front ++ back))) fun f? => ∀ f ∈ f?,
      ∃ convention, IsIsland settings code front block back convention ∧
        TellsOfIsland block convention f := by
  rw [island?]
  split
  · exact .pure (by simp)
  rename_i convention honly
  split
  · exact .pure (by simp)
  rename_i hcounts
  obtain ⟨hfew, hrest⟩ := not_or.1 hcounts
  obtain ⟨hweighed, hnone⟩ := Tally.of_only? honly
  have hgives : Gives (Naming.contrast convention (Tally.ofBlock (front ++ back))) (Between 0 1) :=
    gives_contrast hrest
  obtain ⟨value, hvalue, hbetween⟩ := hgives
  rw [hvalue]
  show Gives (if _ then _ else _) _
  split
  · exact .pure (by simp)
  rename_i henough
  refine (gives_islandConfidence hbetween).bind fun c hc => .pure fun f hf => ?_
  cases hf
  refine ⟨convention, ⟨hcode, hchunk, hweighed, ?_, Nat.not_lt.1 hfew, ?_, ?_⟩,
    tellsOfIsland_islandFinding (ne_nil_of_mem_chunks hchunk) hincrease hc convention⟩
  · intro l hl name hname hname'
    have hnot := (Tally.count_ofBlock_eq_zero_iff hweighed.opposite block).1 hnone l hl name hname
    exact (hweighed.eq_or_eq hname').resolve_right hnot
  · rw [Tally.total_eq_count_add hweighed] at hrest
    by_cases hown : (Tally.ofBlock (front ++ back)).count convention = 0
    · refine ⟨_, hweighed.opposite, Tally.exists_name hweighed.opposite ?_⟩
      omega
    · exact ⟨_, hweighed, Tally.exists_name hweighed hown⟩
  · intro hpos
    exact Tally.exists_name hweighed.opposite
      (count_opposite_ne_zero hweighed hrest hvalue hpos henough)

/-! ## Pieces of code -/

/-- A piece stands between those in front of it and those behind it. -/
theorem chunks_around {size i : Nat} (hsize : 0 < size) {block : List Line}
    (h : (chunks size code)[i]? = some block) :
    code = ((chunks size code).take i).flatten ++ block ++
      ((chunks size code).drop (i + 1)).flatten := by
  obtain ⟨hi, rfl⟩ := List.getElem?_eq_some_iff.1 h
  calc code = (chunks size code).flatten := (flatten_chunks hsize code).symm
    _ = ((chunks size code).take i ++ (chunks size code).drop i).flatten := by
      rw [List.take_append_drop]
    _ = _ := by
      rw [List.drop_eq_getElem_cons hi, List.flatten_append, List.flatten_cons, List.append_assoc]

/-- The tallies of the other pieces add up to the tally of the code around a piece. -/
theorem sum_eraseIdx_tallies (blocks : List (List Line)) (i : Nat) :
    Tally.sum ((blocks.map Tally.ofBlock).eraseIdx i) =
      Tally.ofBlock ((blocks.take i).flatten ++ (blocks.drop (i + 1)).flatten) := by
  rw [List.eraseIdx_map, Tally.sum_map_ofBlock, List.eraseIdx_eq_take_drop_succ,
    List.flatten_append]

/-- Different pieces share no line. -/
theorem pairwise_chunks {size : Nat} (hsize : 0 < size)
    (hnumbers : code.Pairwise fun l l' => l.number < l'.number) :
    (∀ block ∈ chunks size code, block.Pairwise fun l l' => l.number < l'.number) ∧
      (chunks size code).Pairwise fun block block' =>
        ∀ l ∈ block, ∀ l' ∈ block', l.number < l'.number := by
  rw [← flatten_chunks hsize code] at hnumbers
  exact List.pairwise_flatten.1 hnumbers

/-- What is told tells of pieces of the code, in their order. -/
theorem gives_islands_told (hsize : 0 < settings.blockLines.val)
    (hinside : ∀ block ∈ chunks settings.blockLines.val code,
      block.Pairwise fun l l' => l.number < l'.number) :
    Gives (islands settings code) fun found =>
      ∃ kept, kept.Sublist (chunks settings.blockLines.val code).zipIdx ∧
        List.Forall₂ (fun entry f => ∃ front back convention,
          IsIsland settings code front entry.1 back convention ∧
            TellsOfIsland entry.1 convention f) kept found := by
  rw [islands]
  split
  · exact .ok ⟨[], List.nil_sublist _, .nil⟩
  · refine Gives.filterMapM_forall₂ fun entry hentry => ?_
    obtain ⟨block, i⟩ := entry
    have hget := List.mem_zipIdx_iff_getElem?.1 hentry
    have hchunk := List.mem_of_getElem? hget
    have htold := gives_island?_told (chunks_around hsize hget) hchunk (hinside block hchunk)
    rw [← sum_eraseIdx_tallies] at htold
    refine htold.mono fun f? hf f hmem => ?_
    obtain ⟨convention, h⟩ := hf f hmem
    exact ⟨_, _, convention, h⟩

/-- **Blocks that are told as islands stand apart**, in all code whose lines are in the order of
their numbers: each of them is an island by the convention that it is told with, on just its lines,
and no two of them share a line. -/
theorem islands_stand_apart (settings : NamingSettings) {code : List Line}
    (hnumbers : code.Pairwise fun l l' => l.number < l'.number) :
    ∃ found, islands settings code = .ok found ∧
      (∀ f ∈ found, ∃ front block back convention,
        IsIsland settings code front block back convention ∧
          TellsOfIsland block convention f) ∧
      found.Pairwise fun f g => ∀ n ∈ f.lines, n ∉ g.lines := by
  have hsize : 0 < settings.blockLines.val := by
    have h : 4 ≤ settings.blockLines.val := settings.blockLines.property
    omega
  obtain ⟨hinside, hapart⟩ := pairwise_chunks hsize hnumbers
  obtain ⟨found, hfound, kept, hkept, htells⟩ := gives_islands_told hsize hinside
  refine ⟨found, hfound, ?_, ?_⟩
  · intro f hf
    obtain ⟨entry, _, front, back, convention, h⟩ := exists_of_mem_forall₂ htells hf
    exact ⟨front, entry.1, back, convention, h⟩
  · have hentries : ((chunks settings.blockLines.val code).zipIdx.map Prod.fst).Pairwise
        fun block block' => ∀ l ∈ block, ∀ l' ∈ block', l.number < l'.number := by
      rwa [List.zipIdx_map_fst]
    have hentries := List.pairwise_map.1 hentries
    refine pairwise_of_forall₂ ?_ htells (hentries.sublist hkept)
    intro entry entry' f g hf hg hbefore n hn hn'
    obtain ⟨_, _, _, _, hf⟩ := hf
    obtain ⟨_, _, _, _, hg⟩ := hg
    rw [hf.lines_eq] at hn
    rw [hg.lines_eq] at hn'
    obtain ⟨l, hl, rfl⟩ := List.mem_map.1 hn
    obtain ⟨l', hl', he⟩ := List.mem_map.1 hn'
    have := hbefore l hl l' hl'
    omega

/-- Lines of code from one on. -/
def codeFrom (texts : List String) : List Line :=
  texts.zipIdx.map fun entry => ⟨entry.2 + 1, entry.1.toList, .code⟩

/-- Two blocks in the two conventions are two islands, and each of them stands out by names
of the other convention. -/
theorem two_conventions_told :
    let settings : NamingSettings := { blockLines := ⟨4, by decide⟩, minNames := ⟨2, by decide⟩ }
    let code := codeFrom ["a_b = 1", "c_d = 2", "(", ")", "aB = 1", "cD = 2", "(", ")"]
    (code.Pairwise fun l l' => l.number < l'.number) ∧ 0 < settings.minContrast.val ∧
      ∃ found, islands settings code = .ok found ∧
        (∀ f ∈ found, ∃ front block back convention,
          IsIsland settings code front block back convention ∧
            TellsOfIsland block convention f) ∧
        (found.Pairwise fun f g => ∀ n ∈ f.lines, n ∉ g.lines) ∧
        found.map Finding.signature = ["snake_case", "camelCase"] := by
  intro settings code
  have hnumbers : code.Pairwise fun l l' => l.number < l'.number := by decide +kernel
  obtain ⟨found, hfound, htells, hapart⟩ := islands_stand_apart settings hnumbers
  have hsignatures : List.map Finding.signature <$> islands settings code =
      .ok ["snake_case", "camelCase"] := by
    decide +kernel
  rw [hfound] at hsignatures
  exact ⟨hnumbers, by decide +kernel, found, hfound, htells, hapart, Except.ok.inj hsignatures⟩

/-- Where no contrast is asked for, blocks are told in code that follows one convention only. -/
theorem one_convention_told :
    let settings : NamingSettings :=
      { blockLines := ⟨4, by decide⟩
        minNames := ⟨2, by decide⟩
        minContrast := ⟨0, by decide +kernel⟩ }
    let code := codeFrom ["a_b = 1", "c_d = 2", "(", ")", "e_f = 1", "g_h = 2", "(", ")"]
    (code.Pairwise fun l l' => l.number < l'.number) ∧
      List.map Finding.lines <$> islands settings code = .ok [[1, 2, 3, 4], [5, 6, 7, 8]] ∧
      ¬HasName code .camelCase := by
  decide +kernel

end Provenance.Detect.Naming

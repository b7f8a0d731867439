import Provenance.Proofs.Detect.Structure
import Provenance.Proofs.Grouping.Chain

/-!
# Proofs — Detect — Structure — Chain

Which lines are repeated. A line of code repeats a shape if it has that shape, the shape has enough
tokens, and the line imports nothing (`CanRepeat`). Lines that repeat a shape, each of them within
the window of the one before it, are a chain. The detector makes one finding of each maximal chain
that has enough lines, and of nothing else (`chains_told_once`).
-/

namespace Provenance.Detect.Structure

open Lexis

variable {settings : StructureSettings} {code : List ShapedLine} {shape : Shape}

/-! ## Lines of a shape -/

/-- A line of code repeats a shape: it has the shape, the shape has enough tokens, and the line
imports nothing. -/
structure CanRepeat (settings : StructureSettings) (code : List ShapedLine) (shape : Shape)
    (l : Line) : Prop where
  of_code : ⟨l, shape⟩ ∈ code
  large : settings.minTokens.val ≤ shape.length
  no_import : isImport l.text = false

/-- The lines that can be repeated, each with its shape. -/
def repeatable (settings : StructureSettings) (code : List ShapedLine) : List (Shape × Line) :=
  (code.filter fun s =>
    decide (settings.minTokens.val ≤ s.shape.length) && !isImport s.line.text).map
      fun s => (s.shape, s.line)

theorem mem_repeatable_iff {l : Line} :
    (shape, l) ∈ repeatable settings code ↔ CanRepeat settings code shape l := by
  simp only [repeatable, List.mem_map, List.mem_filter, Bool.and_eq_true, decide_eq_true_eq,
    Bool.not_eq_true', Prod.mk.injEq]
  constructor
  · rintro ⟨⟨_, _⟩, ⟨hcode, hlarge, himport⟩, rfl, rfl⟩
    exact ⟨hcode, hlarge, himport⟩
  · intro h
    exact ⟨_, ⟨h.of_code, h.large, h.no_import⟩, rfl, rfl⟩

/-- **A shape is looked for among the lines that repeat it.** -/
theorem mem_linesByShape_iff {lines : List Line} (h : (shape, lines) ∈ linesByShape settings code)
    {l : Line} : l ∈ lines ↔ CanRepeat settings code shape l := by
  rw [← mem_repeatable_iff, eq_of_mem_group h, List.mem_map]
  constructor
  · rintro ⟨⟨_, _⟩, hentry, rfl⟩
    obtain ⟨hentry, hkey⟩ := List.mem_filter.1 hentry
    rwa [← of_decide_eq_true hkey]
  · intro hentry
    exact ⟨_, List.mem_filter.2 ⟨hentry, decide_eq_true rfl⟩, rfl⟩

theorem CanRepeat.exists_lines {l : Line} (h : CanRepeat settings code shape l) :
    ∃ lines, (shape, lines) ∈ linesByShape settings code :=
  ⟨_, group_of_mem (mem_repeatable_iff.2 h)⟩

theorem linesByShape_increase (hnumbers : NumbersIncrease code) {lines : List Line}
    (h : (shape, lines) ∈ linesByShape settings code) :
    lines.Pairwise fun l l' => l.number < l'.number := by
  rw [eq_of_mem_group h]
  refine List.pairwise_map.2 (List.Pairwise.filter _ ?_)
  exact List.pairwise_map.2 (hnumbers.filter _)

/-! ## Chains -/

/-- The clusters of enough lines, each with the shape of its lines. -/
def chains (settings : StructureSettings) (code : List ShapedLine) : List (Shape × List Line) :=
  (linesByShape settings code).flatMap fun entry =>
    ((clusters Line.number settings.window.val entry.2).filter fun c =>
      decide (settings.minRepeats.val ≤ c.length)).map fun c => (entry.1, c)

theorem mem_chains {chain : List Line} :
    (shape, chain) ∈ chains settings code ↔
      ∃ lines, (shape, lines) ∈ linesByShape settings code ∧
        chain ∈ clusters Line.number settings.window.val lines ∧
        settings.minRepeats.val ≤ chain.length := by
  simp only [chains, List.mem_flatMap, List.mem_map, List.mem_filter, decide_eq_true_eq,
    Prod.mk.injEq]
  constructor
  · rintro ⟨⟨_, lines⟩, hlines, _, ⟨hc, henough⟩, rfl, rfl⟩
    exact ⟨lines, hlines, hc, henough⟩
  · rintro ⟨lines, hlines, hc, henough⟩
    exact ⟨_, hlines, chain, ⟨hc, henough⟩, rfl, rfl⟩

/-- **The chains are the maximal ones with enough lines.** -/
theorem mem_chains_iff (hnumbers : NumbersIncrease code) {chain : List Line} :
    (shape, chain) ∈ chains settings code ↔
      IsMaximalChain Line.number settings.window.val (CanRepeat settings code shape) chain ∧
        settings.minRepeats.val ≤ chain.length := by
  have hclusters : ∀ lines, (shape, lines) ∈ linesByShape settings code →
      (chain ∈ clusters Line.number settings.window.val lines ↔
        IsMaximalChain Line.number settings.window.val (CanRepeat settings code shape) chain) := by
    intro lines hlines
    have hmem : (· ∈ lines) = CanRepeat settings code shape :=
      funext fun l => propext (mem_linesByShape_iff hlines)
    rw [mem_clusters_iff (linesByShape_increase hnumbers hlines), hmem]
  rw [mem_chains]
  constructor
  · rintro ⟨lines, hlines, hc, henough⟩
    exact ⟨(hclusters lines hlines).1 hc, henough⟩
  · rintro ⟨hchain, henough⟩
    obtain ⟨l, hl⟩ := List.exists_mem_of_ne_nil chain hchain.ne_nil
    obtain ⟨lines, hlines⟩ := (hchain.mem l hl).exists_lines
    exact ⟨lines, hlines, (hclusters lines hlines).2 hchain, henough⟩

/-- Lines of one number are one line. -/
theorem CanRepeat.eq_of_number (hnumbers : NumbersIncrease code) {shape' : Shape} {l l' : Line}
    (h : CanRepeat settings code shape l) (h' : CanRepeat settings code shape' l')
    (he : l.number = l'.number) : shape = shape' ∧ l = l' := by
  have hsame := List.inj_on_of_nodup_map (List.pairwise_map.2 (hnumbers.imp Nat.ne_of_lt))
    h.of_code h'.of_code he
  cases hsame
  exact ⟨rfl, rfl⟩

/-- Chains that share a line are one. -/
theorem eq_of_mem_chains (hnumbers : NumbersIncrease code) {r r' : Shape × List Line}
    (hr : r ∈ chains settings code) (hr' : r' ∈ chains settings code) {l l' : Line} (hl : l ∈ r.2)
    (hl' : l' ∈ r'.2) (he : l.number = l'.number) : r = r' := by
  obtain ⟨shape, chain⟩ := r
  obtain ⟨shape', chain'⟩ := r'
  obtain ⟨lines, hlines, hc, _⟩ := mem_chains.1 hr
  obtain ⟨lines', hlines', hc', _⟩ := mem_chains.1 hr'
  have hcan := (mem_linesByShape_iff hlines).1 (mem_of_mem_clusters hc hl)
  have hcan' := (mem_linesByShape_iff hlines').1 (mem_of_mem_clusters hc' hl')
  obtain ⟨rfl, rfl⟩ := hcan.eq_of_number hnumbers hcan' he
  -- one shape is looked for once, so both are clusters of the same lines
  obtain rfl : lines = lines' := (eq_of_mem_group hlines).trans (eq_of_mem_group hlines').symm
  rw [eq_of_mem_clusters (linesByShape_increase hnumbers hlines) hc hc' hl hl']

theorem nodup_chains (hnumbers : NumbersIncrease code) : (chains settings code).Nodup := by
  refine List.nodup_flatMap.2 ⟨?_, ?_⟩
  · rintro ⟨shape, lines⟩ hlines
    have hclusters : (clusters Line.number settings.window.val lines).Nodup :=
      nodup_clusters (linesByShape_increase hnumbers hlines)
    exact (hclusters.filter _).map fun _ _ he => (Prod.mk.inj he).2
  · refine (List.pairwise_map.1 (nodup_keys_group _)).imp ?_
    intro entry entry' hkey r hr hr'
    obtain ⟨_, _, rfl⟩ := List.mem_map.1 hr
    obtain ⟨_, _, he⟩ := List.mem_map.1 hr'
    exact hkey (Prod.mk.inj he).1.symm

/-- **No line is in two chains.** -/
theorem chains_disjoint (hnumbers : NumbersIncrease code) :
    (chains settings code).Pairwise fun r r' => ∀ l ∈ r.2, ∀ l' ∈ r'.2, l.number ≠ l'.number := by
  refine List.Pairwise.imp_of_mem ?_ (nodup_chains hnumbers)
  intro r r' hr hr' hne l hl l' hl' he
  exact hne (eq_of_mem_chains hnumbers hr hr' hl hl' he)

/-! ## Findings -/

/-- What a finding says of a chain: its shape, how long it is, and on which lines it is. Where lines
are numbered from one the finding is a pattern on just these lines. -/
structure TellsOfChain (shape : Shape) (chain : List Line) (f : Finding) : Prop where
  kind_eq : f.kind = .structural
  signature_eq : f.signature = Shape.text shape
  confidence_eq : f.confidence = confidence chain.length shape.length
  lines_eq : f.lines = chain.map fun l => (l.number : Int)
  pattern : (∀ l ∈ chain, 1 ≤ l.number) →
    ∃ p, f.check = .ok p ∧ p.lines = chain.map Line.number

theorem lineFinding?_eq_none {chain : List Line} (h : chain.length < settings.minRepeats.val) :
    lineFinding? settings shape chain = none := by
  cases chain with
  | nil => rfl
  | cons first rest => exact if_pos h

/-- A maximal chain of enough lines is told. -/
theorem exists_lineFinding? {chain : List Line} (hne : chain ≠ [])
    (hincrease : chain.Pairwise fun l l' => l.number < l'.number)
    (henough : settings.minRepeats.val ≤ chain.length) :
    ∃ f, lineFinding? settings shape chain = some f ∧ TellsOfChain shape chain f := by
  obtain ⟨first, rest, rfl⟩ := List.exists_cons_of_ne_nil hne
  refine ⟨lineFinding shape first rest, if_neg (Nat.not_lt.2 henough), rfl, rfl, rfl, rfl, ?_⟩
  intro hpos
  have hbounds := confidence_bounds (List.length_pos_of_ne_nil hne) shape.length
  refine Finding.gives_pattern_of_increasing ?_ (mt List.map_eq_nil_iff.1 hne) ?_
    (List.pairwise_map.2 hincrease) ?_
  · rw [List.map_map]
    rfl
  · exact ⟨Int.le_trans (by decide) hbounds.1, Int.le_trans hbounds.2 (by decide)⟩
  · intro n hn
    obtain ⟨l, hl, rfl⟩ := List.mem_map.1 hn
    exact hpos l hl

/-- The findings are those of the chains. -/
theorem findingsIn_linesByShape (settings : StructureSettings) (code : List ShapedLine) :
    findingsIn settings Line.number (fun shape _ => lineFinding? settings shape)
      (linesByShape settings code) =
    (chains settings code).filterMap fun r => lineFinding? settings r.1 r.2 := by
  rw [chains, List.filterMap_flatMap, findingsIn]
  congr 1
  funext entry
  rw [List.filterMap_map, List.filterMap_filter]
  congr 1
  funext c
  by_cases henough : settings.minRepeats.val ≤ c.length
  · simp [henough]
  · simp [henough, lineFinding?_eq_none (Nat.not_le.1 henough)]

theorem forall₂_filterMap {α β : Type} {R : α → β → Prop} {f : α → Option β} {xs : List α}
    (h : ∀ x ∈ xs, ∃ y, f x = some y ∧ R x y) : List.Forall₂ R xs (xs.filterMap f) := by
  induction xs with
  | nil => exact .nil
  | cons x xs ih =>
    obtain ⟨y, hy, hR⟩ := h x List.mem_cons_self
    rw [List.filterMap_cons_some hy]
    exact .cons hR (ih fun x hx => h x (List.mem_cons_of_mem _ hx))

/-- Findings tell of chains: the chains are the maximal ones that have enough lines, each of them
once, there is one finding for each of them, in their order, and no two findings share a line. -/
structure TellsChains (settings : StructureSettings) (code : List ShapedLine)
    (chains : List (Shape × List Line)) (found : List Finding) : Prop where
  nodup : chains.Nodup
  mem_iff : ∀ shape chain, (shape, chain) ∈ chains ↔
    IsMaximalChain Line.number settings.window.val (CanRepeat settings code shape) chain ∧
      settings.minRepeats.val ≤ chain.length
  tells : List.Forall₂ (fun r f => TellsOfChain r.1 r.2 f) chains found
  apart : found.Pairwise fun f g => ∀ n ∈ f.lines, n ∉ g.lines

/-- **Each maximal chain of enough lines is told once, and nothing else is**, in all code whose
lines are in the order of their numbers. -/
theorem chains_told_once (settings : StructureSettings) {code : List ShapedLine}
    (hnumbers : NumbersIncrease code) :
    ∃ chains found, lineRepeats settings code = .ok found ∧
      TellsChains settings code chains found := by
  have htold : ∀ r ∈ chains settings code,
      ∃ f, lineFinding? settings r.1 r.2 = some f ∧ TellsOfChain r.1 r.2 f := by
    rintro ⟨shape, chain⟩ hr
    obtain ⟨hchain, henough⟩ := (mem_chains_iff hnumbers).1 hr
    exact exists_lineFinding? hchain.ne_nil hchain.near.pairwise henough
  refine ⟨chains settings code, _, lineRepeats_eq settings code, nodup_chains hnumbers,
    fun _ _ => mem_chains_iff hnumbers, ?_, ?_⟩
  · rw [findingsIn_linesByShape]
    exact forall₂_filterMap htold
  · rw [findingsIn_linesByShape, List.pairwise_filterMap]
    refine (chains_disjoint hnumbers).imp_of_mem ?_
    intro r r' hr hr' hapart f hf f' hf' n hn hn'
    obtain ⟨_, hf₂, htells⟩ := htold r hr
    obtain ⟨_, hf₂', htells'⟩ := htold r' hr'
    obtain rfl := Option.some.inj (hf.symm.trans hf₂)
    obtain rfl := Option.some.inj (hf'.symm.trans hf₂')
    rw [htells.lines_eq] at hn
    rw [htells'.lines_eq] at hn'
    obtain ⟨l, hl, rfl⟩ := List.mem_map.1 hn
    obtain ⟨l', hl', he⟩ := List.mem_map.1 hn'
    exact hapart l hl l' hl' (Int.ofNat.inj he).symm

/-- Calls on the lines 1, 2, 5, 7 and 10 of a file. -/
def calls : List ShapedLine :=
  shapedLines ([(1, "a = f(b)"), (2, "b = f(c)"), (5, "c = f(d)"), (7, "d = f(e)"),
    (10, "e = f(g)")].map fun (number, text) => ⟨number, text.toList, .code⟩)

/-- A distance of the window joins two calls, a larger one parts them, and one call is no
repetition. -/
theorem calls_told_once :
    let tight : StructureSettings := { minRepeats := ⟨2, by decide⟩, window := ⟨2, by decide⟩ }
    NumbersIncrease calls ∧ ∃ chains found, lineRepeats tight calls = .ok found ∧
      TellsChains tight calls chains found ∧ found.map Finding.lines = [[1, 2], [5, 7]] := by
  intro tight
  have hnumbers : NumbersIncrease calls := by decide +kernel
  obtain ⟨chains, found, hfound, htells⟩ := chains_told_once tight hnumbers
  have hlines : List.map Finding.lines <$> lineRepeats tight calls = .ok [[1, 2], [5, 7]] := by
    decide +kernel
  rw [hfound] at hlines
  exact ⟨hnumbers, chains, found, hfound, htells, Except.ok.inj hlines⟩

end Provenance.Detect.Structure

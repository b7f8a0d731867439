import Mathlib.Data.List.Sort
import Provenance.Pattern
import Provenance.Proofs.Checked

/-!
# Proofs — Pattern

What findings make patterns (`Finding.gives_pattern`), and findings and patterns whose lines are
moved down. A finding that is moved down passes its check as it did before, and makes the same
pattern further down (`Finding.check_moveDown`).
-/

namespace Provenance

variable {moved : Nat}

/-! ## Numbers of lines -/

theorem insertNumber_moveDown (n : Nat) (ms : List Nat) :
    insertNumber (n + moved) (ms.map (· + moved)) = (insertNumber n ms).map (· + moved) := by
  induction ms with
  | nil => rfl
  | cons m ms ih =>
    simp only [List.map_cons, insertNumber, Nat.add_lt_add_iff_right, Nat.add_right_cancel_iff, ih]
    split
    · rfl
    · split <;> rfl

theorem ascending_moveDown (ns : List Nat) :
    ascending (ns.map (· + moved)) = (ascending ns).map (· + moved) := by
  induction ns with
  | nil => rfl
  | cons n ns ih =>
    show insertNumber (n + moved) (ascending (ns.map (· + moved))) = _
    rw [ih, insertNumber_moveDown]
    rfl

/-- Distinct numbers are only brought into order. -/
theorem ascending_perm {ns : List Nat} (h : ns.Nodup) : (ascending ns).Perm ns :=
  (List.perm_ext_iff_of_nodup ((pairwise_ascending ns).imp Nat.ne_of_lt) h).2
    fun _ => mem_ascending

theorem insertNumber_of_lt {n : Nat} {ms : List Nat} (h : ∀ m ∈ ms, n < m) :
    insertNumber n ms = n :: ms := by
  cases ms with
  | nil => rfl
  | cons m ms => exact if_pos (h m List.mem_cons_self)

/-- Numbers that ascend stay as they are. -/
theorem ascending_eq_self {ns : List Nat} (h : ns.Pairwise (· < ·)) : ascending ns = ns := by
  induction ns with
  | nil => rfl
  | cons n ns ih =>
    obtain ⟨hn, hns⟩ := List.pairwise_cons.1 h
    show insertNumber n (ascending ns) = n :: ns
    rw [ih hns, insertNumber_of_lt hn]

/-! ## Checks -/

/-- **A finding makes a pattern** if it has lines, all of them from one on, and a percentage for its
confidence. -/
theorem Finding.gives_pattern {f : Finding} (hne : f.lines ≠ [])
    (hconfidence : 0 ≤ f.confidence ∧ f.confidence ≤ 100) (hpos : ∀ n ∈ f.lines, 1 ≤ n) :
    Gives f.check fun p => p.kind = f.kind ∧ p.lines = ascending (f.lines.map Int.toNat) := by
  have hshare : ¬ (f.confidence < 0 ∨ 100 < f.confidence) := by omega
  have habove : ¬ ∃ n ∈ f.lines, n < 1 := by
    rintro ⟨n, hn, hlt⟩
    have := hpos n hn
    omega
  rw [Finding.check, dif_neg hne, dif_neg hshare, dif_neg habove]
  exact .ok ⟨rfl, rfl⟩

/-- A finding on lines that ascend makes a pattern on just these lines. -/
theorem Finding.gives_pattern_of_increasing {f : Finding} {ns : List Nat}
    (hlines : f.lines = ns.map fun (n : Nat) => (n : Int)) (hne : ns ≠ [])
    (hconfidence : 0 ≤ f.confidence ∧ f.confidence ≤ 100) (hincrease : ns.Pairwise (· < ·))
    (hpos : ∀ n ∈ ns, 1 ≤ n) : Gives f.check fun p => p.lines = ns := by
  refine (f.gives_pattern ?_ hconfidence ?_).mono fun p hp => ?_
  · rw [hlines]
    exact mt List.map_eq_nil_iff.1 hne
  · rw [hlines]
    intro n hn
    obtain ⟨m, hm, rfl⟩ := List.mem_map.1 hn
    exact_mod_cast hpos m hm
  · rw [hp.2, hlines, List.map_map]
    simpa [Function.comp_def] using ascending_eq_self hincrease

/-! ## Patterns -/

/-- A pattern on lines that are further down. -/
def Pattern.moveDown (moved : Nat) (p : Pattern) : Pattern :=
  { p with
    lines := p.lines.map (· + moved)
    lines_ne := by simpa using p.lines_ne
    lines_pos := by
      intro n hn
      obtain ⟨m, hm, rfl⟩ := List.mem_map.1 hn
      exact Nat.le_add_right_of_le (p.lines_pos m hm)
    lines_ascend := by
      rw [List.pairwise_map]
      exact p.lines_ascend.imp fun h => Nat.add_lt_add_right h moved }

theorem Pattern.moveDown_zero : Pattern.moveDown 0 = id := by
  funext p
  obtain ⟨kind, description, confidence, signature, lines⟩ := p
  simp [Pattern.moveDown]

/-! ## Findings -/

/-- A finding on lines that are further down. -/
def Finding.moveDown (moved : Nat) (f : Finding) : Finding :=
  { f with lines := f.lines.map (· + (moved : Int)) }

/-- What passes its check passes it further down. -/
theorem Finding.check_moveDown {f : Finding} (hpos : ∀ n ∈ f.lines, 1 ≤ n) :
    (f.moveDown moved).check = Pattern.moveDown moved <$> f.check := by
  have habove : ¬ ∃ n ∈ f.lines, n < 1 := by
    rintro ⟨n, hn, hlt⟩
    have := hpos n hn
    omega
  have habove' : ¬ ∃ n ∈ (f.moveDown moved).lines, n < 1 := by
    rintro ⟨n, hn, hlt⟩
    obtain ⟨m, hm, rfl⟩ := List.mem_map.1 hn
    have := hpos m hm
    omega
  have hlines : ascending ((f.moveDown moved).lines.map Int.toNat) =
      (ascending (f.lines.map Int.toNat)).map (· + moved) := by
    rw [← ascending_moveDown, List.map_map]
    show ascending ((f.lines.map _).map _) = _
    rw [List.map_map]
    congr 1
    apply List.map_congr_left
    intro n hn
    have := hpos n hn
    show (n + (moved : Int)).toNat = n.toNat + moved
    omega
  have hconfidence : (f.moveDown moved).confidence = f.confidence := rfl
  by_cases hnil : f.lines = []
  · have hnil' : (f.moveDown moved).lines = [] := by rw [Finding.moveDown, hnil]; rfl
    rw [Finding.check, Finding.check, dif_pos hnil, dif_pos hnil']
    rfl
  · have hnil' : (f.moveDown moved).lines ≠ [] := fun h => hnil (List.map_eq_nil_iff.1 h)
    rw [Finding.check, Finding.check, dif_neg hnil, dif_neg hnil']
    by_cases hc : f.confidence < 0 ∨ 100 < f.confidence
    · rw [dif_pos hc, dif_pos (hconfidence ▸ hc)]
      rfl
    · rw [dif_neg hc, dif_neg (hconfidence ▸ hc), dif_neg habove, dif_neg habove']
      simp only [hlines]
      rfl

end Provenance

import Mathlib.Data.List.Nodup
import Mathlib.Tactic.SplitIfs
import Provenance.Settings.Dotenv

/-!
# Proofs — Settings — Dotenv

Assignment files are read to their end: every line that is read is left behind
(`length_readLine_lt`), so that neither their lines nor the references in a value outlast the fuel
(`readLines_eq_of_lt`, `expand_eq_of_le`). A variable is set by its last line and has one value
(`nodup_read`).
-/

namespace Provenance.Dotenv

open Text

variable {cs after : List Char}

/-! ## What is left behind -/

theorem length_closeValue?_lt {quote : Char} {interior : List Char}
    (h : closeValue? quote cs = some (interior, after)) : after.length < cs.length := by
  induction cs using closeValue?.induct quote generalizing interior with
  | case1 => cases h
  | case2 c cs ih =>
    rw [closeValue?] at h
    obtain ⟨⟨i, a⟩, hi, he⟩ := Option.map_eq_some_iff.1 h
    cases he
    have := ih hi
    simp only [List.length_cons]
    omega
  | case3 cs hbackslash =>
    rw [closeValue?, if_pos rfl] at h
    · cases h
      exact Nat.lt_succ_self _
    · exact hbackslash
  | case4 c cs hbackslash hquote ih =>
    rw [closeValue?, if_neg hquote] at h
    · obtain ⟨⟨i, a⟩, hi, he⟩ := Option.map_eq_some_iff.1 h
      cases he
      exact Nat.lt_succ_of_lt (ih hi)
    · exact hbackslash

theorem length_value?_le {value : List Char} (h : value? cs = some (value, after)) :
    after.length ≤ cs.length := by
  have hgap := length_dropWhile_le isGap cs
  rw [value?] at h
  split at h
  · rename_i quoted hquoted
    obtain ⟨⟨interior, a⟩, hclosed, he⟩ := Option.map_eq_some_iff.1 h
    cases he
    have := length_closeValue?_lt hclosed
    rw [hquoted, List.length_cons] at hgap
    omega
  · rename_i quoted hquoted
    obtain ⟨⟨interior, a⟩, hclosed, he⟩ := Option.map_eq_some_iff.1 h
    cases he
    have := length_closeValue?_lt hclosed
    rw [hquoted, List.length_cons] at hgap
    omega
  · cases h
    exact length_dropWhile_le _ cs

theorem length_dropExport_le (cs : List Char) : (dropExport cs).length ≤ cs.length := by
  unfold dropExport
  split
  · rename_i c rest
    split
    · have := length_dropWhile_le isGap rest
      simp only [List.length_cons]
      omega
    · exact Nat.le_refl _
  · exact Nat.le_refl _

/-- Only a comment is left where it stands. -/
theorem length_name?_lt {name : Option (List Char)} (h : name? cs = some (name, after)) :
    after.length < cs.length ∨ after = cs ∧ cs.head? = some '#' := by
  unfold name? at h
  split at h
  · cases h
    exact .inr ⟨rfl, rfl⟩
  · rename_i quoted
    split at h
    · cases h
    · cases h
    · rename_i hrest _
      cases h
      left
      have := length_dropWhile_le (· != '\'') quoted
      rw [hrest, List.length_cons] at this
      rw [List.length_cons]
      omega
  · split at h
    · cases h
    · rename_i hname
      cases h
      left
      have hparts := congrArg List.length (@List.takeWhile_append_dropWhile _ isBareName cs)
      rw [List.length_append] at hparts
      have := List.length_pos_iff.2 hname
      omega

theorem length_dropComment_le (cs : List Char) :
    (dropComment cs).length ≤ cs.length ∧
      (cs.head? = some '#' → (dropComment cs).length < cs.length) := by
  have hgap := length_dropWhile_le isGap cs
  rw [dropComment]
  split
  · rename_i comment hcomment
    have hline := length_dropWhile_le (fun c => !endsLine c) comment
    rw [hcomment, List.length_cons] at hgap
    omega
  · rename_i hnone
    refine ⟨Nat.le_refl _, fun hhead => ?_⟩
    obtain ⟨comment, rfl⟩ := List.head?_eq_some_iff.1 hhead
    exact absurd rfl (hnone comment)

theorem length_lineEnd?_le (h : lineEnd? cs = some after) :
    after.length ≤ cs.length ∧ (cs.head? = some '#' → after.length < cs.length) := by
  obtain ⟨hle, hlt⟩ := length_dropComment_le cs
  have hgap := length_dropWhile_le isGap (dropComment cs)
  have hafter : after.length ≤ (dropComment cs).length := by
    rw [lineEnd?] at h
    split at h
    · cases h
      exact Nat.zero_le _
    · rename_i rest hrest
      cases h
      rw [hrest, List.length_cons, List.length_cons] at hgap
      omega
    · rename_i c rest _ hrest
      split_ifs at h
      cases h
      rw [hrest, List.length_cons] at hgap
      omega
  exact ⟨Nat.le_trans hafter hle, fun hhead => Nat.lt_of_le_of_lt hafter (hlt hhead)⟩

theorem length_skipLine_le (cs : List Char) :
    (skipLine cs).length ≤ cs.length ∧ (cs ≠ [] → (skipLine cs).length < cs.length) := by
  have hline := length_dropWhile_le (fun c => !endsLine c) cs
  rw [skipLine]
  split
  · exact ⟨Nat.zero_le _, fun hne => List.length_pos_iff.2 hne⟩
  · rename_i c rest hrest
    rw [hrest, List.length_cons] at hline
    omega

/-! ## Lines -/

theorem length_finish_le (name value : Option (List Char)) (behind : List Char) :
    (readLine.finish name value behind).2.length ≤ behind.length ∧
      (behind.head? = some '#' → (readLine.finish name value behind).2.length < behind.length) := by
  rw [readLine.finish]
  split
  · rename_i after hafter
    exact length_lineEnd?_le hafter
  · obtain ⟨hle, hlt⟩ := length_skipLine_le behind
    refine ⟨hle, fun hhead => hlt ?_⟩
    rintro rfl
    cases hhead

/-- **A line that is read is left behind**, whether it is an assignment or not. -/
theorem length_readLine_lt (h : cs ≠ []) : (readLine cs).2.length < cs.length := by
  have hexport := length_dropExport_le cs
  have hpos := List.length_pos_iff.2 h
  rw [readLine]
  split
  · -- a text that was only an export has nothing left
    obtain ⟨hle, hlt⟩ := length_skipLine_le (dropExport cs)
    by_cases hstart : dropExport cs = []
    · rw [hstart] at hle ⊢
      exact Nat.lt_of_le_of_lt hle hpos
    · exact Nat.lt_of_lt_of_le (hlt hstart) hexport
  · rename_i name rest hname
    have hgap := length_dropWhile_le isGap rest
    have hrest := length_name?_lt hname
    have hle : rest.length ≤ (dropExport cs).length := by
      rcases hrest with hlt | ⟨rfl, _⟩
      · exact Nat.le_of_lt hlt
      · exact Nat.le_refl _
    split
    · rename_i assigned hassigned
      rw [hassigned, List.length_cons] at hgap
      split
      · have := (length_skipLine_le assigned).1
        show (skipLine assigned).length < cs.length
        omega
      · rename_i value behind hvalue
        have hbehind := length_value?_le hvalue
        have := (length_finish_le name (some value) behind).1
        omega
    · obtain ⟨hfinish, hcomment⟩ := length_finish_le name none (rest.dropWhile isGap)
      rcases hrest with hlt | ⟨rfl, hhead⟩
      · omega
      · obtain ⟨comment, hcs⟩ := List.head?_eq_some_iff.1 hhead
        rw [hcs] at hcomment hexport hgap ⊢
        exact Nat.lt_of_lt_of_le (hcomment rfl) hexport

/-- The fuel of `read` reaches to the end of a text: with more of it no more lines are read. -/
theorem readLines_eq_of_lt {fuel more : Nat} (h : cs.length < fuel) (hmore : cs.length < more) :
    readLines fuel cs = readLines more cs := by
  induction fuel generalizing cs more with
  | zero => exact absurd h (Nat.not_lt_zero _)
  | succ fuel ih =>
    obtain ⟨more, rfl⟩ := Nat.exists_eq_add_one_of_ne_zero (Nat.ne_zero_of_lt hmore)
    have hblank := length_dropWhile_le isBlank cs
    rw [readLines, readLines]
    split
    · rfl
    · rename_i start hstart
      have hread := length_readLine_lt hstart
      split
      · rename_i assignment rest hline
        rw [hline] at hread
        dsimp only at hread
        rw [@ih rest more (by omega) (by omega)]
      · rename_i rest hline
        rw [hline] at hread
        dsimp only at hread
        exact ih (by omega) (by omega)

/-! ## References -/

theorem length_reference?_lt {known : Variables} {meaning : List Char}
    (h : reference? known cs = some (meaning, after)) : after.length < cs.length := by
  have hname :=
    (List.drop_sublist (cs.takeWhile fun c => c != '\x7d' && c != ':').length cs).length_le
  rw [reference?] at h
  dsimp only at h
  split at h
  · rename_i rest hrest
    cases h
    rw [hrest, List.length_cons] at hname
    omega
  · rename_i rest hrest
    rw [hrest, List.length_cons, List.length_cons] at hname
    have hdefault := (List.drop_sublist (rest.takeWhile (· != '\x7d')).length rest).length_le
    split at h
    · rename_i behind hbehind
      cases h
      rw [hbehind, List.length_cons] at hdefault
      omega
    · cases h
  · cases h

/-- So does the fuel for a value: with more of it no more references are replaced. -/
theorem expand_eq_of_le {known : Variables} {fuel more : Nat} (h : cs.length ≤ fuel)
    (hmore : cs.length ≤ more) : expand known fuel cs = expand known more cs := by
  fun_induction expand known fuel cs generalizing more with
  | case1 cs =>
    obtain rfl : cs = [] := List.length_eq_zero_iff.1 (Nat.le_zero.1 h)
    cases more <;> rfl
  | case2 => cases more <;> rfl
  | case3 fuel cs meaning after href ih =>
    obtain ⟨more, rfl⟩ := Nat.exists_eq_add_one_of_ne_zero (Nat.ne_zero_of_lt hmore)
    have := length_reference?_lt href
    simp only [List.length_cons] at h hmore
    rw [expand, href]
    dsimp only
    rw [@ih more (by omega) (by omega)]
  | case4 fuel cs href ih =>
    obtain ⟨more, rfl⟩ := Nat.exists_eq_add_one_of_ne_zero (Nat.ne_zero_of_lt hmore)
    simp only [List.length_cons] at h hmore ih
    rw [expand, href]
    dsimp only
    rw [@ih more (by omega) (by omega)]
  | case5 fuel c cs hplain ih =>
    obtain ⟨more, rfl⟩ := Nat.exists_eq_add_one_of_ne_zero (Nat.ne_zero_of_lt hmore)
    simp only [List.length_cons] at h hmore
    rw [expand, @ih more (by omega) (by omega)]
    exact hplain

/-! ## Variables -/

theorem mem_names_assign {name other : String} {value : Option String} {known : Variables}
    (h : other ∈ (assign name value known).map Prod.fst) :
    other = name ∨ other ∈ known.map Prod.fst := by
  induction known with
  | nil => exact .inl (List.mem_singleton.1 h)
  | cons entry rest ih =>
    rw [assign] at h
    split_ifs at h with hname
    · rw [List.map_cons, hname]
      exact .inr h
    · rcases List.mem_cons.1 h with rfl | h
      · exact .inr List.mem_cons_self
      · exact (ih h).imp_right (List.mem_cons_of_mem _)

theorem nodup_assign {known : Variables} (h : (known.map Prod.fst).Nodup) (name : String)
    (value : Option String) : ((assign name value known).map Prod.fst).Nodup := by
  induction known with
  | nil => exact List.nodup_singleton _
  | cons entry rest ih =>
    obtain ⟨hfresh, hrest⟩ := List.nodup_cons.1 h
    rw [assign]
    split_ifs with hname
    · rw [List.map_cons, ← hname]
      exact h
    · refine List.nodup_cons.2 ⟨fun hmem => ?_, ih hrest⟩
      exact (mem_names_assign hmem).elim hname hfresh

/-- **A file gives a variable one value.** -/
theorem nodup_read (environment : Variables) (text : String) :
    ((read environment text).map Prod.fst).Nodup := by
  rw [read]
  dsimp only
  generalize readLines _ _ = assignments
  suffices ∀ set : Variables, (set.map Prod.fst).Nodup → ((assignments.foldl (fun set a =>
      assign (String.ofList a.name) (a.value.map fun value =>
        String.ofList (expand (environment ++ set) value.length value)) set) set).map
          Prod.fst).Nodup from this [] List.nodup_nil
  induction assignments with
  | nil => exact fun _ h => h
  | cons a assignments ih => exact fun set h => ih _ (nodup_assign h _ _)

end Provenance.Dotenv

import Provenance.Proofs.Source.Comment

/-!
# Proofs — Source — Scan

The scan for block comments, turn by turn. Each turn finds the next delimiter, the closer of the
comment that is open or the first opener outside literals, and goes on behind it (`Scan.next?`). A
turn moves on and stays within the line, so a scan comes to an end (`Scan.exists_run`); what is
pending there is what `scanBlocks` gives. The states are those of the language throughout, in a line
and from line to line (`scan_ends`).
-/

namespace Provenance

open Text Lexis

/-! ## One turn -/

/-- Where a scan stands: how many characters it has passed, and the state it reads the rest in. -/
structure Scan where
  position : Nat
  pending : Pending
  deriving DecidableEq

namespace Scan

/-- The scan behind the next delimiter, if there is one more. -/
def next? (blocks : List BlockDelimiters) (cs : List Char) (s : Scan) : Option Scan :=
  match s.pending with
  | some closer =>
    (find? closer (cs.drop s.position)).map fun i => ⟨s.position + (i + closer.length), none⟩
  | none =>
    (firstOpener? blocks (maskLiterals (cs.drop s.position))).map fun found =>
      ⟨s.position + (found.1 + found.2.opener.length), some found.2.closer⟩

section Turn

variable {blocks : List BlockDelimiters} {cs : List Char} {position : Nat}

/-- All that a turn can do. -/
theorem of_next? {s s' : Scan} (h : s.next? blocks cs = some s') :
    (∃ closer i, s.pending = some closer ∧ find? closer (cs.drop s.position) = some i ∧
      s' = ⟨s.position + (i + closer.length), none⟩) ∨
    ∃ i block, s.pending = none ∧
      firstOpener? blocks (maskLiterals (cs.drop s.position)) = some (i, block) ∧
      s' = ⟨s.position + (i + block.opener.length), some block.closer⟩ := by
  obtain ⟨position, pending⟩ := s
  cases pending with
  | some closer =>
    obtain ⟨i, hi, rfl⟩ := Option.map_eq_some_iff.1 h
    exact .inl ⟨closer, i, rfl, hi, rfl⟩
  | none =>
    obtain ⟨⟨i, block⟩, hi, rfl⟩ := Option.map_eq_some_iff.1 h
    exact .inr ⟨i, block, rfl, hi, rfl⟩

/-- Where no delimiter is left, the state stays as it is. -/
theorem scanBlocks_of_next?_eq_none {s : Scan} (h : s.next? blocks cs = none) :
    scanBlocks blocks s.pending (cs.drop s.position) = s.pending := by
  obtain ⟨position, pending⟩ := s
  cases pending with
  | some closer => exact scanBlocks_open (find?_eq_none_iff.1 (Option.map_eq_none_iff.1 h))
  | none => exact scanBlocks_none (Option.map_eq_none_iff.1 h)

end Turn

/-- What a turn does: it moves on within the text, stays among the states of the language, and
leaves the state behind the text as it is. -/
structure Advances (comments : CommentSyntax) (cs : List Char) (s s' : Scan) : Prop where
  lt : s.position < s'.position
  le : s'.position ≤ cs.length
  state : comments.IsState s'.pending
  behind : scanBlocks comments.block s.pending (cs.drop s.position) =
    scanBlocks comments.block s'.pending (cs.drop s'.position)

theorem advances_of_next? {comments : CommentSyntax} {cs : List Char} {s s' : Scan}
    (hs : comments.IsState s.pending) (hle : s.position ≤ cs.length)
    (h : s.next? comments.block cs = some s') : Advances comments cs s s' := by
  rcases of_next? h with ⟨closer, i, hpending, hi, rfl⟩ | ⟨i, block, hpending, hi, rfl⟩
  · -- the closer of one of the comments of the language, so it is not empty
    obtain ⟨block, _, rfl⟩ := hs closer hpending
    have hpos := List.length_pos_iff.2 block.closer_ne
    have hend := add_length_le_of_find? hi
    rw [List.length_drop] at hend
    refine ⟨?_, ?_, comments.isState_none, ?_⟩
    · exact Nat.lt_add_of_pos_right (Nat.add_pos_right i hpos)
    · dsimp only
      omega
    · rw [hpending, scanBlocks_close hi, List.drop_drop]
  · obtain ⟨hblock, hfound⟩ := find?_of_firstOpener? hi
    have hpos := List.length_pos_iff.2 block.opener_ne
    have hend := add_length_le_of_find? hfound
    rw [length_maskLiterals, List.length_drop] at hend
    refine ⟨?_, ?_, CommentSyntax.isState_closer hblock, ?_⟩
    · exact Nat.lt_add_of_pos_right (Nat.add_pos_right i hpos)
    · dsimp only
      omega
    · rw [hpending, scanBlocks_opener hi, List.drop_drop]

/-! ## All turns -/

/-- The turns of a scan up to the last: where it stands behind each delimiter. -/
inductive Run (blocks : List BlockDelimiters) (cs : List Char) : Scan → List Scan → Prop
  | ends {s : Scan} (h : s.next? blocks cs = none) : Run blocks cs s []
  | turn {s s' : Scan} {stops : List Scan} (h : s.next? blocks cs = some s')
      (hrun : Run blocks cs s' stops) : Run blocks cs s (s' :: stops)

/-- A scan can go on in one way only. -/
theorem Run.unique {blocks : List BlockDelimiters} {cs : List Char} {s : Scan}
    {stops other : List Scan} (h : Run blocks cs s stops) (h' : Run blocks cs s other) :
    other = stops := by
  induction h generalizing other with
  | ends hend =>
    cases h' with
    | ends => rfl
    | turn hturn =>
      rw [hend] at hturn
      cases hturn
  | turn hturn _ ih =>
    cases h' with
    | ends hend =>
      rw [hend] at hturn
      cases hturn
    | turn hturn' hrun' =>
      rw [hturn] at hturn'
      obtain rfl := Option.some.inj hturn'
      rw [ih hrun']

section Runs

variable {comments : CommentSyntax} {cs : List Char}

/-- **A scan comes to an end**, since each turn leaves less of the text. -/
theorem exists_run {s : Scan} (hs : comments.IsState s.pending) (hle : s.position ≤ cs.length) :
    ∃ stops, Run comments.block cs s stops := by
  induction hleft : cs.length - s.position using Nat.strong_induction_on generalizing s with
  | h left ih =>
    cases hnext : s.next? comments.block cs with
    | none => exact ⟨[], .ends hnext⟩
    | some s' =>
      have hadvance := advances_of_next? hs hle hnext
      have hlt := hadvance.lt
      have hle' := hadvance.le
      obtain ⟨stops, hrun⟩ := ih (cs.length - s'.position) (by omega) hadvance.state hle' rfl
      exact ⟨s' :: stops, .turn hnext hrun⟩

/-- The stops of a scan lie one behind the other. -/
theorem Run.pairwise {s : Scan} {stops : List Scan} (h : Run comments.block cs s stops)
    (hs : comments.IsState s.pending) (hle : s.position ≤ cs.length) :
    (s.position :: stops.map position).Pairwise (· < ·) := by
  induction h with
  | ends => exact List.pairwise_singleton _ _
  | turn hnext _ ih =>
    have hadvance := advances_of_next? hs hle hnext
    have hlater := ih hadvance.state hadvance.le
    refine List.pairwise_cons.2 ⟨?_, hlater⟩
    intro n hn
    rcases List.mem_cons.1 hn with rfl | hn
    · exact hadvance.lt
    · exact hadvance.lt.trans ((List.pairwise_cons.1 hlater).1 n hn)

/-- All stops lie within the text, and are read in states of the language. -/
theorem Run.forall_mem {s : Scan} {stops : List Scan} (h : Run comments.block cs s stops)
    (hs : comments.IsState s.pending) (hle : s.position ≤ cs.length) :
    ∀ stop ∈ stops, stop.position ≤ cs.length ∧ comments.IsState stop.pending := by
  induction h with
  | ends => exact fun _ hstop => absurd hstop List.not_mem_nil
  | turn hnext _ ih =>
    have hadvance := advances_of_next? hs hle hnext
    exact List.forall_mem_cons.2 ⟨⟨hadvance.le, hadvance.state⟩, ih hadvance.state hadvance.le⟩

/-- What is pending at the last stop is the state behind the text. -/
theorem Run.pending_eq {s : Scan} {stops : List Scan} (h : Run comments.block cs s stops)
    (hs : comments.IsState s.pending) (hle : s.position ≤ cs.length) :
    (stops.getLastD s).pending = scanBlocks comments.block s.pending (cs.drop s.position) := by
  induction h with
  | ends hend => exact (scanBlocks_of_next?_eq_none hend).symm
  | turn hnext _ ih =>
    have hadvance := advances_of_next? hs hle hnext
    rw [hadvance.behind, ← ih hadvance.state hadvance.le, List.getLastD_cons]

end Runs

/-- A scan of a whole text that has come to its end. -/
structure Ends (comments : CommentSyntax) (cs : List Char) (pending : Pending)
    (stops : List Scan) : Prop where
  run : Run comments.block cs ⟨0, pending⟩ stops
  /-- There is no other way to scan the text. -/
  only : ∀ other, Run comments.block cs ⟨0, pending⟩ other → other = stops
  moves_on : (0 :: stops.map position).Pairwise (· < ·)
  within : ∀ stop ∈ stops, stop.position ≤ cs.length
  states : ∀ stop ∈ stops, comments.IsState stop.pending
  behind : (stops.getLastD ⟨0, pending⟩).pending = scanBlocks comments.block pending cs

theorem exists_ends {comments : CommentSyntax} {pending : Pending} (hs : comments.IsState pending)
    (cs : List Char) : ∃ stops, Ends comments cs pending stops := by
  obtain ⟨stops, hrun⟩ := exists_run (s := ⟨0, pending⟩) hs (Nat.zero_le cs.length)
  have hstops := hrun.forall_mem hs (Nat.zero_le _)
  exact ⟨stops, {
    run := hrun
    only := fun _ hother => hrun.unique hother
    moves_on := hrun.pairwise hs (Nat.zero_le _)
    within := fun stop hstop => (hstops stop hstop).1
    states := fun stop hstop => (hstops stop hstop).2
    behind := hrun.pending_eq hs (Nat.zero_le _) }⟩

/-- The last stop is one of the stops, or the start. -/
theorem Ends.isState {comments : CommentSyntax} {cs : List Char} {pending : Pending}
    {stops : List Scan} (h : Ends comments cs pending stops) (hs : comments.IsState pending) :
    comments.IsState (scanBlocks comments.block pending cs) := by
  rw [← h.behind]
  cases hlast : stops.getLast? with
  | none =>
    rw [List.getLastD_eq_getLast?, hlast]
    exact hs
  | some stop =>
    rw [List.getLastD_eq_getLast?, hlast]
    exact h.states stop (List.mem_of_getLast? hlast)

end Scan

/-! ## States from line to line -/

section Lines

variable {comments : CommentSyntax} {pending : Pending}

theorem isState_scanBlocks (hs : comments.IsState pending) (cs : List Char) :
    comments.IsState (scanBlocks comments.block pending cs) := by
  obtain ⟨_, hends⟩ := Scan.exists_ends hs cs
  exact hends.isState hs

/-- A line leaves a state of the language. -/
theorem isState_readLine (hs : comments.IsState pending) (raw : List Char) :
    comments.IsState (readLine comments pending raw).2 := by
  rw [readLine]
  split
  · exact isState_scanBlocks hs _
  · split
    · exact comments.isState_none
    · split
      · exact isState_scanBlocks comments.isState_none _
      · split
        · exact comments.isState_none
        · exact isState_scanBlocks comments.isState_none _

theorem isState_stateBehind (hs : comments.IsState pending) (raws : List (List Char)) :
    comments.IsState (stateBehind comments pending raws) := by
  induction raws generalizing pending with
  | nil => exact hs
  | cons raw raws ih => exact ih (isState_readLine hs raw)

end Lines

/-- **The scan for block comments ends, in a state of the language.** From any such state, a line is
scanned in finitely many turns and in one way only; each of them ends behind the one before it and
within the line; what is pending at the last is what `scanBlocks` gives, and it is nothing or a
closer of the language. So is what is pending in front of each line of a source text, where its kind
is read, and behind it. -/
theorem scan_ends (language : Language) :
    (∀ pending, language.syntaxOf.IsState pending → ∀ cs : List Char,
      (∃ stops, Scan.Ends language.syntaxOf cs pending stops) ∧
        language.syntaxOf.IsState (scanBlocks language.syntaxOf.block pending cs)) ∧
    ∀ source front raw rest, lines source = front ++ raw :: rest →
      kindAt? (sourceLines language source) (front.length + 1) =
          some (readLine language.syntaxOf (stateBehind language.syntaxOf none front) raw).1 ∧
        language.syntaxOf.IsState (stateBehind language.syntaxOf none front) ∧
        language.syntaxOf.IsState (stateBehind language.syntaxOf none (front ++ [raw])) := by
  have hnone := language.syntaxOf.isState_none
  constructor
  · intro pending hs cs
    exact ⟨Scan.exists_ends hs cs, isState_scanBlocks hs cs⟩
  · intro source front raw rest hlines
    exact ⟨kindAt?_sourceLines language hlines, isState_stateBehind hnone front,
      isState_stateBehind hnone (front ++ [raw])⟩

/-- A line that closes one comment and opens another behind a literal, and a text of two lines. -/
theorem scan_ends_behind_opener :
    Language.cStyle.syntaxOf.IsState (some "*/".toList) ∧
      (∃ stops,
        Scan.Ends Language.cStyle.syntaxOf "a */ \"/*\" /* b".toList (some "*/".toList) stops ∧
        stops = [⟨4, none⟩, ⟨12, some "*/".toList⟩]) ∧
      lines "a /*\n".toList = [] ++ "a /*".toList :: [] ∧
      Language.cStyle.syntaxOf.IsState
        (stateBehind Language.cStyle.syntaxOf none ([] ++ ["a /*".toList])) := by
  have hs : Language.cStyle.syntaxOf.IsState (some "*/".toList) :=
    @CommentSyntax.isState_closer _ Language.slashStar List.mem_cons_self
  have hlines : lines "a /*\n".toList = [] ++ "a /*".toList :: [] := by decide +kernel
  obtain ⟨hscan, hsource⟩ := scan_ends .cStyle
  obtain ⟨⟨stops, hends⟩, _⟩ := hscan _ hs "a */ \"/*\" /* b".toList
  have hrun : Scan.Run Language.cStyle.syntaxOf.block "a */ \"/*\" /* b".toList
      ⟨0, some "*/".toList⟩ [⟨4, none⟩, ⟨12, some "*/".toList⟩] :=
    .turn (by decide +kernel) (.turn (by decide +kernel) (.ends (by decide +kernel)))
  exact ⟨hs, ⟨stops, hends, (hends.only _ hrun).symm⟩, hlines, (hsource _ _ _ _ hlines).2.2⟩

end Provenance

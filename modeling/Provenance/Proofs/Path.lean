import Provenance.Path

/-!
# Proofs — Path

Absolute paths whose parts are names: the spelling of such a path spells it and no other
(`ofString_text`), and it is resolved already (`resolve_eq`). A path is seen from those that it
continues (`relativeTo?_eq_some_iff`).
-/

namespace Provenance.Path

/-- A name that a file or a folder can have. -/
def isName (name : String) : Bool :=
  name != "" && name != "." && name != ".." && !name.toList.contains '/'

theorem isName_iff {name : String} : isName name = true ↔
    name ≠ "" ∧ name ≠ "." ∧ name ≠ ".." ∧ '/' ∉ name.toList := by
  simp [isName, and_assoc]

/-- Names of folders from the topmost one down, and of something in the last of them. -/
def AreNames (parts : List String) : Prop := ∀ part ∈ parts, isName part = true

instance (parts : List String) : Decidable (AreNames parts) :=
  inferInstanceAs (Decidable (∀ part ∈ parts, isName part = true))

theorem AreNames.nil : AreNames [] := fun _ h => nomatch h

theorem AreNames.cons {part : String} {parts : List String} (hpart : isName part = true)
    (h : AreNames parts) : AreNames (part :: parts) := by
  intro p hp
  rcases List.mem_cons.1 hp with rfl | hp
  · exact hpart
  · exact h p hp

theorem AreNames.append {parts rest : List String} (h : AreNames parts) (hrest : AreNames rest) :
    AreNames (parts ++ rest) := by
  intro p hp
  rcases List.mem_append.1 hp with hp | hp
  · exact h p hp
  · exact hrest p hp

/-! ## Spellings -/

theorem toList_joined (parts : List String) :
    (joined parts).toList = ['/'].intercalate (parts.map String.toList) :=
  String.toList_intercalate

/-- Names joined by slashes are parted at the slashes again. -/
theorem splitOn_joined {parts : List String} (h : AreNames parts) (hne : parts ≠ []) :
    (joined parts).toList.splitOn '/' = parts.map String.toList := by
  rw [toList_joined, List.splitOn_intercalate '/' ?_ (by simpa using hne)]
  intro cs hcs
  obtain ⟨part, hpart, rfl⟩ := List.mem_map.1 hcs
  exact (isName_iff.1 (h part hpart)).2.2.2

theorem parts_ofString_joined {parts : List String} (h : AreNames parts) :
    (ofString (joined parts)).parts = parts := by
  rw [ofString]
  dsimp only
  by_cases hnil : parts = []
  · subst hnil
    rfl
  · rw [splitOn_joined h hnil, List.map_map]
    simp only [Function.comp_def, String.ofList_toList, List.map_id']
    refine List.filter_eq_self.2 fun part hpart => ?_
    obtain ⟨hempty, hdot, _⟩ := isName_iff.1 (h part hpart)
    simp [hempty, hdot]

/-- A slash behind a path adds no part. -/
theorem parts_ofString_slash (s : String) : (ofString (s ++ "/")).parts = (ofString s).parts := by
  have hslash : "/".toList = ['/'] := by decide
  rw [ofString, ofString]
  dsimp only
  rw [String.toList_append, hslash, List.splitOn_append_cons_self, List.map_append,
    List.filter_append]
  exact List.append_nil _

theorem joined_injective {parts parts' : List String} (h : AreNames parts) (h' : AreNames parts')
    (he : joined parts = joined parts') : parts = parts' := by
  rw [← parts_ofString_joined h, he, parts_ofString_joined h']

/-- Only a slash can make one slash at the head two. -/
theorem anchorOf_cons {cs : List Char} (h : cs.head? ≠ some '/') : anchorOf ('/' :: cs) = "/" := by
  unfold anchorOf
  split
  · rfl
  · rename_i he
    cases he
    exact absurd rfl h
  · rfl
  · rename_i he
    exact absurd rfl (he cs)

theorem head?_joined {parts : List String} (h : AreNames parts) :
    (joined parts).toList.head? ≠ some '/' := by
  rw [toList_joined]
  cases parts with
  | nil => simp
  | cons part rest =>
    obtain ⟨hempty, _, _, hslash⟩ := isName_iff.1 (h part List.mem_cons_self)
    intro hhead
    have hcons : part.toList.head? = some '/' := by
      cases hcs : part.toList with
      | nil => exact absurd (String.toList_eq_nil_iff.1 hcs) hempty
      | cons c cs =>
        cases rest with
        | nil => simpa [hcs] using hhead
        | cons next rest => simpa [hcs] using hhead
    exact hslash (List.mem_of_head? hcons)

/-! ## Absolute paths -/

/-- A path from the topmost folder down by names. -/
structure IsAbsolute (p : Path) : Prop where
  anchor : p.anchor = "/"
  parts : AreNames p.parts

theorem toList_text (parts : List String) :
    (text ⟨"/", parts⟩).toList = '/' :: (joined parts).toList := by
  have hanchor : text ⟨"/", parts⟩ = "/" ++ joined parts := if_neg (by simp)
  rw [hanchor, String.toList_append, show "/".toList = ['/'] by decide, List.singleton_append]

/-- **The spelling of an absolute path spells it.** -/
theorem ofString_text {p : Path} (h : p.IsAbsolute) : ofString p.text = p := by
  obtain ⟨anchor, parts⟩ := p
  obtain ⟨hanchor, hparts⟩ := h
  dsimp only at hanchor hparts
  subst hanchor
  have hjoined := parts_ofString_joined hparts
  rw [ofString] at hjoined ⊢
  rw [toList_text, anchorOf_cons (head?_joined hparts)]
  have hsplit : ('/' :: (joined parts).toList).splitOn '/' = [] :: (joined parts).toList.splitOn '/' :=
    @List.splitOn_append_cons_self_of_not_mem _ [] _ _ '/' List.not_mem_nil _
  rw [hsplit, List.map_cons, List.filter_cons_of_neg (by decide)]
  exact congrArg (Path.mk "/") hjoined

theorem text_injective {p q : Path} (hp : p.IsAbsolute) (hq : q.IsAbsolute)
    (h : p.text = q.text) : p = q := by
  rw [← ofString_text hp, h, ofString_text hq]

/-! ## Resolved paths -/

theorem withoutDots_eq {parts : List String} (h : AreNames parts) : withoutDots parts = parts := by
  have key : ∀ kept : List String, parts.foldl
      (fun kept part => if part = ".." then kept.dropLast else kept ++ [part]) kept =
      kept ++ parts := by
    intro kept
    induction parts generalizing kept with
    | nil => rw [List.foldl_nil, List.append_nil]
    | cons part parts ih =>
      have hpart := (isName_iff.1 (h part List.mem_cons_self)).2.2.1
      rw [List.foldl_cons, if_neg hpart, ih fun p hp => h p (List.mem_cons_of_mem _ hp),
        List.append_assoc]
      rfl
  exact key []

/-- **An absolute path is resolved already**, in whatever directory. -/
theorem resolve_eq {p : Path} (h : p.IsAbsolute) (cwd : Path) : cwd.resolve p = p := by
  obtain ⟨anchor, parts⟩ := p
  obtain ⟨hanchor, hparts⟩ := h
  dsimp only at hanchor hparts
  subst hanchor
  rw [resolve]
  dsimp only
  rw [if_neg (by decide), withoutDots_eq hparts]

/-! ## Relative paths -/

/-- A path is seen from another one exactly if it continues it, and then by what it has more. -/
theorem relativeTo?_eq_some_iff {p base q : Path} :
    p.relativeTo? base = some q ↔ ∃ rest, p = base.append rest ∧ q = ⟨"", rest⟩ := by
  obtain ⟨anchor, parts⟩ := p
  obtain ⟨anchor', parts'⟩ := base
  rw [relativeTo?]
  dsimp only [append]
  split
  · rename_i h
    obtain ⟨rfl, hparts⟩ := h
    obtain ⟨rest, rfl⟩ := List.isPrefixOf_iff_prefix.1 hparts
    rw [List.drop_left]
    constructor
    · intro h
      exact ⟨rest, rfl, (Option.some.inj h).symm⟩
    · rintro ⟨rest', he, rfl⟩
      rw [List.append_cancel_left (Path.mk.inj he).2]
  · rename_i h
    constructor
    · intro hnone
      cases hnone
    · rintro ⟨rest, he, _⟩
      obtain ⟨rfl, rfl⟩ := Path.mk.inj he
      exact absurd ⟨rfl, List.isPrefixOf_iff_prefix.2 (List.prefix_append _ _)⟩ h

end Provenance.Path

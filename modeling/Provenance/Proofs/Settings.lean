import Mathlib.Data.List.Forall2
import Mathlib.Tactic.SplitIfs
import Provenance.Proofs.Checked
import Provenance.Settings.Sources

/-!
# Proofs — Settings

The settings that values make up. Named values are accepted exactly if each of them spells a value
that its setting can have, and then the settings are the spelled ones, and the standard ones where
nothing is given (`ofValues_eq_accepted_iff`). Any others are refused, and each refusal names a
setting that a source has a value for (`SettingsSources.isFailureOf_load`).
-/

namespace Provenance

/-! ## Verdicts -/

namespace Verdict

variable {ε ε' α β : Type}

theorem seq_eq_accepted_iff {f : Verdict ε (α → β)} {a : Verdict ε α} {b : β} :
    f <*> a = .accepted b ↔ ∃ g x, f = .accepted g ∧ a = .accepted x ∧ g x = b := by
  show apply f a = _ ↔ _
  cases f <;> cases a <;> simp [apply]

theorem map_eq_accepted_iff {g : α → β} {a : Verdict ε α} {b : β} :
    g <$> a = .accepted b ↔ ∃ x, a = .accepted x ∧ g x = b := by
  show apply (.accepted g) a = _ ↔ _
  cases a <;> simp [apply]

theorem mapReasons_eq_accepted_iff {f : ε → ε'} {a : Verdict ε α} {x : α} :
    a.mapReasons f = .accepted x ↔ a = .accepted x := by
  cases a <;> simp [mapReasons]

theorem ofExcept_eq_accepted_iff {e : Except ε α} {x : α} :
    ofExcept e = .accepted x ↔ e = .ok x := by
  cases e <;> simp [ofExcept]

/-- A value that is judged before it is accepted. -/
theorem ofExcept_bind_eq_accepted_iff {e : Except ε β} {judge : β → Except ε α} {x : β} {a : α}
    (h : ∀ y, judge y = .ok a ↔ y = x) : ofExcept (e >>= judge) = .accepted a ↔ e = .ok x := by
  rw [ofExcept_eq_accepted_iff]
  cases e with
  | error reason => exact ⟨nofun, nofun⟩
  | ok y => exact (h y).trans (by rw [Except.ok.injEq])

/-- What is refused is refused for some reason, and each reason is of a kind. -/
def RefusedFor (P : ε → Prop) : Verdict ε α → Prop
  | .accepted _ => True
  | .refused reasons => reasons ≠ [] ∧ ∀ r ∈ reasons, P r

theorem RefusedFor.seq {P : ε → Prop} {f : Verdict ε (α → β)} {a : Verdict ε α}
    (hf : f.RefusedFor P) (ha : a.RefusedFor P) : (f <*> a).RefusedFor P := by
  show (apply f a).RefusedFor P
  cases f with
  | accepted g =>
    cases a with
    | accepted x => trivial
    | refused reasons => exact ha
  | refused reasons =>
    cases a with
    | accepted x => exact hf
    | refused more =>
      refine ⟨List.append_ne_nil_of_left_ne_nil hf.1 more, fun r hr => ?_⟩
      exact (List.mem_append.1 hr).elim (hf.2 r) (ha.2 r)

theorem RefusedFor.map {P : ε → Prop} {a : Verdict ε α} (ha : a.RefusedFor P) (g : α → β) :
    (g <$> a).RefusedFor P :=
  have hg : (accepted g : Verdict ε (α → β)).RefusedFor P := trivial
  hg.seq ha

theorem RefusedFor.mapReasons {P : ε → Prop} {Q : ε' → Prop} {a : Verdict ε α}
    (ha : a.RefusedFor P) {f : ε → ε'} (hf : ∀ r, P r → Q (f r)) :
    (a.mapReasons f).RefusedFor Q := by
  cases a with
  | accepted x => trivial
  | refused reasons =>
    refine ⟨mt List.map_eq_nil_iff.1 ha.1, fun r hr => ?_⟩
    obtain ⟨reason, hreason, rfl⟩ := List.mem_map.1 hr
    exact hf reason (ha.2 reason hreason)

theorem refusedFor_ofExcept (e : Except ε α) : (ofExcept e).RefusedFor fun _ => True := by
  cases e with
  | error reason => exact ⟨List.cons_ne_nil _ _, fun _ _ => trivial⟩
  | ok x => trivial

theorem refusedFor_all {P : ε → Prop} {judge : α → Verdict ε β}
    (h : ∀ a, (judge a).RefusedFor P) (as : List α) : (all judge as).RefusedFor P := by
  induction as with
  | nil => trivial
  | cons a as ih => exact ((h a).map List.cons).seq ih

end Verdict

/-! ## Values -/

/-- A JSON value spells the value of a setting. -/
def Spells (value : Json) : SettingValue → Prop
  | .count n => value.toInteger = .ok n
  | .number x => value.toNumber = .ok x
  | .texts ts => value.toTexts = .accepted ts

/-- What is read are exactly the values that are spelled, as far as a setting can have them, and
there is a complaint about any other. -/
structure IsReader {α : Type} (setting : α → SettingValue) (read : Json → Verdict Complaint α) :
    Prop where
  injective : Function.Injective setting
  accepts : ∀ value a, read value = .accepted a ↔ Spells value (setting a)
  refuses : ∀ value, (read value).RefusedFor fun _ => True

section Readers

theorem count_injective {p : Nat → Prop} :
    Function.Injective fun n : { n // p n } => SettingValue.count n.val :=
  fun _ _ h => Subtype.ext (SettingValue.count.inj h)

theorem number_injective {p : Binary64 → Prop} :
    Function.Injective fun x : { x // p x } => SettingValue.number x.val :=
  fun _ _ h => Subtype.ext (SettingValue.number.inj h)

/-- What is judged by a property is accepted as it is. -/
theorem judge_iff {α : Type} {p : α → Prop} [DecidablePred p] {complaint : Complaint} {x : α}
    (a : { x : α // p x }) :
    (if h : p x then Except.ok (⟨x, h⟩ : { x : α // p x }) else .error complaint) = .ok a ↔
      x = a.val := by
  obtain ⟨a, ha⟩ := a
  split_ifs with h
  · simp only [Except.ok.injEq, Subtype.mk.injEq]
  · simp only [false_iff]
    rintro rfl
    exact h ha

/-- A share is judged by its upper bound first, whatever the lower one is. -/
theorem judgeShare_iff {low : Binary64 → Prop} [DecidablePred low] {complaint : Complaint}
    {x : Binary64} (a : { x : Binary64 // x ≤ 1 ∧ low x }) :
    (if h : x ≤ 1 then
        if h' : low x then Except.ok ⟨x, h, h'⟩ else .error complaint
      else .error .above) = .ok a ↔ x = a.val := by
  obtain ⟨a, ha, ha'⟩ := a
  split_ifs with h h'
  · simp only [Except.ok.injEq, Subtype.mk.injEq]
  · simp only [false_iff]
    rintro rfl
    exact h' ha'
  · simp only [false_iff]
    rintro rfl
    exact h ha

/-- A bound above zero keeps negative integers out, which are cut at zero. -/
theorem isReader_count {bound : Nat} (h : 0 < bound) :
    IsReader (fun n : AtLeast bound => .count n.val) (readCount bound) where
  injective := count_injective
  accepts _ a := Verdict.ofExcept_bind_eq_accepted_iff fun n => by
    have hbound := a.property
    rw [judge_iff a]
    omega
  refuses _ := Verdict.refusedFor_ofExcept _

theorem isReader_edge : IsReader (fun n : BandEdge => .count n.val) readEdge where
  injective := count_injective
  accepts _ a := Verdict.ofExcept_bind_eq_accepted_iff fun n => by
    obtain ⟨a, ha⟩ := a
    split_ifs
    · simp only [false_iff]
      omega
    · simp only [Except.ok.injEq, Subtype.mk.injEq]
      omega
    · simp only [false_iff]
      omega
  refuses _ := Verdict.refusedFor_ofExcept _

theorem isReader_aboveZero : IsReader (fun x : AboveZero => .number x.val) readAboveZero where
  injective := number_injective
  accepts _ a := Verdict.ofExcept_bind_eq_accepted_iff fun _ => judge_iff a
  refuses _ := Verdict.refusedFor_ofExcept _

theorem isReader_positiveShare :
    IsReader (fun x : PositiveShare => .number x.val) readPositiveShare where
  injective := number_injective
  accepts _ a := Verdict.ofExcept_bind_eq_accepted_iff fun _ => judgeShare_iff a
  refuses _ := Verdict.refusedFor_ofExcept _

theorem isReader_share : IsReader (fun x : Share => .number x.val) readShare where
  injective := number_injective
  accepts _ a := Verdict.ofExcept_bind_eq_accepted_iff fun _ => judgeShare_iff a
  refuses _ := Verdict.refusedFor_ofExcept _

theorem isReader_texts : IsReader .texts Json.toTexts where
  injective _ _ h := SettingValue.texts.inj h
  accepts _ _ := Iff.rfl
  refuses value := by
    unfold Json.toTexts
    split
    · exact Verdict.refusedFor_all (fun item => Verdict.refusedFor_ofExcept _) _
    · exact ⟨List.cons_ne_nil _ _, fun _ _ => trivial⟩

end Readers

/-! ## Fields -/

/-- What a setting is by named values: what the first value of its name spells, or the standard
where there is none. -/
def Says (values : List (String × Json)) (standard setting : String × SettingValue) : Prop :=
  match values.find? fun entry => entry.1 == setting.1 with
  | none => setting = standard
  | some (_, value) => Spells value setting.2

section Fields

variable {values : List (String × Json)} {field : String}

theorem IsReader.readField_eq_accepted_iff {α : Type} {setting : α → SettingValue}
    {read : Json → Verdict Complaint α} (h : IsReader setting read) {default a : α} :
    readField values field default read = .accepted a ↔
      Says values (field, setting default) (field, setting a) := by
  rw [readField, Says]
  cases values.find? fun entry => entry.1 == field with
  | none => simp [h.injective.eq_iff, eq_comm]
  | some entry => exact Verdict.mapReasons_eq_accepted_iff.trans (h.accepts entry.2 a)

theorem readCount_iff {bound : Nat} (h : 0 < bound) {default a : AtLeast bound} :
    readField values field default (readCount bound) = .accepted a ↔
      Says values (field, .count default) (field, .count a) :=
  (isReader_count h).readField_eq_accepted_iff

theorem readEdge_iff {default a : BandEdge} :
    readField values field default readEdge = .accepted a ↔
      Says values (field, .count default) (field, .count a) :=
  isReader_edge.readField_eq_accepted_iff

theorem readAboveZero_iff {default a : AboveZero} :
    readField values field default readAboveZero = .accepted a ↔
      Says values (field, .number default) (field, .number a) :=
  isReader_aboveZero.readField_eq_accepted_iff

theorem readPositiveShare_iff {default a : PositiveShare} :
    readField values field default readPositiveShare = .accepted a ↔
      Says values (field, .number default) (field, .number a) :=
  isReader_positiveShare.readField_eq_accepted_iff

theorem readShare_iff {default a : Share} :
    readField values field default readShare = .accepted a ↔
      Says values (field, .number default) (field, .number a) :=
  isReader_share.readField_eq_accepted_iff

theorem readTexts_iff {default a : List String} :
    readField values field default Json.toTexts = .accepted a ↔
      Says values (field, .texts default) (field, .texts a) :=
  isReader_texts.readField_eq_accepted_iff

end Fields

/-! ## Settings of values -/

/-- **Values are accepted exactly if they say what all settings are.** Each setting is in its bounds
by its type, so a value out of them spells none. -/
theorem ofValues_eq_accepted_iff {values : List (String × Json)} {s : Settings} :
    Settings.ofValues values = .accepted s ↔
      List.Forall₂ (Says values) Settings.standard.toValues s.toValues := by
  obtain ⟨⟨_, _, _⟩, ⟨_, _, _, _, _⟩, ⟨_, _, _, _, _⟩, ⟨_, _, _, _, _, _⟩, ⟨_, _, _, _⟩, ⟨_, _⟩⟩ :=
    s
  rw [Settings.ofValues]
  -- both sides become one statement for each setting
  simp only [Verdict.seq_eq_accepted_iff, Verdict.map_eq_accepted_iff, exists_and_left,
    exists_exists_and_eq_and, and_assoc, ↓existsAndEq, true_and,
    Settings.mk.injEq, CommentSettings.mk.injEq, StructureSettings.mk.injEq,
    NamingSettings.mk.injEq, ComplexitySettings.mk.injEq, DiscoverySettings.mk.injEq,
    BandSettings.mk.injEq]
  simp (disch := decide) only [readCount_iff, readEdge_iff, readAboveZero_iff,
    readPositiveShare_iff, readShare_iff, readTexts_iff]
  simp only [Settings.toValues, List.forall₂_cons, List.forall₂_nil_left_iff, and_true]

example : Settings.ofValues [] = .accepted .standard := rfl

/-- A refusal names a setting that a value is given for. -/
def Concerns (values : List (String × Json)) (r : Refusal) : Prop :=
  r.field ∈ settingNames ∧ ∃ value, (r.field, value) ∈ values

theorem IsReader.refusedFor_readField {α : Type} {setting : α → SettingValue}
    {read : Json → Verdict Complaint α} (h : IsReader setting read) {values : List (String × Json)}
    {field : String} (hfield : field ∈ settingNames) (default : α) :
    (readField values field default read).RefusedFor (Concerns values) := by
  rw [readField]
  cases hfind : values.find? fun entry => entry.1 == field with
  | none => trivial
  | some entry =>
    obtain ⟨name, value⟩ := entry
    have hname : name = field := by simpa using List.find?_some hfind
    subst hname
    exact (h.refuses value).mapReasons fun _ _ => ⟨hfield, value, List.mem_of_find?_eq_some hfind⟩

/-- Values that are refused are refused for settings that they name. -/
theorem refusedFor_ofValues (values : List (String × Json)) :
    (Settings.ofValues values).RefusedFor (Concerns values) := by
  have count {bound : Nat} {field : String} {default : AtLeast bound} (h : 0 < bound)
      (hfield : field ∈ settingNames) :
      (readField values field default (readCount bound)).RefusedFor (Concerns values) :=
    (isReader_count h).refusedFor_readField hfield default
  have positive {field : String} {default : PositiveShare} (hfield : field ∈ settingNames) :
      (readField values field default readPositiveShare).RefusedFor (Concerns values) :=
    isReader_positiveShare.refusedFor_readField hfield default
  rw [Settings.ofValues]
  refine .seq (.seq (.seq (.seq (.seq (.map ?comment _) ?structural) ?naming) ?complexity)
    ?discovery) ?bands
  case comment =>
    refine .seq (.seq (.map (count ?_ ?_) _) (count ?_ ?_)) (positive ?_) <;> decide
  case structural =>
    refine .seq (.seq (.seq (.seq (.map (count ?_ ?_) _) (count ?_ ?_)) (count ?_ ?_))
      (count ?_ ?_)) (count ?_ ?_) <;> decide
  case naming =>
    refine .seq (.seq (.seq (.seq (.map (count ?_ ?_) _) (count ?_ ?_)) (count ?_ ?_))
      (isReader_share.refusedFor_readField ?_ _)) (positive ?_) <;> decide
  case complexity =>
    refine .seq (.seq (.seq (.seq (.seq (.map (count ?_ ?_) _) (count ?_ ?_))
      (isReader_aboveZero.refusedFor_readField ?_ _)) (count ?_ ?_)) (count ?_ ?_))
      (positive ?_) <;> decide
  case discovery =>
    refine .seq (.seq (.seq (.map (isReader_texts.refusedFor_readField ?_ _) _)
      (isReader_texts.refusedFor_readField ?_ _)) (count ?_ ?_)) (count ?_ ?_) <;> decide
  case bands =>
    refine .seq (.map (isReader_edge.refusedFor_readField ?_ _) _)
      (isReader_edge.refusedFor_readField ?_ _) <;> decide

/-! ## Settings of sources -/

section Variables

variable {known : Dotenv.Variables}

/-- Values of variables are those of settings whose variable is there. -/
theorem isSome_variableOf_of_mem {values : List (String × Json)}
    (h : valuesOfVariables known = .ok values) {entry : String × Json} (hentry : entry ∈ values) :
    (variableOf? known entry.1).isSome := by
  rw [valuesOfVariables] at h
  obtain ⟨given, hgiven, h⟩ := of_bind_eq_ok h
  cases h
  obtain ⟨value, hvalue, hid⟩ := List.mem_filterMap.1 hentry
  obtain ⟨field, _, hfield⟩ := exists_of_mem_mapM hgiven hvalue
  obtain rfl : value = some entry := hid
  cases hvariable : variableOf? known field with
  | none =>
    rw [hvariable] at hfield
    cases hfield
  | some text =>
    rw [hvariable] at hfield
    dsimp only at hfield
    cases hspelled : valueOfVariable field text with
    | error failure =>
      rw [hspelled] at hfield
      cases hfield
    | ok spelled =>
      rw [hspelled] at hfield
      cases spelled with
      | none => cases hfield
      | some v =>
        cases hfield
        rw [hvariable]
        rfl

/-- Variables fail for a list that is not spelled as JSON. -/
theorem notJson_of_valuesOfVariables {failure : SettingsFailure}
    (h : valuesOfVariables known = .error failure) :
    ∃ field ∈ listFields, failure = .notJson field ∧ (variableOf? known field).isSome := by
  rw [valuesOfVariables] at h
  rcases of_bind_eq_error h with h | ⟨given, _, h⟩
  · obtain ⟨field, _, hfield⟩ := exists_of_mapM_eq_error h
    cases hvariable : variableOf? known field with
    | none =>
      rw [hvariable] at hfield
      cases hfield
    | some text =>
      rw [hvariable] at hfield
      dsimp only at hfield
      rw [valueOfVariable] at hfield
      split at hfield
      · rename_i hlist
        split at hfield
        · cases hfield
        · cases hfield
        · cases hfield
          exact ⟨field, List.contains_iff_mem.1 hlist, rfl, by rw [hvariable]; rfl⟩
      · cases hfield
  · cases h

end Variables

namespace SettingsSources

variable {s : SettingsSources}

/-- A source has a value for a setting. -/
def Names (s : SettingsSources) (field : String) : Prop :=
  (∃ entry ∈ s.given, Text.lowerString entry.1 = field) ∨
    (variableOf? s.exported field).isSome ∨ (variableOf? s.assigned field).isSome

theorem names_of_mem_values {values : List (String × Json)} (h : s.values = .ok values)
    {entry : String × Json} (hentry : entry ∈ values) : s.Names entry.1 := by
  rw [SettingsSources.values] at h
  obtain ⟨file, hfile, h⟩ := of_bind_eq_ok h
  obtain ⟨environment, henvironment, h⟩ := of_bind_eq_ok h
  cases h
  rcases List.mem_append.1 hentry with hentry | hentry
  · rcases List.mem_append.1 hentry with hentry | hentry
    · obtain ⟨given, hgiven, rfl⟩ := List.mem_map.1 hentry
      exact .inl ⟨given, hgiven, rfl⟩
    · exact .inr (.inl (isSome_variableOf_of_mem henvironment hentry))
  · exact .inr (.inr (isSome_variableOf_of_mem hfile hentry))

/-- A failure to load settings names a setting that a source has a value for: that of a list whose
variable is not JSON, or each one whose value is refused. -/
def IsFailureOf (s : SettingsSources) : SettingsFailure → Prop
  | .notJson field => field ∈ listFields ∧ s.Names field
  | .notText _ => False
  | .refused refusals => refusals ≠ [] ∧ ∀ r ∈ refusals, r.field ∈ settingNames ∧ s.Names r.field

theorem isFailureOf_values {failure : SettingsFailure} (h : s.values = .error failure) :
    s.IsFailureOf failure := by
  rw [values] at h
  rcases of_bind_eq_error h with hfile | ⟨file, _, h⟩
  · obtain ⟨field, hlist, rfl, hvariable⟩ := notJson_of_valuesOfVariables hfile
    exact ⟨hlist, .inr (.inr hvariable)⟩
  · rcases of_bind_eq_error h with henvironment | ⟨environment, _, h⟩
    · obtain ⟨field, hlist, rfl, hvariable⟩ := notJson_of_valuesOfVariables henvironment
      exact ⟨hlist, .inr (.inl hvariable)⟩
    · cases h

/-- **Settings that cannot be loaded fail for settings that are given.** -/
theorem isFailureOf_load {failure : SettingsFailure} (h : s.load = .error failure) :
    s.IsFailureOf failure := by
  rw [load] at h
  rcases of_bind_eq_error h with h | ⟨values, hvalues, h⟩
  · exact isFailureOf_values h
  have hrefused := refusedFor_ofValues values
  split at h
  · cases h
  · rename_i refusals hrefusals
    cases h
    rw [hrefusals] at hrefused
    refine ⟨hrefused.1, fun r hr => ?_⟩
    obtain ⟨hname, value, hvalue⟩ := hrefused.2 r hr
    exact ⟨hname, names_of_mem_values hvalues hvalue⟩

/-- **Settings are loaded exactly if the values of their sources say what they are.** -/
theorem load_eq_ok_iff {settings : Settings} :
    s.load = .ok settings ↔ ∃ values, s.values = .ok values ∧
      List.Forall₂ (Says values) Settings.standard.toValues settings.toValues := by
  simp only [← ofValues_eq_accepted_iff]
  rw [load]
  constructor
  · intro h
    obtain ⟨values, hvalues, h⟩ := of_bind_eq_ok h
    refine ⟨values, hvalues, ?_⟩
    split at h
    · rename_i hsettings
      cases h
      exact hsettings
    · cases h
  · rintro ⟨values, hvalues, hsettings⟩
    simp only [hvalues, bind, Except.bind, hsettings]

end SettingsSources

end Provenance

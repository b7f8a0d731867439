import Mathlib.Data.List.Forall2
import Provenance.Fault

/-!
# Proofs — Checked

Computations that may end in an error, and do not. `Gives x P` says that `x` has a value, and that
the value has the property `P`. There is one rule for each way in which computations are put
together, so that a computation of many steps is followed step by step; of a step that is taken for
each member of a list they say what each result has to do with its member (`Gives.mapM_forall₂`).
`Agree R x y` says that two computations end in the same error or in values that `R` relates.
-/

namespace Provenance

/-- A computation ends without an error, and its value has a property. -/
def Gives {ε α : Type} (x : Except ε α) (P : α → Prop) : Prop := ∃ a, x = .ok a ∧ P a

namespace Gives

variable {ε ε' α β : Type}

theorem ok {a : α} {P : α → Prop} (h : P a) : Gives (.ok a : Except ε α) P := ⟨a, rfl, h⟩

theorem pure {a : α} {P : α → Prop} (h : P a) : Gives (Pure.pure a : Except ε α) P := ⟨a, rfl, h⟩

theorem mono {x : Except ε α} {P Q : α → Prop} (h : Gives x P) (hPQ : ∀ a, P a → Q a) :
    Gives x Q := by
  obtain ⟨a, ha, hP⟩ := h
  exact ⟨a, ha, hPQ a hP⟩

/-- A step and what follows it. -/
theorem bind {x : Except ε α} {f : α → Except ε β} {P : α → Prop} {Q : β → Prop}
    (hx : Gives x P) (hf : ∀ a, P a → Gives (f a) Q) : Gives (x >>= f) Q := by
  obtain ⟨a, rfl, hP⟩ := hx
  exact hf a hP

theorem mapError {x : Except ε α} {e : ε → ε'} {P : α → Prop} (h : Gives x P) :
    Gives (x.mapError e) P := by
  obtain ⟨a, rfl, hP⟩ := h
  exact ⟨a, rfl, hP⟩

/-- One step for each member of a list. -/
theorem mapM {xs : List α} {f : α → Except ε β} {P : β → Prop}
    (h : ∀ a ∈ xs, Gives (f a) P) : Gives (xs.mapM f) fun bs => ∀ b ∈ bs, P b := by
  induction xs with
  | nil => exact ⟨[], rfl, by simp⟩
  | cons a xs ih =>
    rw [List.mapM_cons]
    refine bind (h a (by simp)) fun b hb => ?_
    refine bind (ih fun a ha => h a (by simp [ha])) fun bs hbs => ?_
    refine pure fun b' hb' => ?_
    rcases List.mem_cons.1 hb' with rfl | hb'
    · exact hb
    · exact hbs b' hb'

/-- One step for each member of a list, of which some are left out. -/
theorem filterMapM {xs : List α} {f : α → Except ε (Option β)} {P : β → Prop}
    (h : ∀ a ∈ xs, Gives (f a) fun b? => ∀ b ∈ b?, P b) :
    Gives (xs.filterMapM f) fun bs => ∀ b ∈ bs, P b := by
  induction xs with
  | nil => exact ⟨[], rfl, by simp⟩
  | cons a xs ih =>
    rw [List.filterMapM_cons]
    refine bind (h a (by simp)) fun b? hb => ?_
    have ih := ih fun a ha => h a (by simp [ha])
    cases b? with
    | none => exact ih
    | some b =>
      refine bind ih fun bs hbs => pure fun b' hb' => ?_
      rcases List.mem_cons.1 hb' with rfl | hb'
      · exact hb b' rfl
      · exact hbs b' hb'

/-- One step for each member of a list, whose values say something of their members. -/
theorem mapM_forall₂ {xs : List α} {f : α → Except ε β} {R : α → β → Prop}
    (h : ∀ a ∈ xs, Gives (f a) (R a)) : Gives (xs.mapM f) (List.Forall₂ R xs) := by
  induction xs with
  | nil => exact ⟨[], rfl, .nil⟩
  | cons a xs ih =>
    rw [List.mapM_cons]
    refine bind (h a List.mem_cons_self) fun b hb => ?_
    exact bind (ih fun a ha => h a (List.mem_cons_of_mem _ ha)) fun bs hbs => pure (.cons hb hbs)

/-- The same for steps that leave members out: those that are kept are a part of the list. -/
theorem filterMapM_forall₂ {xs : List α} {f : α → Except ε (Option β)} {R : α → β → Prop}
    (h : ∀ a ∈ xs, Gives (f a) fun b? => ∀ b ∈ b?, R a b) :
    Gives (xs.filterMapM f) fun bs => ∃ kept, kept.Sublist xs ∧ List.Forall₂ R kept bs := by
  induction xs with
  | nil => exact ⟨[], rfl, [], .slnil, .nil⟩
  | cons a xs ih =>
    rw [List.filterMapM_cons]
    refine bind (h a List.mem_cons_self) fun b? hb => ?_
    have ih := ih fun a ha => h a (List.mem_cons_of_mem _ ha)
    cases b? with
    | none =>
      refine ih.mono fun bs hbs => ?_
      obtain ⟨kept, hkept, hR⟩ := hbs
      exact ⟨kept, hkept.cons a, hR⟩
    | some b =>
      refine bind ih fun bs hbs => pure ?_
      obtain ⟨kept, hkept, hR⟩ := hbs
      exact ⟨a :: kept, hkept.cons_cons a, .cons (hb b rfl) hR⟩

end Gives

variable {ε α α' β β' : Type}

/-- What is related to the members of a list is related to one of them. -/
theorem exists_of_mem_forall₂ {R : α → β → Prop} {xs : List α} {ys : List β}
    (h : List.Forall₂ R xs ys) {b : β} (hb : b ∈ ys) : ∃ a ∈ xs, R a b := by
  induction h with
  | nil => cases hb
  | @cons a b' xs ys hab _ ih =>
    rcases List.mem_cons.1 hb with rfl | hb
    · exact ⟨a, List.mem_cons_self, hab⟩
    · obtain ⟨a', ha', hR⟩ := ih hb
      exact ⟨a', List.mem_cons_of_mem _ ha', hR⟩

/-- What holds between members holds between what is related to them. -/
theorem pairwise_of_forall₂ {R : α → β → Prop} {S : α → α → Prop} {T : β → β → Prop}
    (hT : ∀ {a a' b b'}, R a b → R a' b' → S a a' → T b b') {xs : List α} {ys : List β}
    (h : List.Forall₂ R xs ys) (hS : xs.Pairwise S) : ys.Pairwise T := by
  induction h with
  | nil => exact .nil
  | @cons a b xs ys hab hrest ih =>
    obtain ⟨ha, hxs⟩ := List.pairwise_cons.1 hS
    refine List.pairwise_cons.2 ⟨fun b' hb' => ?_, ih hxs⟩
    obtain ⟨a', ha', hR⟩ := exists_of_mem_forall₂ hrest hb'
    exact hT hab hR (ha a' ha')

/-- What has a value has it from a value of its first step. -/
theorem of_bind_eq_ok {x : Except ε α} {f : α → Except ε β} {b : β} (h : x >>= f = .ok b) :
    ∃ a, x = .ok a ∧ f a = .ok b := by
  cases x with
  | error e => cases h
  | ok a => exact ⟨a, rfl, h⟩

/-- What fails does so in its first step or in what follows. -/
theorem of_bind_eq_error {x : Except ε α} {f : α → Except ε β} {e : ε} (h : x >>= f = .error e) :
    x = .error e ∨ ∃ a, x = .ok a ∧ f a = .error e := by
  cases x with
  | error e' =>
    cases h
    exact .inl rfl
  | ok a => exact .inr ⟨a, rfl, h⟩

/-! ## Members -/

/-- Each value is the value of a member. -/
theorem exists_of_mem_mapM {f : α → Except ε β} {xs : List α} {bs : List β}
    (h : xs.mapM f = .ok bs) {b : β} (hb : b ∈ bs) : ∃ a ∈ xs, f a = .ok b := by
  induction xs generalizing bs with
  | nil =>
    cases h
    cases hb
  | cons a xs ih =>
    rw [List.mapM_cons] at h
    obtain ⟨b', hb', h⟩ := of_bind_eq_ok h
    obtain ⟨bs', hbs', h⟩ := of_bind_eq_ok h
    cases h
    rcases List.mem_cons.1 hb with rfl | hb
    · exact ⟨a, List.mem_cons_self, hb'⟩
    · obtain ⟨a', ha', he⟩ := ih hbs' hb
      exact ⟨a', List.mem_cons_of_mem _ ha', he⟩

/-- What the value of each member says of it, the values of a list say of the list. -/
theorem map_eq_of_mapM {γ : Type} {f : α → Except ε β} {g : β → γ} {g' : α → γ}
    (hf : ∀ a b, f a = .ok b → g b = g' a) {xs : List α} {bs : List β} (h : xs.mapM f = .ok bs) :
    bs.map g = xs.map g' := by
  induction xs generalizing bs with
  | nil =>
    cases h
    rfl
  | cons a xs ih =>
    rw [List.mapM_cons] at h
    obtain ⟨b, hb, h⟩ := of_bind_eq_ok h
    obtain ⟨bs', hbs', h⟩ := of_bind_eq_ok h
    cases h
    rw [List.map_cons, List.map_cons, hf a b hb, ih hbs']

/-- A list fails with one of its members. -/
theorem exists_of_mapM_eq_error {f : α → Except ε β} {xs : List α} {e : ε}
    (h : xs.mapM f = .error e) : ∃ a ∈ xs, f a = .error e := by
  induction xs with
  | nil => cases h
  | cons a xs ih =>
    rw [List.mapM_cons] at h
    rcases of_bind_eq_error h with ha | ⟨b, _, h⟩
    · exact ⟨a, List.mem_cons_self, ha⟩
    · rcases of_bind_eq_error h with hxs | ⟨bs, _, h⟩
      · obtain ⟨a', ha', he⟩ := ih hxs
        exact ⟨a', List.mem_cons_of_mem _ ha', he⟩
      · cases h

/-! ## Parts -/

/-- A part of a list has values if the list has, and they are a part of its values. -/
theorem mapM_sublist {f : α → Except ε β} {xs ys : List α} (h : xs.Sublist ys)
    {zs : List β} (hys : ys.mapM f = .ok zs) : ∃ ws, xs.mapM f = .ok ws ∧ ws.Sublist zs := by
  induction h generalizing zs with
  | slnil => exact ⟨zs, hys, .refl _⟩
  | cons x _ ih =>
    rw [List.mapM_cons] at hys
    obtain ⟨z, _, hys⟩ := of_bind_eq_ok hys
    obtain ⟨zs', hrest, hys⟩ := of_bind_eq_ok hys
    cases hys
    obtain ⟨ws, hws, hsub⟩ := ih hrest
    exact ⟨ws, hws, hsub.cons z⟩
  | cons_cons x _ ih =>
    rw [List.mapM_cons] at hys
    obtain ⟨z, hz, hys⟩ := of_bind_eq_ok hys
    obtain ⟨zs', hrest, hys⟩ := of_bind_eq_ok hys
    cases hys
    obtain ⟨ws, hws, hsub⟩ := ih hrest
    refine ⟨z :: ws, ?_, hsub.cons_cons z⟩
    rw [List.mapM_cons, hz, hws]
    rfl

/-! ## Changed members -/

/-- A list of changed members gives what the list gives, changed, if each step does. -/
theorem mapM_map_of_comm {f : α → α'} {h : β → β'} {step : α → Except ε β}
    {step' : α' → Except ε β'} {xs : List α} (hcomm : ∀ a ∈ xs, step' (f a) = h <$> step a) :
    (xs.map f).mapM step' = List.map h <$> xs.mapM step := by
  induction xs with
  | nil => rfl
  | cons a xs ih =>
    have ih := ih fun a ha => hcomm a (List.mem_cons_of_mem _ ha)
    rw [List.map_cons, List.mapM_cons, List.mapM_cons, ih, hcomm a List.mem_cons_self]
    cases step a with
    | error e => rfl
    | ok b => cases xs.mapM step <;> rfl

/-- The same for steps that leave members out. -/
theorem filterMapM_map_of_comm {f : α → α'} {h : β → β'} {step : α → Except ε (Option β)}
    {step' : α' → Except ε (Option β')} {xs : List α}
    (hcomm : ∀ a ∈ xs, step' (f a) = Option.map h <$> step a) :
    (xs.map f).filterMapM step' = List.map h <$> xs.filterMapM step := by
  induction xs with
  | nil => rfl
  | cons a xs ih =>
    have ih := ih fun a ha => hcomm a (List.mem_cons_of_mem _ ha)
    rw [List.map_cons, List.filterMapM_cons, List.filterMapM_cons, ih,
      hcomm a List.mem_cons_self]
    cases step a with
    | error e => rfl
    | ok b? =>
      cases b? with
      | none => rfl
      | some b => cases xs.filterMapM step <;> rfl

/-! ## Two computations -/

/-- Two computations that end in the same error, or in related values. -/
inductive Agree {ε α β : Type} (R : α → β → Prop) : Except ε α → Except ε β → Prop
  | ok {a : α} {b : β} (h : R a b) : Agree R (.ok a) (.ok b)
  | error (e : ε) : Agree R (.error e) (.error e)

namespace Agree

variable {ε α β γ δ : Type}

theorem bind {x : Except ε α} {y : Except ε β} {f : α → Except ε γ} {g : β → Except ε δ}
    {R : α → β → Prop} {S : γ → δ → Prop} (h : Agree R x y)
    (hfg : ∀ a b, x = .ok a → R a b → Agree S (f a) (g b)) : Agree S (x >>= f) (y >>= g) := by
  cases h with
  | ok h => exact hfg _ _ rfl h
  | error e => exact .error e

theorem imp {x : Except ε α} {y : Except ε β} {R S : α → β → Prop} (h : Agree R x y)
    (hRS : ∀ a b, x = .ok a → R a b → S a b) : Agree S x y := by
  cases h with
  | ok h => exact .ok (hRS _ _ rfl h)
  | error e => exact .error e

theorem trans {x : Except ε α} {y : Except ε β} {z : Except ε γ} {R : α → β → Prop}
    {S : β → γ → Prop} {T : α → γ → Prop} (hxy : Agree R x y) (hyz : Agree S y z)
    (hT : ∀ a b c, R a b → S b c → T a c) : Agree T x z := by
  cases hxy with
  | ok h =>
    cases hyz with
    | ok h' => exact .ok (hT _ _ _ h h')
  | error e =>
    cases hyz
    exact .error e

theorem exists_ok {a : α} {y : Except ε β} {R : α → β → Prop} (h : Agree R (.ok a) y) :
    ∃ b, y = .ok b ∧ R a b := by
  cases h with
  | ok h => exact ⟨_, rfl, h⟩

theorem eq {x y : Except ε α} (h : Agree (· = ·) x y) : x = y := by
  cases h with
  | ok h => rw [h]
  | error e => rfl

/-- Steps that fail in one way only may be taken in any order: their values change places with
them. -/
theorem mapM_perm {f : α → Except ε β} {e₀ : ε} (hf : ∀ a e, f a = .error e → e = e₀)
    {xs ys : List α} (h : xs.Perm ys) : Agree List.Perm (xs.mapM f) (ys.mapM f) := by
  induction h with
  | nil => exact .ok (.refl [])
  | @cons a xs ys _ ih =>
    rw [List.mapM_cons, List.mapM_cons]
    cases f a with
    | error e => exact .error e
    | ok b => exact ih.bind fun _ _ _ hperm => .ok (hperm.cons b)
  | swap a b xs =>
    simp only [List.mapM_cons]
    cases ha : f a with
    | error e =>
      obtain rfl := hf a e ha
      cases hb : f b with
      | error e' =>
        obtain rfl := hf b e' hb
        exact .error _
      | ok _ => exact .error _
    | ok a' =>
      cases hb : f b with
      | error e => exact .error e
      | ok b' =>
        cases xs.mapM f with
        | error e => exact .error e
        | ok cs => exact .ok (.swap a' b' cs)
  | trans _ _ ih₁ ih₂ => exact ih₁.trans ih₂ fun _ _ _ => .trans

end Agree

end Provenance

import Mathlib.Data.List.Forall2

/-!
# Steps that can fail

Derivation, ordering and expressions are sequences of steps of which each can fail, and lists of
such steps that end at the first failure. The lemmas here take a sequence apart into its steps: a
sequence succeeds if all of its steps do (`bind_ok_iff`, `mapM_ok_iff`), and it fails with the error
of the first step that fails (`bind_error_iff`, `mapM_error_iff`).
-/

namespace DomainTables

variable {α β γ ε : Type}

/-- A step that only returns a value succeeds with that value. -/
theorem pure_ok_iff {a b : α} : (pure a : Except ε α) = .ok b ↔ a = b := by
  simp [pure, Except.pure]

/-- A step that only returns a value does not fail. -/
theorem pure_ne_error {a : α} {e : ε} : (pure a : Except ε α) ≠ .error e := by
  simp [pure, Except.pure]

/-- A step that is seen to succeed has a value. -/
theorem exists_ok_of_toBool {step : Except ε α} (h : step.toBool = true) :
    ∃ a, step = .ok a := by
  cases step with
  | error e => cases h
  | ok a => exact ⟨a, rfl⟩

/-- A step whose result passes a test has that result. -/
theorem exists_ok_of_any {step : Except ε α} {p : α → Prop} [DecidablePred p]
    (h : step.toOption.any (fun a => decide (p a)) = true) : ∃ a, step = .ok a ∧ p a := by
  cases step with
  | ok a => exact ⟨a, rfl, of_decide_eq_true h⟩
  | error e => cases h

/-- Two steps in a row succeed if the first succeeds, and the second does with its result. -/
theorem bind_ok_iff {step : Except ε α} {next : α → Except ε β} {b : β} :
    step >>= next = .ok b ↔ ∃ a, step = .ok a ∧ next a = .ok b := by
  constructor
  · intro h
    cases step with
    | error e => cases h
    | ok a => exact ⟨a, rfl, h⟩
  · rintro ⟨a, rfl, h⟩
    exact h

/-- Two steps in a row fail if the first fails, or if the second does with its result. -/
theorem bind_error_iff {step : Except ε α} {next : α → Except ε β} {e : ε} :
    step >>= next = .error e ↔ step = .error e ∨ ∃ a, step = .ok a ∧ next a = .error e := by
  cases step with
  | error e' => simp [bind, Except.bind]
  | ok a => simp [bind, Except.bind]

/-- A step whose result is changed succeeds if the step does. -/
theorem map_ok_iff {step : Except ε α} {f : α → β} {b : β} :
    step.map f = .ok b ↔ ∃ a, step = .ok a ∧ f a = b := by
  cases step with
  | error e => simp [Except.map]
  | ok a => simp [Except.map]

/-- A step whose result is changed fails as the step does. -/
theorem map_error_iff {step : Except ε α} {f : α → β} {e : ε} :
    step.map f = .error e ↔ step = .error e := by
  cases step with
  | error e' => simp [Except.map]
  | ok a => simp [Except.map]

/-- A step whose error is changed succeeds as the step does. -/
theorem mapError_ok_iff {ε' : Type} {step : Except ε α} {f : ε → ε'} {a : α} :
    step.mapError f = .ok a ↔ step = .ok a := by
  cases step with
  | error e => simp [Except.mapError]
  | ok b => simp [Except.mapError]

/-- A step whose error is changed fails with the changed error. -/
theorem mapError_error_iff {ε' : Type} {step : Except ε α} {f : ε → ε'} {e' : ε'} :
    step.mapError f = .error e' ↔ ∃ e, step = .error e ∧ f e = e' := by
  cases step with
  | error e => simp [Except.mapError]
  | ok b => simp [Except.mapError]

/-- The steps for the elements of a list succeed if each does, with the results in order. -/
theorem mapM_ok_iff {f : α → Except ε β} {xs : List α} {ys : List β} :
    xs.mapM f = .ok ys ↔ List.Forall₂ (fun x y => f x = .ok y) xs ys := by
  induction xs generalizing ys with
  | nil =>
    rw [List.mapM_nil, pure_ok_iff, List.forall₂_nil_left_iff]
    exact eq_comm
  -- Both sides name the result for the head first and those for the rest afterwards.
  | cons x xs ih =>
    simp only [List.mapM_cons, bind_ok_iff, pure_ok_iff, List.forall₂_cons_left_iff, ih]
    constructor
    · rintro ⟨y, hy, ys', hys, rfl⟩
      exact ⟨y, ys', hy, hys, rfl⟩
    · rintro ⟨y, ys', hy, hys, rfl⟩
      exact ⟨y, hy, ys', hys, rfl⟩

/-- If the step for an element returns a function of it under a condition, the steps for a list
return the images of the elements if all of them meet the condition. -/
theorem mapM_ok_iff_map {f : α → Except ε β} {p : α → Prop} {g : α → β}
    (hf : ∀ x y, f x = .ok y ↔ p x ∧ g x = y) {xs : List α} {ys : List β} :
    xs.mapM f = .ok ys ↔ (∀ x ∈ xs, p x) ∧ xs.map g = ys := by
  induction xs generalizing ys with
  | nil => simp [pure_ok_iff]
  -- A result is fixed by its element, so only the conditions are left to collect.
  | cons x xs ih =>
    simp only [List.mapM_cons, bind_ok_iff, pure_ok_iff, hf, ih, List.forall_mem_cons,
      List.map_cons]
    constructor
    · rintro ⟨_, ⟨hx, rfl⟩, _, ⟨hxs, rfl⟩, rfl⟩
      exact ⟨⟨hx, hxs⟩, rfl⟩
    · rintro ⟨⟨hx, hxs⟩, rfl⟩
      exact ⟨_, ⟨hx, rfl⟩, _, ⟨hxs, rfl⟩, rfl⟩

/-- The steps for the elements of a list fail as the first one does that fails. -/
theorem mapM_error_iff {f : α → Except ε β} {xs : List α} {e : ε} :
    xs.mapM f = .error e ↔
      ∃ before x after, xs = before ++ x :: after ∧ (∀ y ∈ before, ∃ z, f y = .ok z) ∧
        f x = .error e := by
  induction xs with
  | nil => simp [pure_ne_error]
  | cons x xs ih =>
    simp only [List.mapM_cons, bind_error_iff, pure_ne_error, and_false, exists_false, or_false, ih]
    -- The head fails, or it succeeds and belongs in front of the element at which the rest fails.
    constructor
    · rintro (h | ⟨y, hy, before, x', after, rfl, hb, h⟩)
      · exact ⟨[], x, xs, rfl, by simp, h⟩
      · refine ⟨x :: before, x', after, rfl, ?_, h⟩
        exact List.forall_mem_cons.mpr ⟨⟨y, hy⟩, hb⟩
    · -- The first element that fails is the head, or it comes later and the head succeeds.
      rintro ⟨before, x', after, hxs, hb, h⟩
      cases before with
      | nil =>
        obtain ⟨rfl, rfl⟩ := List.cons.inj hxs
        exact Or.inl h
      | cons y before =>
        obtain ⟨rfl, rfl⟩ := List.cons.inj hxs
        obtain ⟨z, hz⟩ := hb x (by simp)
        exact Or.inr ⟨z, hz, before, x', after, rfl, fun w hw => hb w (by simp [hw]), h⟩

/-- The steps for the elements of a list succeed if each does. -/
theorem exists_mapM_ok_iff {f : α → Except ε β} {xs : List α} :
    (∃ ys, xs.mapM f = .ok ys) ↔ ∀ x ∈ xs, ∃ y, f x = .ok y := by
  induction xs with
  | nil => simp [pure_ok_iff]
  | cons x xs ih =>
    simp only [List.mapM_cons, bind_ok_iff, pure_ok_iff, List.forall_mem_cons, ← ih]
    constructor
    · rintro ⟨_, y, hy, ys, hys, rfl⟩
      exact ⟨⟨y, hy⟩, ys, hys⟩
    · rintro ⟨⟨y, hy⟩, ys, hys⟩
      exact ⟨_, y, hy, ys, hys, rfl⟩

/-- Two steps in a row are the same if the second is the same for the result of the first. -/
theorem bind_congr_ok {step : Except ε α} {f g : α → Except ε β}
    (h : ∀ a, step = .ok a → f a = g a) : step >>= f = step >>= g := by
  cases step with
  | error e => rfl
  | ok a => exact h a rfl

/-- Steps that are the same for each element of a list are the same for the list. -/
theorem mapM_congr {f g : α → Except ε β} {xs : List α} (h : ∀ x ∈ xs, f x = g x) :
    xs.mapM f = xs.mapM g := by
  induction xs with
  | nil => rfl
  | cons x xs ih =>
    obtain ⟨hx, hxs⟩ := List.forall_mem_cons.mp h
    rw [List.mapM_cons, List.mapM_cons, hx, ih hxs]

/-- Steps for the elements of a list that may have no value have one together if each has. -/
theorem mapM_some_iff {f : α → Option β} {xs : List α} {ys : List β} :
    xs.mapM f = some ys ↔ List.Forall₂ (fun x y => f x = some y) xs ys := by
  induction xs generalizing ys with
  | nil =>
    rw [List.mapM_nil, List.forall₂_nil_left_iff, Option.pure_def, Option.some_inj]
    exact eq_comm
  | cons x xs ih =>
    simp only [List.mapM_cons, Option.bind_eq_bind, Option.bind_eq_some_iff, Option.pure_def,
      Option.some_inj, List.forall₂_cons_left_iff, ih]
    constructor
    · rintro ⟨y, hy, ys', hys, rfl⟩
      exact ⟨y, ys', hy, hys, rfl⟩
    · rintro ⟨y, ys', hy, hys, rfl⟩
      exact ⟨y, hy, ys', hys, rfl⟩

/-- Where two lists correspond, an element of the first has its partner in the second. -/
theorem exists_right_of_forall₂ {r : α → β → Prop} {xs : List α} {ys : List β}
    (h : List.Forall₂ r xs ys) {x : α} (hx : x ∈ xs) : ∃ y ∈ ys, r x y := by
  induction h with
  | nil => cases hx
  | cons hr _ ih =>
    rcases List.mem_cons.mp hx with rfl | hx
    · exact ⟨_, by simp, hr⟩
    · obtain ⟨y, hy, hxy⟩ := ih hx
      exact ⟨y, List.mem_cons_of_mem _ hy, hxy⟩

/-- Where two lists correspond, an element of the second has its partner in the first. -/
theorem exists_left_of_forall₂ {r : α → β → Prop} {xs : List α} {ys : List β}
    (h : List.Forall₂ r xs ys) {y : β} (hy : y ∈ ys) : ∃ x ∈ xs, r x y :=
  exists_right_of_forall₂ (r := fun y x => r x y) h.flip hy

/-- Steps that are the same for corresponding elements are the same for the lists. -/
theorem mapM_eq_mapM_of_forall₂ {f : α → Except ε γ} {g : β → Except ε γ} {xs : List α}
    {ys : List β} (h : List.Forall₂ (fun x y => f x = g y) xs ys) : xs.mapM f = ys.mapM g := by
  induction h with
  | nil => rfl
  | cons hfg _ ih => rw [List.mapM_cons, List.mapM_cons, hfg, ih]

/-- Where corresponding elements have equal images, the two lists have the same images. -/
theorem map_eq_map_of_forall₂ {r : α → β → Prop} {f : α → γ} {g : β → γ}
    (hfg : ∀ x y, r x y → f x = g y) {xs : List α} {ys : List β} (h : List.Forall₂ r xs ys) :
    xs.map f = ys.map g := by
  induction h with
  | nil => rfl
  | cons hr _ ih => rw [List.map_cons, List.map_cons, hfg _ _ hr, ih]

end DomainTables

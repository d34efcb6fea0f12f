import Mathlib.Data.List.Forall2

/-!
# Runs that can fail

When an `Except` run succeeds and when it fails, said on its steps. A run over a list succeeds if every step
does (`mapM_ok_iff`) and fails as its first step that fails, which is told by the list around it
(`mapM_error_iff`) or by its position (`mapM_error_iff_getElem?`).
-/
namespace NamePack

variable {α β γ ε ε' : Type}

/-! ## One step -/

theorem bind_ok_iff {x : Except ε α} {f : α → Except ε β} {r : β} :
    (x >>= f) = .ok r ↔ ∃ a, x = .ok a ∧ f a = .ok r := by
  cases x <;> simp [bind, Except.bind]

theorem map_ok_iff {x : Except ε α} {f : α → β} {r : β} : x.map f = .ok r ↔ ∃ a, x = .ok a ∧ f a = r := by
  cases x <;> simp [Except.map]

theorem map_error_iff {x : Except ε α} {f : α → β} {e : ε} : x.map f = .error e ↔ x = .error e := by
  cases x <;> simp [Except.map]

theorem mapError_ok_iff {f : ε → ε'} {x : Except ε α} {a : α} : x.mapError f = .ok a ↔ x = .ok a := by
  cases x <;> simp [Except.mapError]

theorem mapError_error_iff {f : ε → ε'} {x : Except ε α} {e : ε'} :
    x.mapError f = .error e ↔ ∃ d, x = .error d ∧ f d = e := by
  cases x <;> simp [Except.mapError]

/-! ## Lists -/

section
variable (f : α → Except ε β) (xs : List α)

/-- A run over a list succeeds if each step does. -/
theorem mapM_ok_iff (ys : List β) : xs.mapM f = .ok ys ↔ List.Forall₂ (fun x y => f x = .ok y) xs ys := by
  induction xs generalizing ys with
  | nil => simp [pure, Except.pure, eq_comm]
  | cons x xs ih =>
    simp only [List.mapM_cons, bind_ok_iff, ih, List.forall₂_cons_left_iff, pure, Except.pure, Except.ok.injEq]
    constructor
    · rintro ⟨y, first, more, rest, rfl⟩
      exact ⟨y, more, first, rest, rfl⟩
    · rintro ⟨y, more, first, rest, rfl⟩
      exact ⟨y, first, more, rest, rfl⟩

theorem exists_mapM_ok_iff : (∃ ys, xs.mapM f = .ok ys) ↔ ∀ x ∈ xs, ∃ y, f x = .ok y := by
  simp only [mapM_ok_iff]
  induction xs with
  | nil => simp
  | cons x xs ih =>
    simp only [List.forall₂_cons_left_iff, List.forall_mem_cons, ← ih]
    constructor
    · rintro ⟨_, y, more, first, rest, rfl⟩
      exact ⟨⟨y, first⟩, more, rest⟩
    · rintro ⟨⟨y, first⟩, more, rest⟩
      exact ⟨y :: more, y, more, first, rest, rfl⟩

/-- A run over a list fails as its first step that fails. -/
theorem mapM_error_iff (e : ε) :
    xs.mapM f = .error e ↔
      ∃ before x after, xs = before ++ x :: after ∧ (∀ y ∈ before, ∃ b, f y = .ok b) ∧ f x = .error e := by
  induction xs with
  | nil => simp [pure, Except.pure]
  | cons x xs ih =>
    have head_or_tail : (x :: xs).mapM f = .error e ↔ f x = .error e ∨ (∃ b, f x = .ok b) ∧ xs.mapM f = .error e := by
      rw [List.mapM_cons]
      cases f x with
      | error d => simp [bind, Except.bind]
      | ok b => cases xs.mapM f <;> simp [bind, Except.bind, pure, Except.pure]
    rw [head_or_tail, ih]
    constructor
    · rintro (failed | ⟨passed, before, y, after, rfl, earlier, failed⟩)
      · exact ⟨[], x, xs, rfl, by simp, failed⟩
      · exact ⟨x :: before, y, after, rfl, List.forall_mem_cons.mpr ⟨passed, earlier⟩, failed⟩
    · rintro ⟨before, y, after, split, earlier, failed⟩
      cases before with
      | nil =>
        obtain ⟨rfl, -⟩ := List.cons.inj split
        exact .inl failed
      | cons z more =>
        obtain ⟨rfl, rfl⟩ := List.cons.inj split
        obtain ⟨passed, earlier⟩ := List.forall_mem_cons.mp earlier
        exact .inr ⟨passed, more, y, after, rfl, earlier, failed⟩

theorem mapM_error_iff_getElem? (e : ε) :
    xs.mapM f = .error e ↔
      ∃ (i : Nat) (x : α), xs[i]? = some x ∧ f x = .error e ∧ ∀ j < i, ∀ y, xs[j]? = some y → ∃ b, f y = .ok b := by
  rw [mapM_error_iff]
  constructor
  · rintro ⟨before, x, after, rfl, earlier, failed⟩
    refine ⟨before.length, x, by simp, failed, ?_⟩
    intro j inside y found
    rw [List.getElem?_append_left inside] at found
    exact earlier y (List.mem_of_getElem? found)
  · rintro ⟨i, x, found, failed, earlier⟩
    refine ⟨xs.take i, x, xs.drop (i + 1), ?_, ?_, failed⟩
    · obtain ⟨inside, rfl⟩ := List.getElem?_eq_some_iff.mp found
      rw [← List.drop_eq_getElem_cons inside, List.take_append_drop]
    · intro y member
      obtain ⟨j, inside, rfl⟩ := List.mem_take_iff_getElem.mp member
      exact earlier j (by omega) _ (List.getElem?_eq_getElem _)

end

/-- Where each step is another one with its result changed, so is the run. -/
theorem mapM_eq_map {f : α → Except ε β} {g : α → Except ε γ} {h : β → γ} (each : ∀ x, g x = (f x).map h)
    (xs : List α) : xs.mapM g = (xs.mapM f).map (List.map h) := by
  induction xs with
  | nil => rfl
  | cons x xs ih =>
    rw [List.mapM_cons, List.mapM_cons, each, ih]
    cases f x with
    | error e => rfl
    | ok y => cases xs.mapM f <;> rfl

end NamePack

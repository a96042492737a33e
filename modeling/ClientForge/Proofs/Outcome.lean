import Mathlib.Data.List.Forall2

/-!
When a computation that may fail comes to a result.

Results:
1. `Outcome.bind_eq_ok_iff`: a sequence of two succeeds when both do; `Outcome.bind_eq_error_iff`: it
   fails when the first one does, or the second one after it.
2. `Outcome.mapM_eq_ok_iff`: one for every element of a list succeeds when each one does.
3. `Outcome.mapM_eq_error_iff`: it fails when one of them does, and as the first of these.
4. `Outcome.forall₂_filter_filterMap`: what is made of the elements that something is made of.
-/

namespace ClientForge.Outcome

variable {ε α β : Type}

theorem bind_eq_ok_iff {outcome : Except ε α} {next : α → Except ε β} {b : β} :
    (outcome >>= next) = .ok b ↔ ∃ a, outcome = .ok a ∧ next a = .ok b := by
  cases outcome with
  | error e =>
    constructor
    · intro h
      cases h
    · rintro ⟨a, h, _⟩
      cases h
  | ok a =>
    constructor
    · intro h
      exact ⟨a, rfl, h⟩
    · rintro ⟨_, h, hnext⟩
      cases h
      exact hnext

theorem bind_eq_error_iff {outcome : Except ε α} {next : α → Except ε β} {e : ε} :
    (outcome >>= next) = .error e ↔ outcome = .error e ∨ ∃ a, outcome = .ok a ∧ next a = .error e := by
  cases outcome with
  | error e' =>
    constructor
    · intro h
      cases h
      exact .inl rfl
    · rintro (h | ⟨a, h, _⟩)
      · cases h
        rfl
      · cases h
  | ok a =>
    constructor
    · intro h
      exact .inr ⟨a, rfl, h⟩
    · rintro (h | ⟨_, h, hnext⟩)
      · cases h
      · cases h
        exact hnext

theorem pure_eq_ok_iff {a b : α} : (pure a : Except ε α) = .ok b ↔ a = b := by
  rw [pure, Applicative.toPure, Monad.toApplicative]
  exact ⟨Except.ok.inj, congrArg _⟩

theorem mapM_eq_ok_iff {f : α → Except ε β} {xs : List α} {ys : List β} :
    xs.mapM f = .ok ys ↔ List.Forall₂ (fun x y => f x = .ok y) xs ys := by
  induction xs generalizing ys with
  | nil =>
    rw [List.mapM_nil, List.forall₂_nil_left_iff, pure_eq_ok_iff, eq_comm]
  | cons x xs ih =>
    rw [List.mapM_cons, bind_eq_ok_iff, List.forall₂_cons_left_iff]
    constructor
    · rintro ⟨y, hy, hrest⟩
      obtain ⟨tail, htail, hys⟩ := bind_eq_ok_iff.mp hrest
      exact ⟨y, tail, hy, ih.mp htail, (pure_eq_ok_iff.mp hys).symm⟩
    · rintro ⟨y, tail, hy, htail, rfl⟩
      exact ⟨y, hy, bind_eq_ok_iff.mpr ⟨tail, ih.mpr htail, rfl⟩⟩

theorem exists_of_mapM_ok {f : α → Except ε β} {xs : List α} {ys : List β}
    (h : xs.mapM f = .ok ys) {x : α} (hx : x ∈ xs) : ∃ y, f x = .ok y := by
  have hall := mapM_eq_ok_iff.mp h
  clear h
  induction hall with
  | nil => cases hx
  | cons hy _ ih =>
    rcases List.mem_cons.mp hx with rfl | hx
    · exact ⟨_, hy⟩
    · exact ih hx

/-- One for every element fails at the first element that it fails for. -/
theorem mapM_eq_error_iff {f : α → Except ε β} {xs : List α} {e : ε} :
    xs.mapM f = .error e ↔ ∃ earlier x later, xs = earlier ++ x :: later ∧
      (∀ y ∈ earlier, ∃ b, f y = .ok b) ∧ f x = .error e := by
  induction xs with
  | nil =>
    refine iff_of_false (fun h => nomatch h) ?_
    rintro ⟨earlier, x, later, h, _⟩
    simp at h
  | cons x xs ih =>
    rw [List.mapM_cons, bind_eq_error_iff]
    constructor
    · rintro (hx | ⟨y, hy, hrest⟩)
      · exact ⟨[], x, xs, rfl, fun _ h => (List.not_mem_nil h).elim, hx⟩
      · rcases bind_eq_error_iff.mp hrest with hxs | ⟨_, _, hreturn⟩
        · obtain ⟨earlier, x', later, rfl, hearlier, hx'⟩ := ih.mp hxs
          exact ⟨x :: earlier, x', later, rfl, List.forall_mem_cons.mpr ⟨⟨y, hy⟩, hearlier⟩, hx'⟩
        · cases hreturn
    · rintro ⟨earlier, x', later, hsplit, hearlier, hx'⟩
      cases earlier with
      | nil =>
        cases hsplit
        exact .inl hx'
      | cons first earlier =>
        cases hsplit
        obtain ⟨⟨y, hy⟩, hearlier⟩ := List.forall_mem_cons.mp hearlier
        have hrest := ih.mpr ⟨earlier, x', later, rfl, hearlier, hx'⟩
        exact .inr ⟨y, hy, bind_eq_error_iff.mpr (.inl hrest)⟩

theorem exists_of_mapM_error {f : α → Except ε β} {xs : List α} {e : ε}
    (h : xs.mapM f = .error e) : ∃ x ∈ xs, f x = .error e := by
  obtain ⟨_, x, _, rfl, _, hx⟩ := mapM_eq_error_iff.mp h
  exact ⟨x, by simp, hx⟩

/-- What is made of a list goes, in order, with the elements that something is made of. -/
theorem forall₂_filter_filterMap {f : α → Option β} {p : α → Bool} {xs : List α}
    (h : ∀ x, p x = (f x).isSome) :
    List.Forall₂ (fun x y => f x = some y) (xs.filter p) (xs.filterMap f) := by
  induction xs with
  | nil => exact .nil
  | cons x xs ih =>
    rw [List.filterMap_cons, List.filter_cons, h]
    cases hx : f x with
    | none => exact ih
    | some y => exact .cons hx ih

end ClientForge.Outcome

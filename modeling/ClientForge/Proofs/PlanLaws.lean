import ClientForge.Codegen.Plan
import Mathlib.Data.List.Forall2

/-!
Plans as a writer of steps that may fail: the laws of the monad, and when a plan made of others
comes to a result or to a failure.

Results:
1. `bind_eq_ok_iff`: a sequence of two plans succeeds when both do, and their steps are joined.
2. `mapM_eq_ok_iff`: a plan for every element of a list succeeds when each one does.
3. `bind_eq_error_iff`, `mapM_eq_error_iff`: a failure keeps the steps of what came before it.
-/

namespace ClientForge.Codegen.Plan

variable {α β γ : Type}

theorem pure_eq (a : α) : (pure a : Plan α) = ⟨[], .ok a⟩ := rfl

theorem bind_ok (steps : List Step) (a : α) (next : α → Plan β) :
    ((⟨steps, .ok a⟩ : Plan α) >>= next) = ⟨steps ++ (next a).steps, (next a).outcome⟩ := rfl

theorem bind_error (steps : List Step) (e : Failure) (next : α → Plan β) :
    ((⟨steps, .error e⟩ : Plan α) >>= next) = ⟨steps, .error e⟩ := rfl

/-! ## Laws -/

theorem bind_pure_id (plan : Plan α) : (plan >>= fun a => pure (id a)) = plan := by
  obtain ⟨steps, outcome⟩ := plan
  cases outcome with
  | error e => rfl
  | ok a => simp [bind_ok, pure_eq]

theorem pure_bind_eq (a : α) (next : α → Plan β) : (pure a >>= next) = next a := by
  simp [pure_eq, bind_ok]

theorem bind_bind (plan : Plan α) (f : α → Plan β) (g : β → Plan γ) :
    (plan >>= f >>= g) = plan >>= fun a => f a >>= g := by
  obtain ⟨steps, outcome⟩ := plan
  cases outcome with
  | error e => rfl
  | ok a =>
    rw [bind_ok, bind_ok]
    obtain ⟨more, outcome⟩ := f a
    cases outcome with
    | error e => rfl
    | ok b => simp [bind_ok]

instance : LawfulMonad Plan := LawfulMonad.mk' Plan bind_pure_id pure_bind_eq bind_bind

/-! ## Success -/

theorem bind_eq_ok_iff {plan : Plan α} {next : α → Plan β} {steps : List Step} {b : β} :
    (plan >>= next) = ⟨steps, .ok b⟩ ↔
      ∃ first a second, plan = ⟨first, .ok a⟩ ∧ next a = ⟨second, .ok b⟩ ∧
        steps = first ++ second := by
  constructor
  · intro h
    obtain ⟨first, outcome⟩ := plan
    cases outcome with
    | error e =>
      rw [bind_error] at h
      injection h with _ hout
      cases hout
    | ok a =>
      rw [bind_ok] at h
      injection h with hsteps hout
      exact ⟨first, a, (next a).steps, rfl, by rw [← hout], hsteps.symm⟩
  · rintro ⟨first, a, second, rfl, hnext, rfl⟩
    rw [bind_ok, hnext]

theorem ofExcept_eq_ok_iff {outcome : Except Failure α} {steps : List Step} {a : α} :
    ofExcept outcome = ⟨steps, .ok a⟩ ↔ outcome = .ok a ∧ steps = [] := by
  simp [ofExcept, eq_comm, and_comm]

/-- The steps of the parts in order, and their results. -/
theorem mapM_eq_ok_iff {f : α → Plan β} {xs : List α} {steps : List Step} {ys : List β} :
    xs.mapM f = ⟨steps, .ok ys⟩ ↔
      ∃ parts : List (List Step × β),
        List.Forall₂ (fun x part => f x = ⟨part.1, .ok part.2⟩) xs parts ∧
        steps = parts.flatMap Prod.fst ∧ ys = parts.map Prod.snd := by
  induction xs generalizing steps ys with
  | nil => simp [pure_eq, eq_comm]
  | cons x xs ih =>
    rw [List.mapM_cons, bind_eq_ok_iff]
    constructor
    · rintro ⟨first, y, rest, hx, hrest, rfl⟩
      obtain ⟨second, zs, third, hxs, hpure, rfl⟩ := bind_eq_ok_iff.mp hrest
      obtain ⟨parts, hparts, rfl, rfl⟩ := ih.mp hxs
      cases hpure
      exact ⟨(first, y) :: parts, .cons hx hparts, by simp, rfl⟩
    · rintro ⟨parts, hparts, rfl, rfl⟩
      cases hparts with
      | @cons _ part _ parts hx hparts =>
        exact ⟨part.1, part.2, parts.flatMap Prod.fst, hx,
          bind_eq_ok_iff.mpr ⟨_, _, [], ih.mpr ⟨parts, hparts, rfl, rfl⟩, rfl, by simp⟩, rfl⟩

/-! ## Failure -/

theorem bind_eq_error_iff {plan : Plan α} {next : α → Plan β} {steps : List Step} {e : Failure} :
    (plan >>= next) = ⟨steps, .error e⟩ ↔ plan = ⟨steps, .error e⟩ ∨
      ∃ first a second, plan = ⟨first, .ok a⟩ ∧ next a = ⟨second, .error e⟩ ∧
        steps = first ++ second := by
  constructor
  · intro h
    obtain ⟨first, outcome⟩ := plan
    cases outcome with
    | error e' =>
      rw [bind_error] at h
      injection h with hsteps hout
      cases hout
      exact .inl (by rw [hsteps])
    | ok a =>
      rw [bind_ok] at h
      injection h with hsteps hout
      exact .inr ⟨first, a, (next a).steps, rfl, by rw [← hout], hsteps.symm⟩
  · rintro (rfl | ⟨first, a, second, rfl, hnext, rfl⟩)
    · rw [bind_error]
    · rw [bind_ok, hnext]

theorem ofExcept_eq_error_iff {outcome : Except Failure α} {steps : List Step} {e : Failure} :
    ofExcept outcome = ⟨steps, .error e⟩ ↔ outcome = .error e ∧ steps = [] := by
  simp [ofExcept, eq_comm, and_comm]

/-- The steps of the parts before the failing one, and those that it came to itself. -/
theorem mapM_eq_error_iff {f : α → Plan β} {xs : List α} {steps : List Step} {e : Failure} :
    xs.mapM f = ⟨steps, .error e⟩ ↔
      ∃ done x later ys first last, xs = done ++ x :: later ∧ done.mapM f = ⟨first, .ok ys⟩ ∧
        f x = ⟨last, .error e⟩ ∧ steps = first ++ last := by
  induction xs generalizing steps with
  | nil => simp [pure_eq]
  | cons x xs ih =>
    rw [List.mapM_cons, bind_eq_error_iff]
    constructor
    · rintro (hx | ⟨first, y, rest, hx, hrest, rfl⟩)
      · exact ⟨[], x, xs, [], [], steps, rfl, rfl, hx, rfl⟩
      · rcases bind_eq_error_iff.mp hrest with hxs | ⟨_, _, _, _, hpure, _⟩
        · obtain ⟨done, x', later, ys, second, last, rfl, hdone, hx', rfl⟩ := ih.mp hxs
          refine ⟨x :: done, x', later, y :: ys, first ++ second, last, rfl, ?_, hx',
            (List.append_assoc ..).symm⟩
          rw [List.mapM_cons, hx, bind_ok, hdone, bind_ok, pure_eq, List.append_nil]
        · cases hpure
    · rintro ⟨done, x', later, ys, first, last, hsplit, hdone, hx', rfl⟩
      cases done with
      | nil =>
        obtain ⟨rfl, rfl⟩ := List.cons.inj hsplit
        cases hdone
        exact .inl hx'
      | cons x'' done =>
        obtain ⟨rfl, rfl⟩ := List.cons.inj hsplit
        rw [List.mapM_cons] at hdone
        obtain ⟨first, y, rest, hx, hrest, rfl⟩ := bind_eq_ok_iff.mp hdone
        obtain ⟨second, zs, third, hxs, hpure, rfl⟩ := bind_eq_ok_iff.mp hrest
        cases hpure
        refine .inr ⟨first, y, second ++ last, hx, bind_eq_error_iff.mpr (.inl ?_), by simp⟩
        exact ih.mpr ⟨done, x', later, zs, second, last, rfl, hxs, hx', rfl⟩

end ClientForge.Codegen.Plan

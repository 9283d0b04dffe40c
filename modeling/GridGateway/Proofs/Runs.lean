import Mathlib.Data.List.Forall2

/-!
# Runs that may fail

A run over a state goes on with what came out of its first part, in the state that this part has left.  So what holds of
all ends of its parts holds of the ends of the run (`Ends.bind`).
-/

namespace GridGateway

section

variable {ε σ α β : Type} {t : ExceptT ε (StateM σ) α} {k : α → ExceptT ε (StateM σ) β} {s s' : σ}

theorem run_bind_of_ok {a : α} (h : t.run s = (.ok a, s')) : (t >>= k).run s = (k a).run s' := by
  rw [ExceptT.run_bind]
  simp only [bind, StateT.bind, h]

theorem run_bind_of_error {e : ε} (h : t.run s = (.error e, s')) : (t >>= k).run s = (.error e, s') := by
  rw [ExceptT.run_bind]
  simp only [bind, StateT.bind, h]
  rfl

/-- A step that cannot fail, within a run that may. -/
theorem run_lift_of_eq {m : StateM σ α} {a : α} (h : m s = (a, s')) :
    (liftM m : ExceptT ε (StateM σ) α).run s = (.ok a, s') := by
  change StateT.bind m (fun a => pure (Except.ok a)) s = _
  simp only [StateT.bind, h]
  rfl

/-- A result without fault, whatever is made of it, is there. -/
theorem exists_eq_ok_of_map {γ : Type} {r : Except ε α} {f : α → γ} {c : γ} (h : r.map f = .ok c) :
    ∃ a, r = .ok a := by
  cases r with
  | ok a => exact ⟨a, rfl⟩
  | error e => cases h

end

/-- Going through a list comes to a list of values if every element comes to the value at its place. -/
theorem mapM_eq_ok_iff {α β ε : Type} {step : α → Except ε β} {xs : List α} {ys : List β} :
    xs.mapM step = .ok ys ↔ List.Forall₂ (fun x y => step x = .ok y) xs ys := by
  induction xs generalizing ys with
  | nil =>
    rw [List.mapM_nil, List.forall₂_nil_left_iff]
    exact ⟨fun h => (Except.ok.inj h).symm, fun h => h ▸ rfl⟩
  | cons x xs ih =>
    rw [List.mapM_cons, List.forall₂_cons_left_iff]
    cases hx : step x with
    | error e => exact ⟨fun h => (nomatch h), fun ⟨_, _, h, _⟩ => (nomatch h)⟩
    | ok y =>
      cases hxs : xs.mapM step with
      | error e =>
        refine ⟨fun h => (nomatch h), fun ⟨_, ys', _, h, _⟩ => ?_⟩
        rw [← ih, hxs] at h
        cases h
      | ok ys' =>
        constructor
        · rintro h
          cases h
          exact ⟨y, ys', rfl, ih.1 hxs, rfl⟩
        · rintro ⟨y', ys'', hy, hys, rfl⟩
          cases hy
          rw [← ih, hxs] at hys
          cases hys
          rfl

/-! ### How runs end -/

section

variable {σ ε α γ : Type} {good : α → Prop} {bad : ε → Prop} {t : ExceptT ε (StateM σ) α}

/-- A value of one kind or an error of another. -/
def Settles (good : α → Prop) (bad : ε → Prop) : Except ε α → Prop
  | .ok a => good a
  | .error e => bad e

/-- Whatever the state, the run comes to a value of one kind or fails with an error of another. -/
def Ends (good : α → Prop) (bad : ε → Prop) (t : ExceptT ε (StateM σ) α) : Prop := ∀ s, Settles good bad (t.run s).1

namespace Ends

theorem pure {a : α} (h : good a) : Ends good bad (pure a : ExceptT ε (StateM σ) α) := fun _ => h

theorem bind {next : γ → Prop} {k : α → ExceptT ε (StateM σ) γ} (ht : Ends good bad t)
    (hk : ∀ a, good a → Ends next bad (k a)) : Ends next bad (t >>= k) := by
  intro s
  have hfirst := ht s
  rcases hrun : t.run s with ⟨r, s'⟩
  rw [hrun] at hfirst
  cases r with
  | ok a => rw [run_bind_of_ok hrun]; exact hk a hfirst s'
  | error e => rw [run_bind_of_error hrun]; exact hfirst

end Ends

end

end GridGateway

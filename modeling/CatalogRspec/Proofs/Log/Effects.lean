import CatalogRspec.Proofs.Log.Except
import CatalogRspec.Proofs.Log.Traced

namespace CatalogRspec.TracedT

variable {σ ε δ α β : Type}

theorem bind_apply (x : TracedT ε (StateM σ) α) (f : α → TracedT ε (StateM σ) β) (s : σ) :
    (x >>= f) s =
      match (x s).1.outcome with
      | .ok a =>
        let r := f a (x s).2
        (⟨(x s).1.events ++ r.1.events, r.1.outcome⟩, r.2)
      | .error e => (⟨(x s).1.events, .error e⟩, (x s).2) := by
  show TracedT.bind x f s = _
  unfold TracedT.bind
  show (match (x s).1.outcome with | .ok a => _ | .error e => _ : StateM σ (Traced ε β)) (x s).2 = _
  cases (x s).1.outcome <;> rfl

@[simp] theorem outcome_bind (x : TracedT ε (StateM σ) α) (f : α → TracedT ε (StateM σ) β) (s : σ) :
    ((x >>= f) s).1.outcome = (x s).1.outcome >>= fun a => (f a (x s).2).1.outcome := by
  rw [bind_apply]
  cases (x s).1.outcome <;> rfl

theorem state_bind (x : TracedT ε (StateM σ) α) (f : α → TracedT ε (StateM σ) β) (s : σ) :
    ((x >>= f) s).2 =
      match (x s).1.outcome with
      | .ok a => (f a (x s).2).2
      | .error _ => (x s).2 := by
  rw [bind_apply]
  cases (x s).1.outcome <;> rfl

theorem bind_congr {x : TracedT ε (StateM σ) α} {f g : α → TracedT ε (StateM σ) β} {s : σ}
    (h : ∀ a, (x s).1.outcome = .ok a → f a (x s).2 = g a (x s).2) :
    (x >>= f) s = (x >>= g) s := by
  rw [bind_apply, bind_apply]
  cases hx : (x s).1.outcome with
  | ok a => simp only [h a hx]
  | error e => rfl

theorem bind_eq_ok {x : TracedT ε (StateM σ) α} {f : α → TracedT ε (StateM σ) β} {s : σ} {b : β}
    (h : ((x >>= f) s).1.outcome = .ok b) :
    ∃ a, (x s).1.outcome = .ok a ∧ (f a (x s).2).1.outcome = .ok b ∧
      ((x >>= f) s).2 = (f a (x s).2).2 := by
  rw [outcome_bind] at h
  obtain ⟨a, hx, hf⟩ := Except.bind_eq_ok_iff.mp h
  rw [state_bind, hx]
  exact ⟨a, rfl, hf, rfl⟩

@[simp] theorem outcome_pure (a : α) (s : σ) :
    ((pure a : TracedT ε (StateM σ) α) s).1.outcome = .ok a := rfl

@[simp] theorem outcome_ofTraced (x : Traced ε α) (s : σ) :
    ((ofTraced x : TracedT ε (StateM σ) α) s).1.outcome = x.outcome := rfl

@[simp] theorem outcome_lift (x : StateM σ α) (s : σ) :
    ((lift x : TracedT ε (StateM σ) α) s).1.outcome = .ok (x s).1 := rfl

@[simp] theorem state_lift (x : StateM σ α) (s : σ) :
    ((lift x : TracedT ε (StateM σ) α) s).2 = (x s).2 := rfl

@[simp] theorem outcome_liftExcept (f : δ → ε) (x : StateM σ (Except δ α)) (s : σ) :
    ((liftExcept f x : TracedT ε (StateM σ) α) s).1.outcome = (x s).1.mapError f := rfl

@[simp] theorem state_liftExcept (f : δ → ε) (x : StateM σ (Except δ α)) (s : σ) :
    ((liftExcept f x : TracedT ε (StateM σ) α) s).2 = (x s).2 := rfl

theorem liftExcept_eq_ok {f : δ → ε} {x : StateM σ (Except δ α)} {s : σ} {a : α}
    (h : ((liftExcept f x : TracedT ε (StateM σ) α) s).1.outcome = .ok a) : (x s).1 = .ok a := by
  rw [outcome_liftExcept] at h
  exact Except.mapError_eq_ok_iff.mp h

/-- A run that leaves the state as it is. -/
def Reads (x : TracedT ε (StateM σ) α) : Prop := ∀ s, (x s).2 = s

namespace Reads

theorem pure (a : α) : Reads (Pure.pure a : TracedT ε (StateM σ) α) := fun _ => rfl

theorem ofTraced (x : Traced ε α) : Reads (TracedT.ofTraced x : TracedT ε (StateM σ) α) :=
  fun _ => rfl

theorem bind {x : TracedT ε (StateM σ) α} {f : α → TracedT ε (StateM σ) β} (hx : Reads x)
    (hf : ∀ a, Reads (f a)) : Reads (x >>= f) := by
  intro s
  rw [state_bind]
  cases (x s).1.outcome with
  | ok a => exact (hf a (x s).2).trans (hx s)
  | error e => exact hx s

end Reads

end CatalogRspec.TracedT

import CatalogRspec.Log.Traced

namespace CatalogRspec

namespace Traced

variable {ε δ α β : Type}

@[ext]
theorem ext {x y : Traced ε α} (hevents : x.events = y.events) (houtcome : x.outcome = y.outcome) :
    x = y := by
  cases x
  cases y
  rw [mk.injEq]
  exact ⟨hevents, houtcome⟩

@[simp] theorem outcome_pure (a : α) : (pure a : Traced ε α).outcome = .ok a := rfl

@[simp] theorem outcome_ofExcept (r : Except ε α) : (ofExcept r).outcome = r := rfl

@[simp] theorem outcome_report (events : List Event) :
    (report events : Traced ε Unit).outcome = .ok () := rfl

@[simp] theorem outcome_mapError (f : ε → δ) (x : Traced ε α) :
    (x.mapError f).outcome = x.outcome.mapError f := rfl

@[simp] theorem outcome_bind (x : Traced ε α) (f : α → Traced ε β) :
    (x >>= f).outcome = x.outcome >>= fun a => (f a).outcome := by
  show (Traced.bind x f).outcome = _
  unfold Traced.bind
  cases x.outcome <;> rfl

end Traced

end CatalogRspec

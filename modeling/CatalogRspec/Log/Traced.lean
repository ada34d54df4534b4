import CatalogRspec.Log.Event

namespace CatalogRspec

/-- What a run reported, and how it ended. One that failed has reported what came before. -/
structure Traced (ε α : Type) where
  events : List Event
  outcome : Except ε α

namespace Traced

variable {ε α β : Type}

protected def pure (a : α) : Traced ε α := ⟨[], .ok a⟩

protected def bind (x : Traced ε α) (f : α → Traced ε β) : Traced ε β :=
  match x.outcome with
  | .ok a => ⟨x.events ++ (f a).events, (f a).outcome⟩
  | .error e => ⟨x.events, .error e⟩

instance : Monad (Traced ε) where
  pure := Traced.pure
  bind := Traced.bind

def report (events : List Event) : Traced ε Unit := ⟨events, .ok ()⟩

def ofExcept (r : Except ε α) : Traced ε α := ⟨[], r⟩

def mapError {δ : Type} (f : ε → δ) (x : Traced ε α) : Traced δ α :=
  ⟨x.events, x.outcome.mapError f⟩

end Traced

def TracedT (ε : Type) (m : Type → Type) (α : Type) : Type := m (Traced ε α)

namespace TracedT

variable {ε α β : Type} {m : Type → Type} [Monad m]

protected def bind (x : TracedT ε m α) (f : α → TracedT ε m β) : TracedT ε m β :=
  show m (Traced ε β) from do
    let r ← x
    match r.outcome with
    | .ok a =>
      let s ← f a
      pure ⟨r.events ++ s.events, s.outcome⟩
    | .error e => pure ⟨r.events, .error e⟩

instance : Monad (TracedT ε m) where
  pure a := (pure (Traced.pure a) : m (Traced ε _))
  bind := TracedT.bind

def ofTraced (x : Traced ε α) : TracedT ε m α := (pure x : m (Traced ε α))

def lift (x : m α) : TracedT ε m α := (Traced.pure <$> x : m (Traced ε α))

def liftExcept {δ : Type} (f : δ → ε) (x : m (Except δ α)) : TracedT ε m α :=
  ((fun r => Traced.ofExcept (r.mapError f)) <$> x : m (Traced ε α))

end TracedT

end CatalogRspec

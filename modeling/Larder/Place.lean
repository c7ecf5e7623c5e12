/-!
A place in a larger state where a value is kept.
-/

namespace Larder

structure Place (σ α : Type) where
  get : σ → α
  set : α → σ → σ

namespace Place

variable {σ τ α β : Type}

/-- The whole state. -/
def whole : Place σ σ := ⟨id, fun a _ => a⟩

/-- A place within the value at a place. -/
def within (outer : Place σ τ) (inner : Place τ α) : Place σ α :=
  ⟨fun s => inner.get (outer.get s), fun a s => outer.set (inner.set a (outer.get s)) s⟩

def read (p : Place σ α) : StateM σ α := fun s => (p.get s, s)

def write (p : Place σ α) (a : α) : StateM σ Unit := fun s => ((), p.set a s)

/-- Changes the value and gives an answer. -/
def update (p : Place σ α) (f : α → β × α) : StateM σ β := fun s =>
  let (b, a) := f (p.get s)
  (b, p.set a s)

/-- Does at a place what is done with a value of its own. -/
def run (p : Place σ α) (act : StateM α β) : StateM σ β := p.update act

/-- Reading gives what was written last, and nothing else is kept of a place. -/
structure Lawful (p : Place σ α) : Prop where
  get_set : ∀ a s, p.get (p.set a s) = a
  set_get : ∀ s, p.set (p.get s) s = s
  set_set : ∀ a b s, p.set a (p.set b s) = p.set a s

end Place

end Larder

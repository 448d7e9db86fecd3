import CloudClient.Error

/-!
# Operations that may fail part way

An operation takes a state to its next state and to a value or an error. What it did to the state
before it failed stays done: `Step.bind` hands the state of a failure on.
-/

namespace CloudClient

def Step (σ α : Type) : Type := σ → Except Error α × σ

namespace Step
variable {σ τ α β : Type}

def run (x : Step σ α) (s : σ) : Except Error α × σ := x s

protected def pure (a : α) : Step σ α := fun s => (.ok a, s)

protected def bind (x : Step σ α) (f : α → Step σ β) : Step σ β := fun s =>
  match x s with
  | (.ok a, t) => f a t
  | (.error e, t) => (.error e, t)

instance : Monad (Step σ) where
  pure := Step.pure
  bind := Step.bind

def fail (e : Error) : Step σ α := fun s => (.error e, s)

def ofExcept (r : Except Error α) : Step σ α := fun s => (r, s)

def read (f : σ → α) : Step σ α := fun s => (.ok (f s), s)

def modify (f : σ → σ) : Step σ Unit := fun s => (.ok (), f s)

def second (x : Step τ α) : Step (σ × τ) α := fun (s, t) =>
  let (r, t) := x t
  (r, s, t)

@[simp] theorem pure_apply (a : α) (s : σ) : (pure a : Step σ α) s = (.ok a, s) := rfl

theorem bind_apply (x : Step σ α) (f : α → Step σ β) (s : σ) :
    (x >>= f) s = match x s with
      | (.ok a, t) => f a t
      | (.error e, t) => (.error e, t) := rfl

@[simp] theorem fail_apply (e : Error) (s : σ) : (fail e : Step σ α) s = (.error e, s) := rfl

@[simp] theorem ofExcept_apply (r : Except Error α) (s : σ) : ofExcept r s = (r, s) := rfl

@[simp] theorem read_apply (f : σ → α) (s : σ) : read f s = (.ok (f s), s) := rfl

@[simp] theorem modify_apply (f : σ → σ) (s : σ) : modify f s = (.ok (), f s) := rfl

theorem second_apply (x : Step τ α) (s : σ) (t : τ) :
    second x (s, t) = ((x t).1, s, (x t).2) := rfl

theorem bind_pure (x : Step σ α) : Step.bind x Step.pure = x := by
  funext s
  unfold Step.bind Step.pure
  rcases x s with ⟨_ | _, _⟩ <;> rfl

theorem bind_assoc {γ : Type} (x : Step σ α) (f : α → Step σ β) (g : β → Step σ γ) :
    Step.bind (Step.bind x f) g = Step.bind x fun a => Step.bind (f a) g := by
  funext s
  unfold Step.bind
  rcases x s with ⟨_ | _, _⟩ <;> rfl

instance : LawfulMonad (Step σ) := LawfulMonad.mk' (Step σ) bind_pure (fun _ _ => rfl) bind_assoc

end Step
end CloudClient

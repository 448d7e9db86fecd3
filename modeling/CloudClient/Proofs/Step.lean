import CloudClient.Step

/-!
# Conditions on operations

`Yields` states one condition on what an operation returns and on the state it leaves, so an
invariant is asked of failures as well as of successes. Each way to build an operation has one rule,
and the rule of a sequence hands the state of a failure on. `Meets` is the condition asked most
often: a state of an invariant is left in one, with a value or an error of a given kind.
-/

namespace CloudClient.Step
variable {σ τ α β : Type}

def Yields (x : Step σ α) (s : σ) (Q : Except Error α → σ → Prop) : Prop := Q (x s).1 (x s).2

def Then (f : α → Step σ β) (Q : Except Error β → σ → Prop) : Except Error α → σ → Prop
  | .ok a, t => (f a).Yields t Q
  | .error e, t => Q (.error e) t

theorem Yields.mono {x : Step σ α} {s : σ} {Q R : Except Error α → σ → Prop}
    (h : x.Yields s Q) (hQR : ∀ result t, Q result t → R result t) : x.Yields s R :=
  hQR _ _ h

theorem Yields.of_eq {x : Step σ α} {s t : σ} {result : Except Error α}
    {Q : Except Error α → σ → Prop} (h : x.Yields s Q) (hx : x s = (result, t)) : Q result t := by
  unfold Yields at h
  rwa [hx] at h

theorem Yields.congr {x y : Step σ α} {s : σ} {Q : Except Error α → σ → Prop} (h : y.Yields s Q)
    (heq : x s = y s) : x.Yields s Q := by
  unfold Yields
  rwa [heq]

theorem yields_bind {x : Step σ α} {f : α → Step σ β} {s : σ} {Q : Except Error β → σ → Prop} :
    (x >>= f).Yields s Q ↔ x.Yields s (Then f Q) := by
  unfold Yields
  rw [bind_apply]
  rcases x s with ⟨_ | _, _⟩ <;> rfl

theorem Yields.bind {x : Step σ α} {f : α → Step σ β} {s : σ} {Q : Except Error α → σ → Prop}
    {R : Except Error β → σ → Prop} (hx : x.Yields s Q)
    (hok : ∀ a t, Q (.ok a) t → (f a).Yields t R)
    (herror : ∀ e t, Q (.error e) t → R (.error e) t) : (x >>= f).Yields s R := by
  refine yields_bind.mpr (hx.mono ?_)
  intro result t hQ
  cases result with
  | ok a => exact hok a t hQ
  | error e => exact herror e t hQ

theorem Yields.after {x : Step σ α} {f : α → Step σ β} {s : σ} {R : Except Error β → σ → Prop}
    (hok : ∀ a t, (f a).Yields t R) (herror : ∀ e t, R (.error e) t) : (x >>= f).Yields s R := by
  have hx : x.Yields s fun _ _ => True := trivial
  exact hx.bind (fun a t _ => hok a t) fun e t _ => herror e t

theorem bind_of_ok {x : Step σ α} {f : α → Step σ β} {s t : σ} {a : α} (h : x s = (.ok a, t)) :
    (x >>= f) s = f a t := by
  rw [bind_apply, h]

theorem bind_of_error {x : Step σ α} {f : α → Step σ β} {s t : σ} {e : Error}
    (h : x s = (.error e, t)) : (x >>= f) s = (.error e, t) := by
  rw [bind_apply, h]

theorem yields_bind_of_ok {x : Step σ α} {f : α → Step σ β} {s t : σ} {a : α}
    {Q : Except Error β → σ → Prop} (h : x s = (.ok a, t)) :
    (x >>= f).Yields s Q ↔ (f a).Yields t Q := by
  simp only [Yields, bind_of_ok h]

theorem yields_bind_of_error {x : Step σ α} {f : α → Step σ β} {s t : σ} {e : Error}
    {Q : Except Error β → σ → Prop} (h : x s = (.error e, t)) :
    (x >>= f).Yields s Q ↔ Q (.error e) t := by
  simp only [Yields, bind_of_error h]

theorem yields_read_bind {f : σ → α} {g : α → Step σ β} {s : σ} {Q : Except Error β → σ → Prop} :
    (read f >>= g).Yields s Q ↔ (g (f s)).Yields s Q := Iff.rfl

theorem yields_ok_bind {a : α} {f : α → Step σ β} {s : σ} {Q : Except Error β → σ → Prop} :
    (ofExcept (.ok a) >>= f).Yields s Q ↔ (f a).Yields s Q := Iff.rfl

theorem yields_second {x : Step τ α} {s : σ} {t : τ} {Q : Except Error α → σ × τ → Prop} :
    (second x).Yields (s, t) Q ↔ x.Yields t fun result u => Q result (s, u) := Iff.rfl

theorem Yields.second_bind {x : Step τ α} {f : α → Step (σ × τ) β} {s : σ} {t : τ}
    {Q : Except Error β → σ × τ → Prop} (hok : ∀ a u, x t = (.ok a, u) → (f a).Yields (s, u) Q)
    (herror : ∀ e u, x t = (.error e, u) → Q (.error e) (s, u)) :
    (Step.second x >>= f).Yields (s, t) Q := by
  refine yields_bind.mpr (yields_second.mpr ?_)
  unfold Yields
  rcases hx : x t with ⟨e | a, u⟩
  · exact herror e u hx
  · exact hok a u hx

theorem bind_eq_ok {x : Step σ α} {f : α → Step σ β} {s u : σ} {b : β} :
    (x >>= f) s = (.ok b, u) ↔ ∃ a t, x s = (.ok a, t) ∧ f a t = (.ok b, u) := by
  rw [bind_apply]
  rcases x s with ⟨e | a, t⟩
  · simp
  · refine ⟨fun h => ⟨a, t, rfl, h⟩, ?_⟩
    intro h
    obtain ⟨_, _, h, hf⟩ := h
    cases h
    exact hf

theorem bind_eq_error {x : Step σ α} {f : α → Step σ β} {s u : σ} {e : Error} :
    (x >>= f) s = (.error e, u) ↔
      x s = (.error e, u) ∨ ∃ a t, x s = (.ok a, t) ∧ f a t = (.error e, u) := by
  rw [bind_apply]
  rcases x s with ⟨_ | a, t⟩
  · simp
  · refine ⟨fun h => .inr ⟨a, t, rfl, h⟩, ?_⟩
    intro h
    rcases h with h | ⟨_, _, h, hf⟩
    · cases h
    · cases h
      exact hf

/-! ## Invariants, values and errors -/

def Fits (Q : α → Prop) (E : Error → Prop) : Except Error α → Prop
  | .ok a => Q a
  | .error e => E e

def Meets (I : σ → Prop) (Q : α → Prop) (E : Error → Prop) (x : Step σ α) : Prop :=
  ∀ s, I s → x.Yields s fun result t => I t ∧ Fits Q E result

namespace Meets
variable {I : σ → Prop} {Q : α → Prop} {R : β → Prop} {E : Error → Prop}

theorem error {x : Step σ α} {s t : σ} {e : Error} (h : Meets I Q E x) (hs : I s)
    (hx : x s = (.error e, t)) : E e :=
  ((h s hs).of_eq hx).2

theorem mono {Q' : α → Prop} {E' : Error → Prop} {x : Step σ α} (h : Meets I Q E x)
    (hQ : ∀ a, Q a → Q' a) (hE : ∀ e, E e → E' e) : Meets I Q' E' x := by
  intro s hs
  refine (h s hs).mono fun result t ⟨ht, hfits⟩ => ⟨ht, ?_⟩
  cases result with
  | ok a => exact hQ a hfits
  | error e => exact hE e hfits

theorem pure {a : α} (h : Q a) : Meets I Q E (Pure.pure a) := fun _ hs => ⟨hs, h⟩

theorem fail {e : Error} (h : E e) : Meets I Q E (Step.fail e) := fun _ hs => ⟨hs, h⟩

theorem ofExcept {result : Except Error α} (h : Fits Q E result) :
    Meets I Q E (Step.ofExcept result) :=
  fun _ hs => ⟨hs, h⟩

theorem read {f : σ → α} (h : ∀ s, I s → Q (f s)) : Meets I Q E (Step.read f) :=
  fun s hs => ⟨hs, h s hs⟩

theorem modify {f : σ → σ} (h : ∀ s, I s → I (f s)) :
    Meets I (fun _ => True) E (Step.modify f) :=
  fun s hs => ⟨h s hs, trivial⟩

theorem second {I : σ × τ → Prop} {x : Step τ α}
    (h : ∀ s, Meets (fun t => I (s, t)) Q E x) : Meets I Q E (Step.second x) :=
  fun (s, t) hs => h s t hs

theorem bind {x : Step σ α} {f : α → Step σ β} (hx : Meets I Q E x)
    (hf : ∀ a, Q a → Meets I R E (f a)) : Meets I R E (x >>= f) := by
  intro s hs
  refine (hx s hs).bind (fun a t ht => ?_) fun e t ht => ?_
  · exact hf a ht.2 t ht.1
  · exact ht

end Meets

end CloudClient.Step

/-!
# Sequences that may fail

Actions on the world and on files have one shape: a state goes in, and a value
or an error comes out with the state as it is then. A sequence succeeds exactly
if its parts do, one after another, and its error is that of the part that
failed.
-/

set_option autoImplicit false

namespace OrgPipeline.Sequence
variable {ε σ α β : Type}

abbrev Part (ε σ α : Type) := ExceptT ε (StateM σ) α

theorem bind_of_ok {a : Part ε σ α} {x : α} {s t : σ} (h : a s = (.ok x, t))
    (f : α → Part ε σ β) : (a >>= f) s = f x t := by
  change ExceptT.bind a f s = _
  simp only [ExceptT.bind, ExceptT.mk, bind, StateT.bind]
  rw [h]
  rfl

theorem bind_of_error {a : Part ε σ α} {e : ε} {s t : σ} (h : a s = (.error e, t))
    (f : α → Part ε σ β) : (a >>= f) s = (.error e, t) := by
  change ExceptT.bind a f s = _
  simp only [ExceptT.bind, ExceptT.mk, bind, StateT.bind]
  rw [h]
  rfl

theorem bind_ok {a : Part ε σ α} {f : α → Part ε σ β} {s u : σ} {y : β}
    (h : (a >>= f) s = (.ok y, u)) : ∃ x t, a s = (.ok x, t) ∧ f x t = (.ok y, u) := by
  rcases ha : a s with ⟨r, t⟩
  cases r with
  | ok x =>
    rw [bind_of_ok ha] at h
    exact ⟨x, t, rfl, h⟩
  | error e =>
    rw [bind_of_error ha] at h
    cases h

theorem bind_error {a : Part ε σ α} {f : α → Part ε σ β} {s u : σ} {e : ε}
    (h : (a >>= f) s = (.error e, u)) :
    a s = (.error e, u) ∨ ∃ x t, a s = (.ok x, t) ∧ f x t = (.error e, u) := by
  rcases ha : a s with ⟨r, t⟩
  cases r with
  | ok x =>
    rw [bind_of_ok ha] at h
    exact Or.inr ⟨x, t, rfl, h⟩
  | error e' =>
    rw [bind_of_error ha] at h
    cases h
    exact Or.inl rfl

theorem ok_of_toOption_map {r : Except ε α} {f : α → β} {y : β}
    (h : r.toOption.map f = some y) : ∃ x, r = .ok x ∧ f x = y := by
  cases r with
  | error e => cases h
  | ok x => exact ⟨x, rfl, Option.some.inj h⟩

theorem get_bind (f : σ → Part ε σ α) (s : σ) : ((get : Part ε σ σ) >>= f) s = f s s := rfl

theorem tryCatch_of_ok {a : Part ε σ α} {x : α} {s t : σ} (h : a s = (.ok x, t))
    (handle : ε → Part ε σ α) : tryCatch a handle s = (.ok x, t) := by
  change ExceptT.tryCatch a handle s = _
  simp only [ExceptT.tryCatch, ExceptT.mk, bind, StateT.bind]
  rw [h]
  rfl

theorem tryCatch_of_error {a : Part ε σ α} {e : ε} {s t : σ} (h : a s = (.error e, t))
    (handle : ε → Part ε σ α) : tryCatch a handle s = handle e t := by
  change ExceptT.tryCatch a handle s = _
  simp only [ExceptT.tryCatch, ExceptT.mk, bind, StateT.bind]
  rw [h]

def Moves (R : σ → σ → Prop) (a : Part ε σ α) : Prop := ∀ s, R s (a s).2

section Moves
variable {R : σ → σ → Prop}

theorem moves_pure (hrefl : ∀ s, R s s) (x : α) : Moves R (pure x : Part ε σ α) :=
  fun s => hrefl s

theorem moves_throw (hrefl : ∀ s, R s s) (e : ε) : Moves R (throw e : Part ε σ α) :=
  fun s => hrefl s

theorem moves_bind (htrans : ∀ s t u, R s t → R t u → R s u) {a : Part ε σ α}
    {f : α → Part ε σ β} (ha : Moves R a) (hf : ∀ x, Moves R (f x)) : Moves R (a >>= f) := by
  intro s
  have h₁ := ha s
  rcases hr : a s with ⟨r, t⟩
  rw [hr] at h₁
  cases r with
  | ok x =>
    rw [bind_of_ok hr]
    exact htrans s t _ h₁ (hf x t)
  | error e =>
    rw [bind_of_error hr]
    exact h₁

theorem moves_tryCatch (htrans : ∀ s t u, R s t → R t u → R s u) {a : Part ε σ α}
    {handle : ε → Part ε σ α} (ha : Moves R a) (hh : ∀ e, Moves R (handle e)) :
    Moves R (tryCatch a handle) := by
  intro s
  have h₁ := ha s
  rcases hr : a s with ⟨r, t⟩
  rw [hr] at h₁
  cases r with
  | ok x =>
    rw [tryCatch_of_ok hr]
    exact h₁
  | error e =>
    rw [tryCatch_of_error hr]
    exact htrans s t _ h₁ (hh e t)

end Moves

def Raises (P : ε → Prop) (a : Part ε σ α) : Prop := ∀ s e t, a s = (.error e, t) → P e

section Raises
variable {P : ε → Prop}

theorem raises_pure (x : α) : Raises P (pure x : Part ε σ α) := by
  intro s e t h
  cases h

theorem raises_throw {e : ε} (he : P e) : Raises P (throw e : Part ε σ α) := by
  intro s e' t h
  cases h
  exact he

theorem raises_bind {a : Part ε σ α} {f : α → Part ε σ β}
    (ha : Raises P a) (hf : ∀ x, Raises P (f x)) : Raises P (a >>= f) := by
  intro s e u h
  rcases bind_error h with h₁ | ⟨x, t, -, h₂⟩
  · exact ha s e u h₁
  · exact hf x t e u h₂

theorem raises_ite {c : Prop} [Decidable c] {a b : Part ε σ α} (ha : Raises P a)
    (hb : Raises P b) : Raises P (if c then a else b) := by
  by_cases hc : c
  · rwa [if_pos hc]
  · rwa [if_neg hc]

theorem Raises.mono {Q : ε → Prop} {a : Part ε σ α} (ha : Raises P a) (h : ∀ e, P e → Q e) :
    Raises Q a :=
  fun s e t hr => h e (ha s e t hr)

end Raises

def Agree {σ τ : Type} (R : σ → τ → Prop) (a : Part ε σ α) (b : Part ε τ α) : Prop :=
  ∀ s t, R s t → (a s).1 = (b t).1 ∧ R (a s).2 (b t).2

section Agree
variable {τ : Type} {R : σ → τ → Prop}

theorem agree_pure (x : α) : Agree R (pure x : Part ε σ α) (pure x) :=
  fun _ _ h => ⟨rfl, h⟩

theorem agree_throw (e : ε) : Agree R (throw e : Part ε σ α) (throw e) :=
  fun _ _ h => ⟨rfl, h⟩

theorem agree_bind {a : Part ε σ α} {b : Part ε τ α} {f : α → Part ε σ β} {g : α → Part ε τ β}
    (hab : Agree R a b) (hfg : ∀ x, Agree R (f x) (g x)) : Agree R (a >>= f) (b >>= g) := by
  intro s t h
  obtain ⟨hresult, hstate⟩ := hab s t h
  rcases ha : a s with ⟨r, s'⟩
  rcases hb : b t with ⟨r', t'⟩
  rw [ha, hb] at hresult hstate
  cases hresult
  cases r with
  | ok x =>
    rw [bind_of_ok ha, bind_of_ok hb]
    exact hfg x s' t' hstate
  | error e =>
    rw [bind_of_error ha, bind_of_error hb]
    exact ⟨rfl, hstate⟩

theorem agree_ite {c : Prop} [Decidable c] {a a' : Part ε σ α} {b b' : Part ε τ α}
    (h : Agree R a b) (h' : Agree R a' b') :
    Agree R (if c then a else a') (if c then b else b') := by
  by_cases hc : c
  · rwa [if_pos hc, if_pos hc]
  · rwa [if_neg hc, if_neg hc]

end Agree

/-- The state comes from the other one by asking these questions one after
another, each with its answer, and by nothing else. -/
def Exchanges {γ : Type} (ask : γ → σ → α × σ) : List (γ × α) → σ → σ → Prop
  | [], s, t => t = s
  | (question, answer) :: rest, s, u =>
    ∃ t, ask question s = (answer, t) ∧ Exchanges ask rest t u

end OrgPipeline.Sequence

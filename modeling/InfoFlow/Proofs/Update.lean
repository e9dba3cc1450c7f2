import InfoFlow.Proofs.Listing
import InfoFlow.Refusal

/-!
# Successful updates

A successful run of a sequence of updates is a sequence of successful runs, and a refusal is that of
one update after successful ones. `Update.bind_ok` and `Update.bind_error` take one step off a
sequence, `Update.foldlM_map` carries successful loops over to other states, and `Update.forM_ok`
turns a successful loop into a `Chain` of transitions, one for each item of the list.
-/

namespace InfoFlow

variable {σ α β : Type}

namespace Update

/-- Two updates in a row succeed if and only if the first one does, and the second one does on what
it leaves. -/
lemma bind_ok {x : Update σ α} {f : α → Update σ β} {s b s'} :
    (x >>= f) s = .ok b s' ↔ ∃ a s1, x s = .ok a s1 ∧ f a s1 = .ok b s' := by
  change EStateM.bind x f s = _ ↔ _
  unfold EStateM.bind
  cases x s with
  | ok a s1 =>
    constructor
    · intro h
      exact ⟨a, s1, rfl, h⟩
    · rintro ⟨_, _, ⟨⟩, h⟩
      exact h
  | error e s1 =>
    constructor
    · intro h
      cases h
    · rintro ⟨_, _, h, _⟩
      cases h

/-- Two updates in a row are refused if the first one is, or the second one on what it leaves. -/
lemma bind_error {x : Update σ α} {f : α → Update σ β} {s e s'} :
    (x >>= f) s = .error e s' ↔
      x s = .error e s' ∨ ∃ a s1, x s = .ok a s1 ∧ f a s1 = .error e s' := by
  change EStateM.bind x f s = _ ↔ _
  unfold EStateM.bind
  cases x s with
  | ok a s1 =>
    refine ⟨fun h => .inr ⟨a, s1, rfl, h⟩, fun h => ?_⟩
    obtain h | ⟨_, _, h, h'⟩ := h
    · cases h
    · cases h
      exact h'
  | error e1 s1 =>
    refine ⟨fun h => ?_, fun h => ?_⟩
    · cases h
      exact .inl rfl
    · obtain h | ⟨_, _, h, -⟩ := h
      · cases h
        rfl
      · cases h

/-- An update that only answers leaves the state as it is. -/
lemma pure_ok {a b : α} {s s' : σ} :
    (pure a : Update σ α) s = .ok b s' ↔ b = a ∧ s' = s := by
  constructor
  · intro h
    cases h
    exact ⟨rfl, rfl⟩
  · rintro ⟨rfl, rfl⟩
    rfl

/-- Dropping the answer of an update changes nothing else. -/
lemma drop_ok {x : Update σ α} {s s' : σ} :
    (do let _ ← x : Update σ PUnit) s = .ok ⟨⟩ s' ↔ ∃ a, x s = .ok a s' := by
  rw [bind_ok]
  constructor
  · rintro ⟨a, s1, hx, hp⟩
    obtain ⟨-, rfl⟩ := pure_ok.1 hp
    exact ⟨a, hx⟩
  · rintro ⟨a, hx⟩
    exact ⟨a, s', hx, rfl⟩

/-- What maps the runs of a loop's body maps the runs of the loop. -/
lemma foldlM_map {f : β → α → Update σ β} {φ : σ → σ} {ψ : β → β}
    (body : ∀ {acc a s acc' s'}, f acc a s = .ok acc' s' → f (ψ acc) a (φ s) = .ok (ψ acc') (φ s'))
    {items : List α} {acc s acc' s'} (h : items.foldlM f acc s = .ok acc' s') :
    items.foldlM f (ψ acc) (φ s) = .ok (ψ acc') (φ s') := by
  induction items generalizing acc s with
  | nil =>
    cases h
    rfl
  | cons a items ih =>
    rw [List.foldlM_cons, bind_ok] at h ⊢
    obtain ⟨acc1, s1, first, rest⟩ := h
    exact ⟨ψ acc1, φ s1, body first, ih rest⟩

end Update

/-- The transitions for a list of labels, one after the other. -/
inductive Chain (step : σ → α → σ → Prop) : σ → List α → σ → Prop where
  | nil {s} :
    Chain step s [] s
  | cons {s a s1 rest s'} :
    step s a s1 →
    Chain step s1 rest s' →
    Chain step s (a :: rest) s'

/-- What every transition keeps, a chain keeps. -/
lemma Chain.keeps {step : σ → α → σ → Prop} {I : σ → Prop}
    (keep : ∀ {s a s'}, I s → step s a s' → I s') {s items s'} (chain : Chain step s items s')
    (hs : I s) : I s' := by
  induction chain with
  | nil => exact hs
  | cons first _ ih => exact ih (keep hs first)

/-- A successful loop is a chain of transitions, one for each item, if its body is a transition. The
states in between keep `I`. -/
lemma Update.forM_ok {step : σ → α → σ → Prop} {I : σ → Prop} {f : α → Update σ PUnit}
    (keep : ∀ {s a s'}, I s → step s a s' → I s')
    (body : ∀ {a s s'}, I s → (f a s = .ok ⟨⟩ s' ↔ step s a s'))
    {items : List α} {s s'} (hs : I s) :
    items.forM f s = .ok ⟨⟩ s' ↔ Chain step s items s' := by
  induction items generalizing s with
  | nil =>
    refine ⟨fun h => ?_, fun h => ?_⟩
    · cases h
      exact .nil
    · cases h
      rfl
  | cons a items ih =>
    change (f a >>= fun _ => items.forM f) s = _ ↔ _
    rw [bind_ok]
    refine ⟨fun h => ?_, fun h => ?_⟩
    · obtain ⟨⟨⟩, s1, first, rest⟩ := h
      have hstep := (body hs).1 first
      exact .cons hstep ((ih (keep hs hstep)).1 rest)
    · cases h with
      | cons hstep chain =>
        exact ⟨⟨⟩, _, (body hs).2 hstep, (ih (keep hs hstep)).2 chain⟩

end InfoFlow

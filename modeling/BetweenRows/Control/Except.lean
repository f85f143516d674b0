import Mathlib.Data.List.Basic

/-!
# Checks in `Except`

Request handlers are chains of checks, each of which either fails the
request with an error or lets it go on: `ensure c e`, or a validation whose
error is wrapped (`Except.mapError`). A chain that succeeded passed every
check; the inversion lemmas here read that back one bind at a time.
-/

namespace Except

variable {ε ε' α β : Type}

/-- `if !c { return Err(e) }` -/
def ensure (c : Bool) (e : ε) : Except ε Unit :=
  if c then .ok () else .error e

@[simp] theorem ensure_eq_ok {c : Bool} {e : ε} {u : Unit} : ensure c e = .ok u ↔ c = true := by
  cases c <;> simp [ensure]

/-- `opt.ok_or_else(|| e)?` -/
def require (x : Option α) (e : ε) : Except ε α :=
  match x with
  | some a => .ok a
  | none => .error e

@[simp] theorem require_eq_ok {x : Option α} {e : ε} {a : α} : require x e = .ok a ↔ x = some a := by
  cases x <;> simp [require]

@[simp] theorem error_bind {e : ε} {f : α → Except ε β} : (Except.error e >>= f) = .error e := rfl

@[simp] theorem ok_bind {a : α} {f : α → Except ε β} : (Except.ok a >>= f) = f a := rfl

@[simp] theorem bind_eq_ok {x : Except ε α} {f : α → Except ε β} {b : β} :
    (x >>= f) = .ok b ↔ ∃ a, x = .ok a ∧ f a = .ok b := by
  cases x with
  | error e => simp [bind, Except.bind]
  | ok a => simp [bind, Except.bind]

/-- A check that throws fails the chain. -/
theorem throw_bind_ne_ok {e : ε} {f : α → Except ε β} {b : β} : (throw e >>= f) ≠ .ok b := by
  simp [throw, throwThe, MonadExceptOf.throw, bind, Except.bind]

/-- A guard that throws lets the chain go on only when it does not fire. -/
theorem ite_throw_bind_eq_ok {c : Prop} [Decidable c] {e : ε} {f : α → Except ε β}
    {x : Except ε β} {b : β} : (if c then throw e >>= f else x) = .ok b ↔ ¬ c ∧ x = .ok b := by
  by_cases hc : c
  · simp only [hc, if_true, not_true, false_and, iff_false]
    exact throw_bind_ne_ok
  · simp only [hc, if_false, not_false_eq_true, true_and]

@[simp] theorem pure_eq_ok {a b : α} : (pure a : Except ε α) = .ok b ↔ a = b := by
  simp [pure, Except.pure]

@[simp] theorem map_eq_ok {x : Except ε α} {g : α → β} {b : β} :
    (g <$> x) = .ok b ↔ ∃ a, x = .ok a ∧ g a = b := by
  cases x with
  | error e => simp [Functor.map, Except.map]
  | ok a => simp [Functor.map, Except.map]

@[simp] theorem mapError_eq_ok {x : Except ε α} {g : ε → ε'} {a : α} :
    x.mapError g = .ok a ↔ x = .ok a := by
  cases x <;> simp [Except.mapError]

theorem isOk_iff_eq_ok {x : Except ε Unit} : x.isOk = true ↔ x = .ok () := by
  cases x <;> simp [Except.isOk, Except.toBool]

/-- A computation whose `toOption` is a value returned it. -/
theorem eq_ok_of_toOption {x : Except ε α} {a : α} (h : x.toOption = some a) : x = .ok a := by
  cases x <;> simp_all [Except.toOption]

/-- What every successful pass keeps holds after a successful loop. -/
theorem foldlM_inv {f : β → α → Except ε β} {P : β → Prop}
    (h : ∀ b a b', P b → f b a = .ok b' → P b') :
    ∀ (l : List α) {b b' : β}, P b → l.foldlM f b = .ok b' → P b'
  | [], _, _, hb, hres => by
      cases hres
      exact hb
  | a :: l, b, _, hb, hres => by
      rw [List.foldlM_cons, bind_eq_ok] at hres
      obtain ⟨b₁, h₁, h₂⟩ := hres
      exact foldlM_inv h l (h b a b₁ hb h₁) h₂

/-- The same, for a pass that may use that its element is in the list. -/
theorem foldlM_inv_of_mem {f : β → α → Except ε β} {P : β → Prop} :
    ∀ (l : List α), (∀ b, ∀ a ∈ l, ∀ b', P b → f b a = .ok b' → P b') →
      ∀ {b b' : β}, P b → l.foldlM f b = .ok b' → P b'
  | [], _, _, _, hb, hres => by
      cases hres
      exact hb
  | a :: l, h, b, _, hb, hres => by
      rw [List.foldlM_cons, bind_eq_ok] at hres
      obtain ⟨b₁, h₁, h₂⟩ := hres
      have hrest : ∀ b, ∀ a' ∈ l, ∀ b', P b → f b a' = .ok b' → P b' :=
        fun b a' ha' => h b a' (List.mem_cons_of_mem _ ha')
      exact foldlM_inv_of_mem l hrest (h b a List.mem_cons_self b₁ hb h₁) h₂

end Except

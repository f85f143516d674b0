import Mathlib.Logic.Relation

/-!
# Reachability under one inserted edge

The general fact behind every "insert an edge unless it closes a cycle"
guard: a relation `r` extended by one edge `a → b` (`AddEdge r a b`)
acquires a cycle only if `b` already reached `a` in `r`. A path in the
extended relation is split at its *first* use of the new edge
(`reflTransGen_addEdge`): everything before it is an `r`-path ending in
`a`. A cycle through the new edge therefore runs `b ⇝ … ⇝ a` in the
extended relation, and taking the first use again on that stretch gives
an `r`-path `b ⇝ a` (`acyclic_addEdge`). Removing edges can only shrink
`TransGen`, so acyclicity is antitone in the relation (`Acyclic.mono`).

Nothing here names a particular graph: the relation is arbitrary, and the
successor-list view used by worklist searches (`Adj`) is a relation like
any other.
-/

namespace Reach

open Relation

variable {α : Type*}

/-- `r` extended by the single edge `a → b`. -/
def AddEdge (r : α → α → Prop) (a b : α) (x y : α) : Prop :=
  r x y ∨ (x = a ∧ y = b)

/-- No element reaches itself in one or more steps: no self-loops and no
longer cycles. -/
def Acyclic (r : α → α → Prop) : Prop :=
  ∀ x, ¬ TransGen r x x

/-- The relation presented by a successor function: `y` is listed among
`x`'s successors. -/
def Adj (next : α → List α) (x y : α) : Prop :=
  y ∈ next x

theorem le_addEdge (r : α → α → Prop) (a b : α) : r ≤ AddEdge r a b :=
  fun _ _ h => Or.inl h

/-- A path in the extended relation either avoids the new edge or reaches
its source `a` first: cut the path at the first use of `a → b`. -/
theorem reflTransGen_addEdge {r : α → α → Prop} {a b x y : α}
    (h : ReflTransGen (AddEdge r a b) x y) :
    ReflTransGen r x y ∨ ReflTransGen r x a := by
  induction h with
  | refl => exact Or.inl .refl
  | tail _ hstep ih =>
      rcases ih with hxz | hxa
      · rcases hstep with hr | ⟨rfl, -⟩
        · exact Or.inl (hxz.tail hr)
        · exact Or.inr hxz
      · exact Or.inr hxa

/-- A nonempty path in the extended relation either is an `r`-path, or
passes through the new edge: an `r`-path to `a`, then `a → b`, then the
rest of the path. -/
theorem transGen_addEdge {r : α → α → Prop} {a b x y : α}
    (h : TransGen (AddEdge r a b) x y) :
    TransGen r x y ∨ (ReflTransGen r x a ∧ ReflTransGen (AddEdge r a b) b y) := by
  induction h with
  | single hstep =>
      rcases hstep with hr | ⟨rfl, rfl⟩
      · exact Or.inl (.single hr)
      · exact Or.inr ⟨.refl, .refl⟩
  | tail _ hstep ih =>
      rcases ih with hxz | ⟨hxa, hbz⟩
      · rcases hstep with hr | ⟨rfl, rfl⟩
        · exact Or.inl (hxz.tail hr)
        · exact Or.inr ⟨hxz.to_reflTransGen, .refl⟩
      · exact Or.inr ⟨hxa, hbz.tail hstep⟩

/-- Inserting `a → b` into an acyclic relation keeps it acyclic as long as
`b` does not already reach `a`. -/
theorem acyclic_addEdge {r : α → α → Prop} {a b : α} (hr : Acyclic r)
    (hba : ¬ ReflTransGen r b a) : Acyclic (AddEdge r a b) := by
  intro x hx
  rcases transGen_addEdge hx with hxx | ⟨hxa, hbx⟩
  · exact hr x hxx
  · -- the cycle enters the new edge at `a` and comes back to `x`;
    -- cut the return stretch `b ⇝ x ⇝ a` at its first use of the edge
    have hba' : ReflTransGen (AddEdge r a b) b a :=
      hbx.trans (ReflTransGen.mono (le_addEdge r a b) _ _ hxa)
    rcases reflTransGen_addEdge hba' with h | h
    · exact hba h
    · exact hba h

/-- Acyclicity survives removing edges. -/
theorem Acyclic.mono {r s : α → α → Prop} (hr : Acyclic r) (hsr : s ≤ r) :
    Acyclic s :=
  fun x hx => hr x (TransGen.mono hsr x x hx)

end Reach

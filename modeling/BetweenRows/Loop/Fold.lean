import Mathlib.Data.List.Sort

/-!
# Loops over a list

The handlers' loops and the policy loops are `for a in l { … }` over a state
record, modelled as `List.foldl` of one pass. Most proofs about them rest on
three facts: what every pass keeps holds after the loop (`foldl_inv`), a
part of the state no pass touches is left alone (`foldl_eq`), and a slot
that passes fill only while it is empty ends up holding the first value
offered (`foldl_or`), the shape of the first-wins loops of `collect`.

A first-wins loop often runs over a list sorted stably by a key, as
`sort_by_key` sorts. The value it takes is then that of an element of least
key among those that offer one, and among the elements of that key, of the
one that came first before the sort (`findSome?_insertionSort`).
-/

namespace Fold

variable {σ α β γ : Type*}

/-- A fold whose step leaves the part `get` reads alone leaves it alone. -/
theorem foldl_eq {get : σ → γ} {step : σ → α → σ} (h : ∀ s a, get (step s a) = get s) :
    ∀ (l : List α) (s : σ), get (l.foldl step s) = get s
  | [], _ => rfl
  | a :: l, s => by rw [List.foldl_cons, foldl_eq h l (step s a), h s a]

/-- What every pass keeps holds after the loop. -/
theorem foldl_inv {P : σ → Prop} {step : σ → α → σ} (h : ∀ s a, P s → P (step s a)) :
    ∀ (l : List α) (s : σ), P s → P (l.foldl step s)
  | [], _, hs => hs
  | a :: l, s, hs => foldl_inv h l (step s a) (h s a hs)

/-- What every pass over the list's elements keeps holds after the loop. -/
theorem foldl_inv_of_mem {P : σ → Prop} {step : σ → α → σ} :
    ∀ (l : List α) (s : σ), (∀ s, ∀ a ∈ l, P s → P (step s a)) → P s → P (l.foldl step s)
  | [], _, _, hs => hs
  | a :: l, s, h, hs =>
      foldl_inv_of_mem l (step s a) (fun s' b hb => h s' b (List.mem_cons_of_mem a hb))
        (h s a List.mem_cons_self hs)

/-- A fold whose passes over the list's elements leave the part `get` reads
alone leaves it alone. -/
theorem foldl_eq_of_mem {get : σ → γ} {step : σ → α → σ} :
    ∀ (l : List α) (s : σ), (∀ s, ∀ a ∈ l, get (step s a) = get s) → get (l.foldl step s) = get s
  | [], _, _ => rfl
  | a :: l, s, h => by
      have htail : ∀ s', ∀ b ∈ l, get (step s' b) = get s' :=
        fun s' b hb => h s' b (List.mem_cons_of_mem a hb)
      rw [List.foldl_cons, foldl_eq_of_mem l (step s a) htail, h s a List.mem_cons_self]

/-- A fold whose passes fill the slot `get` reads only while it is empty
fills it with the first value a pass offers. -/
theorem foldl_or {get : σ → Option β} {step : σ → α → σ} {offer : α → Option β}
    (h : ∀ s a, get (step s a) = (get s).or (offer a)) :
    ∀ (l : List α) (s : σ), get (l.foldl step s) = (get s).or (l.findSome? offer)
  | [], s => by simp
  | a :: l, s => by
      rw [List.foldl_cons, foldl_or h l (step s a), h s a, Option.or_assoc, List.findSome?_cons]
      cases offer a <;> rfl

/-- Offering one value wherever a test holds offers it when the test holds
somewhere. -/
theorem findSome?_ite {p : α → Bool} (v : Option β) :
    ∀ l : List α, l.findSome? (fun a => if p a then v else none) = if l.any p then v else none
  | [] => rfl
  | a :: l => by
      rw [List.findSome?_cons, findSome?_ite v l, List.any_cons]
      cases p a <;> cases v <;> simp

/-- The head of a filter comes no later in the list than any other element
the filter keeps. -/
theorem eq_or_pair_sublist_of_filter_eq_cons {p : α → Bool} {a : α} {rest : List α} :
    ∀ {l : List α}, l.filter p = a :: rest → ∀ {c : α}, c ∈ l → p c = true → c = a ∨ List.Sublist [a, c] l
  | [], h, _, _, _ => absurd h (List.cons_ne_nil a rest).symm
  | x :: xs, h, c, hc, hpc => by
      by_cases hx : p x = true
      · rw [List.filter_cons_of_pos hx, List.cons.injEq] at h
        obtain ⟨rfl, -⟩ := h
        rcases List.mem_cons.mp hc with rfl | hc
        · exact .inl rfl
        · exact .inr ((List.singleton_sublist.mpr hc).cons_cons x)
      · rw [List.filter_cons_of_neg hx] at h
        have hcx : c ≠ x := fun heq => hx (heq ▸ hpc)
        rcases eq_or_pair_sublist_of_filter_eq_cons h ((List.mem_cons.mp hc).resolve_left hcx) hpc
          with heq | hsub
        · exact .inl heq
        · exact .inr (hsub.cons x)

section Stable

variable {γ : Type*} [LinearOrder γ] (k : α → γ)

/-- Sorting by a key keeps the list order of the elements of each key. -/
theorem filter_insertionSort_key (l : List α) (c : γ) :
    (l.insertionSort fun a b => k a ≤ k b).filter (fun a => k a = c) = l.filter (fun a => k a = c) := by
  -- the elements of key `c` are pairwise in order, so the sort keeps them as a sublist
  have hpw : (l.filter fun a => k a = c).Pairwise fun a b => k a ≤ k b := by
    refine List.pairwise_of_forall_mem_list fun a ha b hb => ?_
    rw [of_decide_eq_true (List.mem_filter.mp ha).2, of_decide_eq_true (List.mem_filter.mp hb).2]
  have hsub : List.Sublist (l.filter fun a => k a = c)
      ((l.insertionSort fun a b => k a ≤ k b).filter fun a => k a = c) := by
    have h := (List.sublist_insertionSort hpw List.filter_sublist).filter fun a => decide (k a = c)
    rwa [List.filter_filter, List.filter_congr fun a _ => Bool.and_self _] at h
  have hlen : ((l.insertionSort fun a b => k a ≤ k b).filter fun a => k a = c).length =
      (l.filter fun a => k a = c).length :=
    ((List.perm_insertionSort _ l).filter _).length_eq
  exact (hsub.eq_of_length hlen.symm).symm

/-- After a stable sort by a key, the first element that offers a value has
the least key of those that offer one, and among those of its key it is the
first in the list before the sort. -/
theorem findSome?_insertionSort {f : α → Option β} {l : List α} {b : β}
    (h : (l.insertionSort fun a c => k a ≤ k c).findSome? f = some b) :
    ∃ a ∈ l, f a = some b ∧ (∀ c ∈ l, (f c).isSome → k a ≤ k c) ∧
      ∀ c ∈ l, (f c).isSome → k c = k a → c = a ∨ List.Sublist [a, c] l := by
  have : Std.Total fun a c : α => k a ≤ k c := ⟨fun a c => le_total (k a) (k c)⟩
  have : IsTrans α fun a c => k a ≤ k c := ⟨fun _ _ _ hab hbc => le_trans hab hbc⟩
  obtain ⟨l₁, a, l₂, hs, ha, hnone⟩ := List.findSome?_eq_some_iff.mp h
  have hmem : ∀ x, x ∈ l.insertionSort (fun a c => k a ≤ k c) ↔ x ∈ l := fun x => List.mem_insertionSort _
  have hsorted := List.pairwise_insertionSort (fun a c => k a ≤ k c) l
  rw [hs] at hsorted
  have hmin : ∀ c ∈ l, (f c).isSome → k a ≤ k c := by
    intro c hc hsome
    rw [← hmem, hs, List.mem_append, List.mem_cons] at hc
    rcases hc with h₁ | rfl | h₂
    · rw [hnone c h₁] at hsome
      cases hsome
    · exact le_rfl
    · exact (List.pairwise_cons.mp (List.pairwise_append.mp hsorted).2.1).1 c h₂
  refine ⟨a, (hmem a).mp (by simp [hs]), ha, hmin, fun c hc hsome hk => ?_⟩
  -- the offers of key `k a` keep their list order through the sort, and `a` is the first of them
  have hfirst : l.filter (fun x => (f x).isSome && decide (k x = k a)) =
      a :: l₂.filter (fun x => (f x).isSome && decide (k x = k a)) := by
    calc l.filter (fun x => (f x).isSome && decide (k x = k a))
        = (l.filter fun x => k x = k a).filter (fun x => (f x).isSome) := by rw [List.filter_filter]
      _ = ((l.insertionSort fun a c => k a ≤ k c).filter fun x => k x = k a).filter
            (fun x => (f x).isSome) := by rw [filter_insertionSort_key]
      _ = (l₁ ++ a :: l₂).filter (fun x => (f x).isSome && decide (k x = k a)) := by
            rw [List.filter_filter, hs]
      _ = a :: l₂.filter (fun x => (f x).isSome && decide (k x = k a)) := by
            have hl₁ : l₁.filter (fun x => (f x).isSome && decide (k x = k a)) = [] :=
              List.filter_eq_nil_iff.mpr fun x hx => by simp [hnone x hx]
            rw [List.filter_append, hl₁, List.nil_append, List.filter_cons_of_pos (by simp [ha])]
  exact eq_or_pair_sublist_of_filter_eq_cons hfirst hc (by simp [hk, hsome])

end Stable

end Fold

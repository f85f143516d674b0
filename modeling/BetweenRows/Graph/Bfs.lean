import Mathlib.Logic.Relation
import Mathlib.Data.List.Nodup
import BetweenRows.Graph.Reach

/-!
# Breadth-first search over a successor list, with a visited set

One definition for a whole family of worklist loops: pop `(x, d)` from the
front of a FIFO queue, and unless the depth cap says otherwise scan `x`'s
successors in order; each successor is first offered to an early-exit test
(`stop`), and is inserted into the visited set and pushed at depth `d + 1`
only if it is admitted and not yet visited. The loop also keeps the running
maximum of popped depths. A search of the family is a `Search` record;
`scan` is the inner `for` loop and `loop` the outer `while`.

`loop` carries fuel so that it is structural. `loop_succ_eq` shows the fuel
is never the reason it stops: every pass either inserts a new node of the
finite universe `U` or shrinks the queue, so the measure
`2 · |U \ visited| + |queue|` (`measure`) strictly drops, and any fuel above
it gives the same answer as more fuel.

For uncapped searches (`expand` always true) `loop_complete` gives the
meaning of the answer: `none` exactly when a node reachable from the seeds
through admitted successors has a successor that triggers `stop`; otherwise
the visited set is exactly that reachable set. The invariant (`Inv`) is the
usual one: queued nodes are visited, visited nodes are reachable, and a
visited node not in the queue has been expanded (`Expanded`).
-/

namespace Bfs

open Relation

variable {α : Type*} [DecidableEq α]

/-- The parameters that tell one search of the family from another. -/
structure Search (α : Type*) where
  /-- successors of a node, in the order they are scanned -/
  next : α → List α
  /-- early exit: checked on every successor before anything else -/
  stop : α → Bool
  /-- a successor is inserted only if accepted -/
  accepts : α → Bool
  /-- a popped node of depth `d` is expanded only if `expand d` -/
  expand : Nat → Bool

/-- The inner loop over the successors `ys` of a node popped at depth `d`:
`none` is the early exit, `some (visited, queue)` the updated worklist. -/
def scan (S : Search α) (d : Nat) :
    List α → List α → List (α × Nat) → Option (List α × List (α × Nat))
  | [], vis, q => some (vis, q)
  | y :: ys, vis, q =>
      if S.stop y then none
      else if S.accepts y ∧ y ∉ vis then scan S d ys (vis ++ [y]) (q ++ [(y, d + 1)])
      else scan S d ys vis q

/-- The outer loop: pop the queue front until the queue is empty, keeping
the maximum popped depth. `none` is the early exit, otherwise the final
visited set and maximum depth. -/
def loop (S : Search α) : Nat → List α → List (α × Nat) → Nat → Option (List α × Nat)
  | 0, vis, _, m => some (vis, m)
  | _ + 1, vis, [], m => some (vis, m)
  | f + 1, vis, (x, d) :: q, m =>
      if S.expand d then
        match scan S d (S.next x) vis q with
        | none => none
        | some (vis', q') => loop S f vis' q' (max m d)
      else loop S f vis q (max m d)

/-! ## The inner loop -/

theorem scan_eq_none_iff {S : Search α} {d : Nat} :
    ∀ {ys : List α} {vis : List α} {q : List (α × Nat)},
      scan S d ys vis q = none ↔ ∃ y ∈ ys, S.stop y = true
  | [], _, _ => by simp [scan]
  | y :: ys, vis, q => by
      have ih_ins : scan S d ys (vis ++ [y]) (q ++ [(y, d + 1)]) = none ↔
          ∃ y ∈ ys, S.stop y = true := scan_eq_none_iff
      have ih : scan S d ys vis q = none ↔ ∃ y ∈ ys, S.stop y = true := scan_eq_none_iff
      by_cases hs : S.stop y = true
      · simp [scan, hs]
      · have hs' : S.stop y = false := by simpa using hs
        simp only [scan, hs', Bool.false_eq_true, if_false]
        split
        · rw [ih_ins]; simp [hs']
        · rw [ih]; simp [hs']

/-- What a completed scan did: it appended a duplicate-free list `new` of
admitted, previously unvisited successors to both the visited set and (at
depth `d + 1`) the queue; and every scanned successor passed the exit test
and, if admitted, is now visited. -/
theorem scan_eq_some {S : Search α} {d : Nat} :
    ∀ {ys vis : List α} {q : List (α × Nat)} {vis' : List α} {q' : List (α × Nat)},
      scan S d ys vis q = some (vis', q') →
      ∃ new : List α, vis' = vis ++ new ∧ q' = q ++ new.map (·, d + 1) ∧
        (∀ y ∈ new, y ∈ ys ∧ S.accepts y = true ∧ y ∉ vis) ∧ new.Nodup ∧
        ∀ y ∈ ys, S.stop y = false ∧ (S.accepts y = true → y ∈ vis')
  | [], vis, q, vis', q', h => by
      simp only [scan, Option.some.injEq, Prod.mk.injEq] at h
      obtain ⟨rfl, rfl⟩ := h
      exact ⟨[], by simp, by simp, by simp, .nil, by simp⟩
  | y :: ys, vis, q, vis', q', h => by
      unfold scan at h
      have hs : S.stop y = false := by
        cases hy : S.stop y
        · rfl
        · simp [hy] at h
      rw [if_neg (by simp [hs])] at h
      split at h
      · -- `y` is admitted and new: it heads the appended list
        rename_i hins
        obtain ⟨new, rfl, rfl, hnew, hnd, hys⟩ := scan_eq_some h
        refine ⟨y :: new, by simp, by simp, ?_, ?_, ?_⟩
        · intro z hz
          rcases List.mem_cons.mp hz with rfl | hz
          · exact ⟨List.mem_cons_self, hins.1, hins.2⟩
          · obtain ⟨hzys, hza, hzv⟩ := hnew z hz
            exact ⟨List.mem_cons_of_mem _ hzys, hza, fun h => hzv (List.mem_append_left _ h)⟩
        · exact List.nodup_cons.mpr
            ⟨fun hy => (hnew y hy).2.2 (List.mem_append_right _ List.mem_cons_self), hnd⟩
        · intro z hz
          rcases List.mem_cons.mp hz with rfl | hz
          · exact ⟨hs, fun _ => by simp⟩
          · exact hys z hz
      · -- `y` is skipped: refused, or already visited
        rename_i hins
        obtain ⟨new, rfl, rfl, hnew, hnd, hys⟩ := scan_eq_some h
        refine ⟨new, rfl, rfl, fun z hz => ?_, hnd, ?_⟩
        · obtain ⟨hzys, hza, hzv⟩ := hnew z hz
          exact ⟨List.mem_cons_of_mem _ hzys, hza, hzv⟩
        · intro z hz
          rcases List.mem_cons.mp hz with rfl | hz
          · refine ⟨hs, fun ha => ?_⟩
            have hmem : z ∈ vis := by
              by_contra hnot
              exact hins ⟨ha, hnot⟩
            exact List.mem_append_left _ hmem
          · exact hys z hz

/-! ## Fuel

`U` is a universe containing every successor of every node. Each node the
scan inserts is a fresh element of `U`, so it removes at least one entry
from `U.filter (· ∉ vis)`. -/

/-- The termination measure of the outer loop. -/
def measure (U vis : List α) (q : List (α × Nat)) : Nat :=
  2 * (U.filter (· ∉ vis)).length + q.length

theorem length_filter_not_mem_append_single {U vis : List α} {y : α}
    (hyU : y ∈ U) (hyv : y ∉ vis) :
    (U.filter (· ∉ vis ++ [y])).length < (U.filter (· ∉ vis)).length := by
  have heq : U.filter (· ∉ vis ++ [y]) = (U.filter (· ∉ vis)).filter (· ≠ y) := by
    rw [List.filter_filter]
    congr 1
    funext z
    simp only [List.mem_append, List.mem_singleton, not_or, ne_eq, Bool.decide_and, Bool.and_comm]
  rw [heq]
  have hle := List.length_filter_le (fun z => decide (z ≠ y)) (U.filter (· ∉ vis))
  have hne : ((U.filter (· ∉ vis)).filter (· ≠ y)).length ≠ (U.filter (· ∉ vis)).length := by
    rw [Ne, List.length_filter_eq_length_iff]
    intro hall
    simpa using hall y (List.mem_filter.mpr ⟨hyU, by simpa using hyv⟩)
  omega

theorem length_filter_not_mem_append {U : List α} :
    ∀ {vis new : List α}, (∀ y ∈ new, y ∈ U ∧ y ∉ vis) → new.Nodup →
      (U.filter (· ∉ vis ++ new)).length + new.length ≤ (U.filter (· ∉ vis)).length
  | _, [], _, _ => by simp
  | vis, y :: new, hnew, hnd => by
      have hy := hnew y List.mem_cons_self
      have hrest : ∀ z ∈ new, z ∈ U ∧ z ∉ vis ++ [y] := by
        intro z hz
        refine ⟨(hnew z (List.mem_cons_of_mem _ hz)).1, ?_⟩
        simp only [List.mem_append, List.mem_singleton, not_or]
        exact ⟨(hnew z (List.mem_cons_of_mem _ hz)).2,
          fun h => (List.nodup_cons.mp hnd).1 (h ▸ hz)⟩
      have ih := length_filter_not_mem_append hrest (List.nodup_cons.mp hnd).2
      have hlt := length_filter_not_mem_append_single hy.1 hy.2
      simp only [List.append_assoc, List.singleton_append] at ih
      simp only [List.length_cons]
      omega

/-- One expanding pass strictly lowers the measure. -/
theorem measure_scan_lt {S : Search α} {U : List α} (hU : ∀ x, ∀ y ∈ S.next x, y ∈ U)
    {x : α} {d : Nat} {vis vis' : List α} {q q' : List (α × Nat)}
    (h : scan S d (S.next x) vis q = some (vis', q')) :
    measure U vis' q' < measure U vis ((x, d) :: q) := by
  obtain ⟨new, rfl, rfl, hnew, hnd, -⟩ := scan_eq_some h
  have hle : (U.filter (· ∉ vis ++ new)).length + new.length ≤ (U.filter (· ∉ vis)).length :=
    length_filter_not_mem_append (fun y hy => ⟨hU x y (hnew y hy).1, (hnew y hy).2.2⟩) hnd
  simp only [measure, List.length_append, List.length_map, List.length_cons]
  omega

/-- Fuel above the measure is never exhausted: one more unit changes
nothing. -/
theorem loop_succ_eq {S : Search α} {U : List α} (hU : ∀ x, ∀ y ∈ S.next x, y ∈ U) :
    ∀ {f : Nat} {vis : List α} {q : List (α × Nat)} {m : Nat},
      measure U vis q < f → loop S (f + 1) vis q m = loop S f vis q m
  | 0, _, _, _, h => absurd h (Nat.not_lt_zero _)
  | _ + 1, _, [], _, _ => rfl
  | f + 1, vis, (x, d) :: q, m, h => by
      simp only [loop]
      split
      · split
        · rfl
        · rename_i vis' q' hscan
          exact loop_succ_eq hU (by have := measure_scan_lt hU hscan; omega)
      · exact loop_succ_eq hU (by simp only [measure, List.length_cons] at h ⊢; omega)

/-- Any two fuels above the measure agree. -/
theorem loop_fuel_eq {S : Search α} {U : List α} (hU : ∀ x, ∀ y ∈ S.next x, y ∈ U)
    {vis : List α} {q : List (α × Nat)} {m : Nat} {f : Nat}
    (hf : measure U vis q < f) : ∀ k, loop S (f + k) vis q m = loop S f vis q m
  | 0 => rfl
  | k + 1 => by
      rw [← Nat.add_assoc, loop_succ_eq hU (by omega)]
      exact loop_fuel_eq hU hf k

/-! ## Meaning of an uncapped search -/

/-- One admitted step: `y` is a successor of `x` and is admitted. -/
def Step (S : Search α) (x y : α) : Prop :=
  y ∈ S.next x ∧ S.accepts y = true

/-- Reachable from one of the seeds through admitted steps. -/
def Reached (S : Search α) (seeds : List α) (z : α) : Prop :=
  ∃ s ∈ seeds, ReflTransGen (Step S) s z

/-- `z` has been scanned: none of its successors triggers the exit, and its
admitted successors are all visited. -/
def Expanded (S : Search α) (vis : List α) (z : α) : Prop :=
  ∀ y ∈ S.next z, S.stop y = false ∧ (S.accepts y = true → y ∈ vis)

/-- The worklist invariant of an uncapped search from `seeds`. -/
structure Inv (S : Search α) (seeds vis : List α) (q : List (α × Nat)) : Prop where
  queued : ∀ p ∈ q, p.1 ∈ vis
  sound : ∀ z ∈ vis, Reached S seeds z
  closed : ∀ z ∈ vis, (∃ d, (z, d) ∈ q) ∨ Expanded S vis z
  seeded : ∀ s ∈ seeds, s ∈ vis

omit [DecidableEq α] in
theorem Expanded.mono {S : Search α} {vis vis' : List α} {z : α}
    (h : Expanded S vis z) (hsub : vis ⊆ vis') : Expanded S vis' z :=
  fun y hy => ⟨(h y hy).1, fun ha => hsub ((h y hy).2 ha)⟩

omit [DecidableEq α] in
/-- The seeds, all visited and all queued at depth `d`, satisfy the
invariant. -/
theorem inv_seeds (S : Search α) (seeds : List α) (d : Nat) :
    Inv S seeds seeds (seeds.map (·, d)) where
  queued := by simp
  sound := fun z hz => ⟨z, hz, .refl⟩
  closed := fun z hz => Or.inl ⟨d, List.mem_map.mpr ⟨z, hz, rfl⟩⟩
  seeded := fun _ hs => hs

/-- One expanding pass keeps the invariant. -/
theorem inv_scan {S : Search α} {seeds vis vis' : List α} {q q' : List (α × Nat)}
    {x : α} {d : Nat} (hinv : Inv S seeds vis ((x, d) :: q))
    (h : scan S d (S.next x) vis q = some (vis', q')) : Inv S seeds vis' q' := by
  obtain ⟨new, rfl, rfl, hnew, -, hys⟩ := scan_eq_some h
  have hxv : x ∈ vis := hinv.queued (x, d) List.mem_cons_self
  have hsub : vis ⊆ vis ++ new := List.subset_append_left _ _
  refine ⟨?_, ?_, ?_, ?_⟩
  · intro p hp
    rcases List.mem_append.mp hp with hp | hp
    · exact hsub (hinv.queued p (List.mem_cons_of_mem _ hp))
    · obtain ⟨y, hy, rfl⟩ := List.mem_map.mp hp
      exact List.mem_append_right _ hy
  · intro z hz
    rcases List.mem_append.mp hz with hz | hz
    · exact hinv.sound z hz
    · -- a new node is an admitted successor of the reachable `x`
      obtain ⟨s, hs, hpath⟩ := hinv.sound x hxv
      exact ⟨s, hs, hpath.tail ⟨(hnew z hz).1, (hnew z hz).2.1⟩⟩
  · intro z hz
    rcases List.mem_append.mp hz with hz | hz
    · rcases hinv.closed z hz with ⟨e, he⟩ | hexp
      · rcases List.mem_cons.mp he with heq | he
        · -- `z` is the node just popped, and the scan expanded it
          obtain ⟨rfl, -⟩ := Prod.mk.injEq .. |>.mp heq
          exact Or.inr hys
        · exact Or.inl ⟨e, List.mem_append_left _ he⟩
      · exact Or.inr (hexp.mono hsub)
    · exact Or.inl ⟨d + 1, List.mem_append_right _ (List.mem_map.mpr ⟨z, hz, rfl⟩)⟩
  · exact fun s hs => hsub (hinv.seeded s hs)

omit [DecidableEq α] in
/-- Once the queue is empty every visited node is expanded, so the visited
set is closed under admitted steps and holds everything reached. -/
theorem reached_mem_of_inv_nil {S : Search α} {seeds vis : List α}
    (hinv : Inv S seeds vis []) {z : α} (hz : Reached S seeds z) : z ∈ vis := by
  obtain ⟨s, hs, hpath⟩ := hz
  induction hpath with
  | refl => exact hinv.seeded s hs
  | tail _ hstep ih =>
      rcases hinv.closed _ ih with ⟨e, he⟩ | hexp
      · simp at he
      · exact (hexp _ hstep.1).2 hstep.2

/-- What an uncapped search answers: an early exit is witnessed by a reached
node with an exiting successor; a normal end returns exactly the reached
set, and then no reached node has an exiting successor. -/
def Answer (S : Search α) (seeds : List α) : Option (List α × Nat) → Prop
  | none => ∃ z y, Reached S seeds z ∧ y ∈ S.next z ∧ S.stop y = true
  | some (vis, _) => (∀ z, z ∈ vis ↔ Reached S seeds z) ∧
      ∀ z, Reached S seeds z → ∀ y ∈ S.next z, S.stop y = false

/-- Correctness of the uncapped search, from any state satisfying the
invariant, given fuel above the measure. -/
theorem loop_complete {S : Search α} {U : List α} (hU : ∀ x, ∀ y ∈ S.next x, y ∈ U)
    (hexp : ∀ d, S.expand d = true) {seeds : List α} :
    ∀ {f : Nat} {vis : List α} {q : List (α × Nat)} {m : Nat},
      Inv S seeds vis q → measure U vis q < f → Answer S seeds (loop S f vis q m)
  | 0, _, _, _, _, h => absurd h (Nat.not_lt_zero _)
  | _ + 1, vis, [], _, hinv, _ => by
      refine ⟨fun z => ⟨fun hz => hinv.sound z hz, reached_mem_of_inv_nil hinv⟩, ?_⟩
      intro z hz y hy
      rcases hinv.closed z (reached_mem_of_inv_nil hinv hz) with ⟨e, he⟩ | hz'
      · simp at he
      · exact (hz' y hy).1
  | f + 1, vis, (x, d) :: q, m, hinv, hf => by
      simp only [loop, hexp d, if_true]
      split
      · -- early exit at a successor of the popped `x`
        rename_i hscan
        obtain ⟨y, hy, hsy⟩ := scan_eq_none_iff.mp hscan
        exact ⟨x, y, hinv.sound x (hinv.queued (x, d) List.mem_cons_self), hy, hsy⟩
      · rename_i vis' q' hscan
        exact loop_complete hU hexp (inv_scan hinv hscan)
          (by have := measure_scan_lt hU hscan; omega)

/-! ## Locality

A search looks only at the successors, exit test and admission of nodes it
can reach from its worklist. Two searches that agree on a set closed under
successors, with the same expansion cap, run alike from any worklist inside
that set (`loop_congr`), and with fuel above each one's measure their
answers agree whatever the fuel (`loop_congr_fuel`). -/

/-- `S'` agrees with `S` on `A`, and `A` is closed under `S`'s successors. -/
structure AgreeOn (S S' : Search α) (A : α → Prop) : Prop where
  closed : ∀ x, A x → ∀ y ∈ S.next x, A y
  next : ∀ x, A x → S'.next x = S.next x
  stop : ∀ x, A x → S'.stop x = S.stop x
  accepts : ∀ x, A x → S'.accepts x = S.accepts x
  expand : S'.expand = S.expand

section Locality

variable {S S' : Search α} {A : α → Prop}

theorem scan_congr (h : AgreeOn S S' A) {d : Nat} :
    ∀ {ys vis : List α} {q : List (α × Nat)}, (∀ y ∈ ys, A y) →
      scan S' d ys vis q = scan S d ys vis q
  | [], _, _, _ => rfl
  | y :: ys, vis, q, hys => by
      have hy : A y := hys y List.mem_cons_self
      have hrest : ∀ z ∈ ys, A z := fun z hz => hys z (List.mem_cons_of_mem _ hz)
      simp only [scan, h.stop y hy, h.accepts y hy, scan_congr h hrest]

theorem loop_congr (h : AgreeOn S S' A) :
    ∀ {f : Nat} {vis : List α} {q : List (α × Nat)} {m : Nat}, (∀ p ∈ q, A p.1) →
      loop S' f vis q m = loop S f vis q m
  | 0, _, _, _, _ => rfl
  | _ + 1, _, [], _, _ => rfl
  | f + 1, vis, (x, d) :: q, m, hq => by
      have hx : A x := hq (x, d) List.mem_cons_self
      have hrest : ∀ p ∈ q, A p.1 := fun p hp => hq p (List.mem_cons_of_mem _ hp)
      simp only [loop, h.expand, h.next x hx, scan_congr h (h.closed x hx)]
      split
      · split
        · rfl
        · -- the nodes the scan queued are successors of `x`, so inside `A`
          rename_i vis' q' hscan
          obtain ⟨new, -, hq', hnew, -, -⟩ := scan_eq_some hscan
          subst q'
          refine loop_congr h fun p hp => ?_
          rcases List.mem_append.mp hp with hp | hp
          · exact hrest p hp
          · obtain ⟨y, hy, rfl⟩ := List.mem_map.mp hp
            exact h.closed x hx y (hnew y hy).1
      · exact loop_congr h hrest

/-- Agreeing searches, each given fuel above its own measure, answer alike. -/
theorem loop_congr_fuel (h : AgreeOn S S' A) {U U' : List α} (hU : ∀ x, ∀ y ∈ S.next x, y ∈ U)
    (hU' : ∀ x, ∀ y ∈ S'.next x, y ∈ U') {f f' : Nat} {vis : List α} {q : List (α × Nat)}
    {m : Nat} (hq : ∀ p ∈ q, A p.1) (hf : measure U vis q < f) (hf' : measure U' vis q < f') :
    loop S' f' vis q m = loop S f vis q m :=
  calc loop S' f' vis q m
      = loop S' (f' + f) vis q m := (loop_fuel_eq hU' hf' f).symm
    _ = loop S (f' + f) vis q m := loop_congr h hq
    _ = loop S (f + f') vis q m := by rw [Nat.add_comm]
    _ = loop S f vis q m := loop_fuel_eq hU hf f'

end Locality

end Bfs

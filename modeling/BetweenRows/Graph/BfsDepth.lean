import BetweenRows.Graph.Bfs

/-!
# Breadth-first search with a depth cap

A capped search pops `(x, d)` and expands `x` only while `d < D`. Started
from seeds queued at depth `d₀`, it visits exactly the nodes within
`D - d₀` admitted steps of a seed (`loop_capped`). The cap counts the
shortest path: a node reached in `j` steps is queued at depth at most
`j + d₀`, because the queue is first in, first out and a node is queued
once, the first time it is seen.

The invariant (`DepthInv`) is the one of FIFO breadth-first search, stated
without stored labels, since the loop forgets a node's depth once popped:

* the queue's depths are sorted and span at most two consecutive layers;
* a queued node's depth is that of one path to it and of no longer than
  any path (`label`, `least`);
* a popped node that some path reaches closer than the cap has had its
  successors visited (`popped`).

From these, every node closer than the queue's front is visited and,
closer than the cap, expanded (`DepthInv.closed_step`).
-/

namespace Bfs

variable {α : Type*}

/-- `z` is reached from a seed by at most `n` admitted steps. -/
inductive Within (S : Search α) (seeds : List α) : Nat → α → Prop
  | seed {n : Nat} {x : α} : x ∈ seeds → Within S seeds n x
  | step {n : Nat} {x y : α} : Within S seeds n x → Step S x y → Within S seeds (n + 1) y

namespace Within

variable {S : Search α} {seeds : List α}

theorem mono : ∀ {n m : Nat} {z : α}, Within S seeds n z → n ≤ m → Within S seeds m z
  | _, _, _, .seed hz, _ => .seed hz
  | n + 1, m, _, .step hw hs, hle => by
      obtain ⟨m', rfl⟩ : ∃ m', m = m' + 1 := ⟨m - 1, by omega⟩
      exact .step (hw.mono (by omega)) hs

/-- The last step of a path: a node is a seed, or one step past a node
reached in one step fewer. -/
theorem cases_last {j : Nat} {z : α} (h : Within S seeds j z) :
    z ∈ seeds ∨ ∃ m w, j = m + 1 ∧ Within S seeds m w ∧ Step S w z := by
  cases h with
  | seed hz => exact .inl hz
  | step hw hs => exact .inr ⟨_, _, rfl, hw, hs⟩

/-- A path starts at one seed. -/
theorem exists_seed {n : Nat} {z : α} (h : Within S seeds n z) : ∃ s ∈ seeds, Within S [s] n z := by
  induction h with
  | seed hz => exact ⟨_, hz, .seed List.mem_cons_self⟩
  | step _ hs ih =>
      obtain ⟨s, hs', hw⟩ := ih
      exact ⟨s, hs', .step hw hs⟩

theorem of_seed {s : α} (hs : s ∈ seeds) {n : Nat} {z : α} (h : Within S [s] n z) :
    Within S seeds n z := by
  induction h with
  | seed hz =>
      rw [List.mem_singleton.mp hz]
      exact .seed hs
  | step _ hstep ih => exact .step ih hstep

/-- A bounded path is a path. -/
theorem reached {n : Nat} {z : α} (h : Within S seeds n z) : Reached S seeds z := by
  induction h with
  | seed hz => exact ⟨_, hz, .refl⟩
  | step _ hs ih =>
      obtain ⟨s, hs', hpath⟩ := ih
      exact ⟨s, hs', hpath.tail hs⟩

theorem iff_exists_seed {n : Nat} {z : α} :
    Within S seeds n z ↔ ∃ s ∈ seeds, Within S [s] n z :=
  ⟨exists_seed, fun ⟨_, hs, h⟩ => of_seed hs h⟩

end Within

/-! ## The invariant -/

section Capped

variable {S : Search α} {seeds : List α} {d₀ D : Nat}

/-- The worklist invariant of a search capped at depth `D`, seeded at depth
`d₀`. -/
structure DepthInv (S : Search α) (seeds : List α) (d₀ D : Nat) (vis : List α)
    (q : List (α × Nat)) : Prop where
  seeded : ∀ s ∈ seeds, s ∈ vis
  queued : ∀ p ∈ q, p.1 ∈ vis
  sound : ∀ z ∈ vis, Within S seeds (D - d₀) z
  label : ∀ p ∈ q, d₀ ≤ p.2 ∧ p.2 ≤ D ∧ Within S seeds (p.2 - d₀) p.1
  least : ∀ p ∈ q, ∀ j, Within S seeds j p.1 → p.2 ≤ j + d₀
  sorted : q.Pairwise fun a b => a.2 ≤ b.2 ∧ b.2 ≤ a.2 + 1
  popped : ∀ z ∈ vis, z ∉ q.map (·.1) → ∀ j, Within S seeds j z → j + d₀ < D →
    ∀ y, Step S z y → y ∈ vis

/-- The seeds, all visited and all queued at depth `d₀`. -/
theorem depthInv_seeds (hd : d₀ ≤ D) : DepthInv S seeds d₀ D seeds (seeds.map (·, d₀)) where
  seeded _ hs := hs
  queued p hp := by
    obtain ⟨s, hs, rfl⟩ := List.mem_map.mp hp
    exact hs
  sound _ hz := .seed hz
  label p hp := by
    obtain ⟨s, hs, rfl⟩ := List.mem_map.mp hp
    exact ⟨Nat.le_refl d₀, hd, .seed hs⟩
  least p hp j _ := by
    obtain ⟨s, -, rfl⟩ := List.mem_map.mp hp
    exact Nat.le_add_left d₀ j
  sorted := List.pairwise_map.mpr (List.pairwise_of_forall fun _ _ => ⟨Nat.le_refl d₀, Nat.le_succ d₀⟩)
  popped z hz hq := absurd (List.mem_map.mpr ⟨(z, d₀), List.mem_map.mpr ⟨z, hz, rfl⟩, rfl⟩) hq

variable {vis : List α} {q : List (α × Nat)}

/-- Nothing queued lies above the front's layer. -/
theorem DepthInv.front {x : α} {dx : Nat} (hI : DepthInv S seeds d₀ D vis ((x, dx) :: q)) :
    ∀ p ∈ q, dx ≤ p.2 ∧ p.2 ≤ dx + 1 :=
  (List.pairwise_cons.mp hI.sorted).1

/-- A node some path reaches closer than every queued depth is not queued. -/
theorem DepthInv.not_queued (hI : DepthInv S seeds d₀ D vis q) {j : Nat} {z : α}
    (hz : Within S seeds j z) (hlt : ∀ p ∈ q, j + d₀ < p.2) : z ∉ q.map (·.1) := by
  intro hmem
  obtain ⟨p, hp, rfl⟩ := List.mem_map.mp hmem
  have hle := hI.least p hp j hz
  have hgt := hlt p hp
  omega

/-- Every node closer than the queue's front and than the cap is visited and
expanded: by induction on the path, each node on it was popped before the
front, so the one after it was visited then. -/
theorem DepthInv.closed_step (hI : DepthInv S seeds d₀ D vis q) {j : Nat} {z : α}
    (hz : Within S seeds j z) :
    (∀ p ∈ q, j + d₀ < p.2) → j + d₀ < D → z ∈ vis ∧ ∀ y, Step S z y → y ∈ vis := by
  induction hz with
  | @seed n x hx =>
      intro hlt hcap
      have hxv := hI.seeded x hx
      exact ⟨hxv, hI.popped x hxv (hI.not_queued (.seed hx) hlt) n (.seed hx) hcap⟩
  | @step n w y hw hstep ih =>
      intro hlt hcap
      have hwv := ih (fun p hp => by have := hlt p hp; omega) (by omega)
      have hyv := hwv.2 y hstep
      exact ⟨hyv, hI.popped y hyv (hI.not_queued (.step hw hstep) hlt) (n + 1) (.step hw hstep) hcap⟩

/-- Every node no farther than the queue's front and the cap is visited. -/
theorem DepthInv.mem_of_within (hI : DepthInv S seeds d₀ D vis q) {j : Nat} {z : α}
    (hz : Within S seeds j z) (hle : ∀ p ∈ q, j + d₀ ≤ p.2) (hcap : j + d₀ ≤ D) : z ∈ vis := by
  rcases hz.cases_last with hs | ⟨m, w, rfl, hw, hstep⟩
  · exact hI.seeded z hs
  · exact (hI.closed_step hw (fun p hp => by have := hle p hp; omega) (by omega)).2 z hstep

/-- A node popped at the cap is not expanded, and need not be: no path
reaches it closer than the cap. -/
theorem DepthInv.pop_capped {x : α} {dx : Nat} (hI : DepthInv S seeds d₀ D vis ((x, dx) :: q))
    (hcap : ¬ dx < D) : DepthInv S seeds d₀ D vis q where
  seeded := hI.seeded
  queued p hp := hI.queued p (List.mem_cons_of_mem _ hp)
  sound := hI.sound
  label p hp := hI.label p (List.mem_cons_of_mem _ hp)
  least p hp := hI.least p (List.mem_cons_of_mem _ hp)
  sorted := (List.pairwise_cons.mp hI.sorted).2
  popped z hz hzq j hj hjD := by
    by_cases hzx : z = x
    · subst hzx
      have := hI.least (z, dx) List.mem_cons_self j hj
      omega
    · refine hI.popped z hz ?_ j hj hjD
      rw [List.map_cons, List.mem_cons, not_or]
      exact ⟨hzx, hzq⟩

variable [DecidableEq α]

/-- A node popped below the cap is expanded. Each node it queues is one step
past it, and no path reaches that node in fewer steps: the node before it on
such a path would lie before the front, closed already, and would have
visited it. -/
theorem DepthInv.pop_scan {x : α} {dx : Nat} (hI : DepthInv S seeds d₀ D vis ((x, dx) :: q))
    (hcap : dx < D) {vis' : List α} {q' : List (α × Nat)}
    (h : scan S dx (S.next x) vis q = some (vis', q')) : DepthInv S seeds d₀ D vis' q' := by
  obtain ⟨new, rfl, rfl, hnew, -, hys⟩ := scan_eq_some h
  obtain ⟨hd₀x, -, hwx⟩ := hI.label (x, dx) List.mem_cons_self
  have hfront := hI.front
  have hsub : vis ⊆ vis ++ new := List.subset_append_left _ _
  have hwnew : ∀ y ∈ new, Within S seeds (dx + 1 - d₀) y := by
    intro y hy
    rw [show dx + 1 - d₀ = dx - d₀ + 1 by omega]
    exact .step hwx ⟨(hnew y hy).1, (hnew y hy).2.1⟩
  have hleast : ∀ y ∈ new, ∀ j, Within S seeds j y → dx + 1 ≤ j + d₀ := by
    intro y hy j hj
    by_contra hlt
    rcases hj.cases_last with hs | ⟨m, w, rfl, hw, hstep⟩
    · exact (hnew y hy).2.2 (hI.seeded y hs)
    · have hbefore : ∀ p ∈ (x, dx) :: q, m + d₀ < p.2 := by
        intro p hp
        rcases List.mem_cons.mp hp with rfl | hp
        · omega
        · have := (hfront p hp).1
          omega
      exact (hnew y hy).2.2 ((hI.closed_step hw hbefore (by omega)).2 y hstep)
  refine ⟨fun s hs => hsub (hI.seeded s hs), ?queued, ?sound, ?label, ?least, ?sorted, ?popped⟩
  case queued =>
    intro p hp
    rcases List.mem_append.mp hp with hp | hp
    · exact hsub (hI.queued p (List.mem_cons_of_mem _ hp))
    · obtain ⟨y, hy, rfl⟩ := List.mem_map.mp hp
      exact List.mem_append_right _ hy
  case sound =>
    intro z hz
    rcases List.mem_append.mp hz with hz | hz
    · exact hI.sound z hz
    · exact (hwnew z hz).mono (by omega)
  case label =>
    intro p hp
    rcases List.mem_append.mp hp with hp | hp
    · exact hI.label p (List.mem_cons_of_mem _ hp)
    · obtain ⟨y, hy, rfl⟩ := List.mem_map.mp hp
      exact ⟨by omega, by omega, hwnew y hy⟩
  case least =>
    intro p hp
    rcases List.mem_append.mp hp with hp | hp
    · exact hI.least p (List.mem_cons_of_mem _ hp)
    · obtain ⟨y, hy, rfl⟩ := List.mem_map.mp hp
      exact hleast y hy
  case sorted =>
    -- the new layer `dx + 1` goes behind the rest of layers `dx` and `dx + 1`
    refine List.pairwise_append.mpr ⟨(List.pairwise_cons.mp hI.sorted).2,
      List.pairwise_map.mpr (List.pairwise_of_forall fun _ _ => ⟨Nat.le_refl _, Nat.le_succ _⟩), ?_⟩
    intro a ha b hb
    obtain ⟨y, -, rfl⟩ := List.mem_map.mp hb
    have hdepth := hfront a ha
    exact ⟨hdepth.2, by dsimp only; omega⟩
  case popped =>
    intro z hz hzq j hj hjD y hstep
    have hzv : z ∈ vis := by
      refine (List.mem_append.mp hz).resolve_right fun hznew => hzq ?_
      rw [List.map_append, List.map_map]
      exact List.mem_append_right _ (by simpa using hznew)
    by_cases hzx : z = x
    · subst hzx
      exact (hys y hstep.1).2 hstep.2
    · refine hsub (hI.popped z hzv ?_ j hj hjD y hstep)
      rw [List.map_cons, List.mem_cons, not_or]
      refine ⟨hzx, fun hzq' => hzq ?_⟩
      rw [List.map_append]
      exact List.mem_append_left _ hzq'

/-- The capped search, from a state with the invariant and with fuel above
the measure, ends with exactly the nodes within `D - d₀` steps of a seed
visited. -/
theorem loop_capped {U : List α} (hU : ∀ x, ∀ y ∈ S.next x, y ∈ U) (hd : d₀ ≤ D)
    (hstop : ∀ y, S.stop y = false) (hexp : ∀ d, S.expand d = decide (d < D)) :
    ∀ {f : Nat} {vis : List α} {q : List (α × Nat)} {m : Nat},
      DepthInv S seeds d₀ D vis q → measure U vis q < f →
      ∃ vis' m', loop S f vis q m = some (vis', m') ∧ ∀ z, z ∈ vis' ↔ Within S seeds (D - d₀) z
  | 0, _, _, _, _, h => absurd h (Nat.not_lt_zero _)
  | _ + 1, vis, [], m, hI, _ =>
      ⟨vis, m, rfl, fun z => ⟨hI.sound z, fun hz => hI.mem_of_within hz (by simp) (by omega)⟩⟩
  | f + 1, vis, (x, dx) :: q, m, hI, hf => by
      simp only [loop, hexp dx, decide_eq_true_eq]
      by_cases hcap : dx < D
      · rw [if_pos hcap]
        rcases hscan : scan S dx (S.next x) vis q with _ | ⟨vis', q'⟩
        · obtain ⟨y, -, hy⟩ := scan_eq_none_iff.mp hscan
          rw [hstop y] at hy
          cases hy
        · exact loop_capped hU hd hstop hexp (hI.pop_scan hcap hscan)
            (by have := measure_scan_lt hU hscan; omega)
      · rw [if_neg hcap]
        exact loop_capped hU hd hstop hexp (hI.pop_capped hcap)
          (by simp only [measure, List.length_cons] at hf ⊢; omega)

/-- The visited list never holds a node twice. -/
theorem loop_nodup (S : Search α) :
    ∀ {f : Nat} {vis : List α} {q : List (α × Nat)} {m : Nat} {vis' : List α} {m' : Nat},
      vis.Nodup → loop S f vis q m = some (vis', m') → vis'.Nodup
  | 0, _, _, _, _, _, hnd, h => by
      simp only [loop, Option.some.injEq, Prod.mk.injEq] at h
      exact h.1 ▸ hnd
  | _ + 1, _, [], _, _, _, hnd, h => by
      simp only [loop, Option.some.injEq, Prod.mk.injEq] at h
      exact h.1 ▸ hnd
  | f + 1, vis, (x, d) :: q, m, vis', m', hnd, h => by
      simp only [loop] at h
      split at h
      · split at h
        · cases h
        · rename_i hscan
          obtain ⟨new, rfl, rfl, hnew, hndnew, -⟩ := scan_eq_some hscan
          refine loop_nodup S (List.nodup_append.mpr ⟨hnd, hndnew, ?_⟩) h
          rintro a ha b hb rfl
          exact (hnew a hb).2.2 ha
      · exact loop_nodup S hnd h

end Capped

end Bfs

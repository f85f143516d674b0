import Mathlib.Data.List.Basic

/-!
# Association lists

A `HashMap` of the source is an association list here, and `List.lookup`
answers a key with its first entry. Two facts carry the proofs about such
maps. When the keys are distinct, each entry is what its key looks up, and
a search by key finds the one element that has the key
(`lookup_eq_of_mem`, `find?_key_eq_of_mem`). And a loop of
`map.entry(k).or_insert(v)` keeps the entry a key already has, so what a key
looks up after it is the old entry or else the loop's first one
(`lookup_foldl_insertIfAbsent`).
-/

namespace Assoc

variable {α β γ : Type} [BEq α] [LawfulBEq α]

/-- With distinct keys, a member is what its key looks up. -/
theorem lookup_eq_of_mem {p : α × β} :
    ∀ {l : List (α × β)}, (l.map (·.1)).Nodup → p ∈ l → l.lookup p.1 = some p.2
  | [], _, hp => by cases hp
  | (k, v) :: rest, hnd, hp => by
      rw [List.map_cons, List.nodup_cons] at hnd
      rw [List.lookup_cons]
      rcases List.mem_cons.mp hp with rfl | hrest
      · simp
      · -- a later entry's key is not the head's
        have hk : (p.1 == k) = false :=
          beq_eq_false_iff_ne.mpr fun h => hnd.1 (List.mem_map.mpr ⟨p, hrest, h⟩)
        rw [hk]
        exact lookup_eq_of_mem hnd.2 hrest

/-- A member's key is answered, by that member or an earlier one. -/
theorem lookup_isSome_of_mem {p : α × β} {l : List (α × β)} (h : p ∈ l) : (l.lookup p.1).isSome :=
  List.lookup_isSome_iff.mpr ⟨p, h, beq_self_eq_true _⟩

theorem lookup_eq_none_of_not_mem {a : α} {l : List (α × β)} (h : a ∉ l.map (·.1)) :
    l.lookup a = none := by
  refine List.lookup_eq_none_iff.mpr fun p hp => ?_
  rw [bne_iff_ne]
  rintro rfl
  exact h (List.mem_map_of_mem hp)

omit [LawfulBEq α] in
/-- A map of the values answers what the list answered, mapped. -/
theorem lookup_map_snd (f : β → γ) (a : α) :
    ∀ l : List (α × β), (l.map fun p => (p.1, f p.2)).lookup a = (l.lookup a).map f
  | [] => rfl
  | (k, v) :: rest => by
      simp only [List.map_cons, List.lookup_cons]
      cases a == k
      · exact lookup_map_snd f a rest
      · rfl

/-- With distinct keys, the search for an element's key finds that element. -/
theorem find?_key_eq_of_mem {δ : Type} [DecidableEq δ] {key : γ → δ} {x : γ} :
    ∀ {l : List γ}, (l.map key).Nodup → x ∈ l → l.find? (fun y => decide (key y = key x)) = some x
  | [], _, hx => by cases hx
  | y :: rest, hnd, hx => by
      rw [List.map_cons, List.nodup_cons] at hnd
      rcases List.mem_cons.mp hx with rfl | hrest
      · simp
      · -- the head has another key than any later element
        have hne : key y ≠ key x := fun h => hnd.1 (h ▸ List.mem_map.mpr ⟨x, hrest, rfl⟩)
        rw [List.find?_cons_of_neg (by simpa using hne)]
        exact find?_key_eq_of_mem hnd.2 hrest

/-- `map.entry(k).or_insert(v)`: a key that has an entry keeps it. -/
def insertIfAbsent (m : List (α × β)) (p : α × β) : List (α × β) :=
  if (m.lookup p.1).isSome then m else m ++ [p]

theorem lookup_insertIfAbsent (m : List (α × β)) (a : α) (b : β) (k : α) :
    (insertIfAbsent m (a, b)).lookup k = (m.lookup k).or ([(a, b)].lookup k) := by
  unfold insertIfAbsent
  split
  · rename_i hsome
    -- the inserted key is already answered, so the singleton is never read
    by_cases hk : k = a
    · subst hk
      obtain ⟨c, hc⟩ := Option.isSome_iff_exists.mp hsome
      simp [hc]
    · simp [List.lookup_cons, beq_false_of_ne hk]
  · rw [List.lookup_append]

/-- After a loop of inserts, a key looks up its old entry, or else the first
entry the loop offered for it. -/
theorem lookup_foldl_insertIfAbsent (k : α) :
    ∀ (l acc : List (α × β)), (l.foldl insertIfAbsent acc).lookup k = (acc.lookup k).or (l.lookup k)
  | [], acc => by simp
  | (a, b) :: l, acc => by
      rw [List.foldl_cons, lookup_foldl_insertIfAbsent k l, lookup_insertIfAbsent,
        Option.or_assoc, ← List.lookup_append, List.singleton_append]

end Assoc

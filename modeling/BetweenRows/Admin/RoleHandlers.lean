import BetweenRows.Graph.Reach
import BetweenRows.Rbac.RoleResolver
import BetweenRows.Admin.Dto

/-!
# Inheritance requests (`admin/role_handlers.rs`)

`POST /roles/{id}/parents` (`add_parent`) and
`DELETE /roles/{id}/parents/{parent_id}` (`remove_parent`) as functions from
the role tables to either an `ApiErr` or the tables after commit. Both run
their writes in one transaction, so a rejected request leaves the tables as
they were (`step`), and a sequence of requests is a fold (`runRequests`).

`add_parent` checks, in order: both roles exist, `detect_cycle` is false,
the depth sum `check_inheritance_depth(parent) + 1 +
check_inheritance_depth_down(child)` is at most 10, and the unique index on
`(parent_role_id, child_role_id)` accepts the row.

The invariant proved here is acyclicity of the inheritance relation
(`inheritance_acyclic`): one `AddEdge` per accepted `add_parent`, guarded by
`detectCycle_iff`, and one erased row per `remove_parent`. The depth bound
is a different story: the depth checks are shortest-path measures, and the
runs `maxDepthRun` and `longChainRun` below show what they let through.
-/

namespace BetweenRows

open Relation

variable {ι : Type} [DecidableEq ι] [ToString ι]

/-- `add_parent(id, body.parent_role_id)`: make `id` inherit from
`parentRoleId`. -/
def addParent (db : RoleStore ι) (id parentRoleId : ι) : Except ApiErr (RoleStore ι) :=
  if !roleExists db.roles id then .error (.notFound "Role not found")
  else if !roleExists db.roles parentRoleId then .error (.notFound "Parent role not found")
  else if detectCycle db.inheritance parentRoleId id then
    .error (.unprocessable
      ("Cannot add inheritance: would create cycle: " ++ buildCyclePath db parentRoleId id))
  else
    let totalDepth := checkInheritanceDepth db.inheritance parentRoleId + 1 +
      checkInheritanceDepthDown db.inheritance id
    if totalDepth > 10 then
      .error (.unprocessable
        ("Cannot add inheritance: maximum depth of 10 would be exceeded (total depth: " ++
          toString totalDepth ++ ")"))
    else if (⟨parentRoleId, id⟩ : RoleInheritance ι) ∈ db.inheritance then
      -- the unique index `idx_role_inheritance_unique` rejects the insert
      .error (.conflict "This inheritance relationship already exists")
    else .ok { db with inheritance := db.inheritance ++ [⟨parentRoleId, id⟩] }

/-- `remove_parent(id, parent_id)`: delete the row `id → parent_id`. -/
def removeParent (db : RoleStore ι) (id parentId : ι) : Except ApiErr (RoleStore ι) :=
  if !roleExists db.roles id then .error (.notFound "Role not found")
  else if (⟨parentId, id⟩ : RoleInheritance ι) ∉ db.inheritance then
    .error (.notFound "Inheritance relationship not found")
  else .ok { db with inheritance := db.inheritance.erase ⟨parentId, id⟩ }

inductive InheritanceRequest (ι : Type) where
  | addParent (id parentRoleId : ι)
  | removeParent (id parentId : ι)
  deriving DecidableEq, Repr

/-- Serve one request; a rejected request rolls back and changes nothing. -/
def step (db : RoleStore ι) : InheritanceRequest ι → RoleStore ι
  | .addParent id p =>
      match addParent db id p with
      | .ok db' => db'
      | .error _ => db
  | .removeParent id p =>
      match removeParent db id p with
      | .ok db' => db'
      | .error _ => db

def runRequests (db : RoleStore ι) : List (InheritanceRequest ι) → RoleStore ι
  | [] => db
  | r :: rs => runRequests (step db r) rs

/-! ## What an accepted request writes -/

omit [DecidableEq ι] [ToString ι] in
theorem inherits_append {edges : List (RoleInheritance ι)} {p c : ι} :
    Inherits (edges ++ [⟨p, c⟩]) = Reach.AddEdge (Inherits edges) c p := by
  funext x y
  simp only [Inherits, List.mem_append, List.mem_singleton, RoleInheritance.mk.injEq,
    Reach.AddEdge, eq_iff_iff]
  constructor
  · rintro (h | ⟨rfl, rfl⟩)
    · exact Or.inl h
    · exact Or.inr ⟨rfl, rfl⟩
  · rintro (h | ⟨rfl, rfl⟩)
    · exact Or.inl h
    · exact Or.inr ⟨rfl, rfl⟩

omit [ToString ι] in
theorem inherits_erase_le (edges : List (RoleInheritance ι)) (e : RoleInheritance ι) :
    Inherits (edges.erase e) ≤ Inherits edges :=
  fun _ _ h => List.mem_of_mem_erase h

/-- An accepted `add_parent` passed the cycle check and appended its row;
roles and memberships are untouched. -/
theorem addParent_eq_ok {db db' : RoleStore ι} {id p : ι}
    (h : addParent db id p = .ok db') :
    detectCycle db.inheritance p id = false ∧
      db' = { db with inheritance := db.inheritance ++ [⟨p, id⟩] } := by
  unfold addParent at h
  dsimp only at h
  split_ifs at h with hid hp hcyc hdepth hdup
  exact ⟨by simpa using hcyc, (Except.ok.inj h).symm⟩

omit [ToString ι] in
/-- An accepted `remove_parent` erased its row. -/
theorem removeParent_eq_ok {db db' : RoleStore ι} {id p : ι}
    (h : removeParent db id p = .ok db') :
    db' = { db with inheritance := db.inheritance.erase ⟨p, id⟩ } := by
  unfold removeParent at h
  split_ifs at h with hid hmem
  exact (Except.ok.inj h).symm

theorem step_roles (db : RoleStore ι) (r : InheritanceRequest ι) :
    (step db r).roles = db.roles ∧ (step db r).members = db.members := by
  cases r with
  | addParent id p =>
      simp only [step]
      split
      · rename_i db' h
        obtain ⟨-, rfl⟩ := addParent_eq_ok h
        exact ⟨rfl, rfl⟩
      · exact ⟨rfl, rfl⟩
  | removeParent id p =>
      simp only [step]
      split
      · rename_i db' h
        rw [removeParent_eq_ok h]
        exact ⟨rfl, rfl⟩
      · exact ⟨rfl, rfl⟩

/-! ## Acyclicity -/

/-- One request keeps the inheritance relation acyclic. -/
theorem step_acyclic {db : RoleStore ι} (hacyc : Reach.Acyclic (Inherits db.inheritance))
    (r : InheritanceRequest ι) : Reach.Acyclic (Inherits (step db r).inheritance) := by
  cases r with
  | addParent id p =>
      simp only [step]
      split
      · rename_i db' h
        obtain ⟨hcyc, rfl⟩ := addParent_eq_ok h
        -- the new edge `id → p` is guarded by `¬ p ⇝ id`
        have hno : ¬ ReflTransGen (Inherits db.inheritance) p id := by
          rw [← detectCycle_iff, hcyc]
          exact Bool.false_ne_true
        simpa only [inherits_append] using Reach.acyclic_addEdge hacyc hno
      · exact hacyc
  | removeParent id p =>
      simp only [step]
      split
      · rename_i db' h
        rw [removeParent_eq_ok h]
        exact hacyc.mono (inherits_erase_le _ _)
      · exact hacyc

theorem runRequests_acyclic {db : RoleStore ι} (hacyc : Reach.Acyclic (Inherits db.inheritance)) :
    ∀ rs : List (InheritanceRequest ι), Reach.Acyclic (Inherits (runRequests db rs).inheritance)
  | [] => hacyc
  | r :: rs => runRequests_acyclic (step_acyclic hacyc r) rs

omit [DecidableEq ι] [ToString ι] in
theorem acyclic_nil : Reach.Acyclic (Inherits ([] : List (RoleInheritance ι))) := by
  intro x hx
  rcases TransGen.head'_iff.mp hx with ⟨y, hxy, -⟩
  exact List.not_mem_nil hxy

/-- The inheritance relation stays acyclic under any sequence of
`add_parent` / `remove_parent` requests from an empty relation, whatever the
roles and memberships; the cycle check answers exactly whether the proposed
child is the proposed parent or one of its ancestors; and `add_parent`
inserts only when the check said no. -/
theorem inheritance_acyclic (roles : List (Role ι)) (members : List (RoleMember ι))
    (rs : List (InheritanceRequest ι)) :
    Reach.Acyclic (Inherits (runRequests ⟨roles, members, []⟩ rs).inheritance) ∧
      (∀ (edges : List (RoleInheritance ι)) (parentId childId : ι),
        detectCycle edges parentId childId = true ↔
          ReflTransGen (Inherits edges) parentId childId) ∧
      ∀ (db db' : RoleStore ι) (id parentRoleId : ι),
        addParent db id parentRoleId = .ok db' →
          detectCycle db.inheritance parentRoleId id = false :=
  ⟨runRequests_acyclic acyclic_nil rs, detectCycle_iff,
    fun _ _ _ _ h => (addParent_eq_ok h).1⟩

/-! ## What the depth checks let through

Both depth checks are breadth-first searches with a visited set, so the
depth they report is the largest *shortest* distance, and
`resolve_user_roles` labels the direct roles with depth 1 while
`add_parent` counts edges from 0. Two runs from an empty relation, on
roles numbered from 0 (all active), show the consequences. -/

def activeRoles (n : Nat) : List (Role Nat) :=
  (List.range n).map fun i => ⟨i, "R" ++ toString i, true⟩

/-- The chain `0 → 1 → ⋯ → 10`, built bottom-up: every request's depth sum
is `0 + 1 + i ≤ 10`. -/
def maxDepthChain : List (InheritanceRequest Nat) :=
  (List.range 10).map fun i => .addParent i (i + 1)

/-- The tables after `maxDepthChain`, with user `100` a direct member of
role `0`. -/
def maxDepthStore : RoleStore Nat :=
  runRequests ⟨activeRoles 11, [⟨0, 100⟩], []⟩ maxDepthChain

/-- Every request of `maxDepthChain` is accepted, and `resolve_user_roles`
for user `100` stops expanding at depth 10: it drops role `10`, an active
ancestor of the user's role `0`. -/
theorem maxDepthRun :
    maxDepthStore.inheritance.length = 10 ∧ roleActive maxDepthStore.roles 10 = true ∧
      ReflTransGen (Inherits maxDepthStore.inheritance) 0 10 ∧
      resolveUserRoles maxDepthStore 100 = List.range 10 := by
  refine ⟨by decide, by decide, ?_, by decide⟩
  exact (detectCycle_iff _ _ _).mp (by decide)

/-- A shortcut `0 → 10` first, then the chain `0 → 1 → ⋯ → 11`: with the
shortcut in place the downward depth of each `i` stays below `i`, and all
twelve requests are accepted. -/
def longChain : List (InheritanceRequest Nat) :=
  .addParent 0 10 :: (List.range 11).map fun i => .addParent i (i + 1)

def longChainStore : RoleStore Nat :=
  runRequests ⟨activeRoles 12, [], []⟩ longChain

/-- Every request of `longChain` is accepted, and `0 → 1 → ⋯ → 11` is an
inheritance chain of 11 edges. -/
theorem longChainRun :
    longChainStore.inheritance.length = 12 ∧
      (List.range 12).IsChain (Inherits longChainStore.inheritance) := by
  decide

end BetweenRows

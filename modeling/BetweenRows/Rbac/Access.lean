import BetweenRows.Rbac.RoleResolver
import BetweenRows.Admin.PolicyHandlers

/-!
# Access and assignment resolution (`role_resolver.rs`)

`resolve_datasource_access` and `resolve_effective_assignments` read alike:
resolve the user's roles, load the datasource's rows, and keep those whose
scope matches the user (`scopeMatches`). Access asks whether some row
matches; assignments keep, per policy, the matching row of least priority,
the earliest on a tie. `resolve_all_role_members` is the downward search
the invalidation helpers use.

Neither resolution looks at `proxy_user.is_active`.
-/

namespace BetweenRows

open Relation

structure DataSourceAccess where
  dataSourceId : Nat
  userId : Option Nat
  roleId : Option Nat
  assignmentScope : String
  deriving DecidableEq, Repr

/-- The `matches` of both resolution loops. -/
def scopeMatches (roleSet : List Nat) (userId : Nat) (scope : String)
    (rowUserId rowRoleId : Option Nat) : Bool :=
  if scope = "all" then true
  else if scope = "user" then rowUserId = some userId
  else if scope = "role" then rowRoleId.any (· ∈ roleSet)
  else false

def resolveDatasourceAccess (store : RoleStore Nat) (accesses : List DataSourceAccess)
    (userId dsId : Nat) : Bool :=
  let roleSet := resolveUserRoles store userId
  (accesses.filter (·.dataSourceId = dsId)).any fun a =>
    scopeMatches roleSet userId a.assignmentScope a.userId a.roleId

/-- One pass of the `best_by_policy` loop: `and_modify` replaces the entry
on a strictly lower priority, `or_insert` adds a new one. -/
def bestByPolicy (m : AList fun _ : Nat => PolicyAssignmentRow) (a : PolicyAssignmentRow) :
    AList fun _ : Nat => PolicyAssignmentRow :=
  match m.lookup a.policyId with
  | some existing => if a.priority < existing.priority then m.insert a.policyId a else m
  | none => m.insert a.policyId a

/-- `resolve_effective_assignments(user_id, datasource_id)`, as the
`(policy_id, priority)` pairs its callers read; the order of
`into_values()` is the map's. -/
def resolveEffectiveAssignments (store : RoleStore Nat) (assignments : List PolicyAssignmentRow)
    (userId dsId : Nat) : List PolicyAssignment :=
  let roleSet := resolveUserRoles store userId
  let matching := (assignments.filter (·.dataSourceId = dsId)).filter fun a =>
    scopeMatches roleSet userId a.assignmentScope a.userId a.roleId
  (matching.foldl bestByPolicy ∅).entries.map fun e => ⟨e.2.policyId, e.2.priority⟩

/-- `resolve_all_role_members(role_id)`: the members of the role and of every
role below it. -/
def resolveAllRoleMembers (store : RoleStore Nat) (roleId : Nat) : List Nat :=
  let roles :=
    match Bfs.loop (depthSearch (childMap store.inheritance)) (bfsFuel store.inheritance 1)
        [roleId] [(roleId, 0)] 0 with
    | some (vis, _) => vis
    | none => []
  ((store.members.filter (·.roleId ∈ roles)).map (·.userId)).dedup

/-- Access is granted exactly by a row of the datasource whose scope matches
the user. -/
theorem resolveDatasourceAccess_eq_true {store : RoleStore Nat} {accesses : List DataSourceAccess}
    {userId dsId : Nat} :
    resolveDatasourceAccess store accesses userId dsId = true ↔
      ∃ a ∈ accesses, a.dataSourceId = dsId ∧
        scopeMatches (resolveUserRoles store userId) userId a.assignmentScope a.userId a.roleId =
          true := by
  simp [resolveDatasourceAccess]

/-! ## Invalidation reaches every holder of a role -/

theorem step_depthSearch_childMap {edges : List (RoleInheritance Nat)} {p c : Nat} :
    Bfs.Step (depthSearch (childMap edges)) p c ↔ Inherits edges c p := by
  simp [Bfs.Step, depthSearch, mem_childMap]

/-- `resolve_all_role_members(role_id)` returns exactly the members of the role
and of the roles that inherit from it, active or not. -/
theorem mem_resolveAllRoleMembers {store : RoleStore Nat} {roleId u : Nat} :
    u ∈ resolveAllRoleMembers store roleId ↔
      ∃ m ∈ store.members, m.userId = u ∧
        ReflTransGen (fun p c => Inherits store.inheritance c p) roleId m.roleId := by
  have hrel : Bfs.Step (depthSearch (childMap store.inheritance)) =
      fun p c => Inherits store.inheritance c p := by
    funext p c
    exact propext step_depthSearch_childMap
  have hfuel : Bfs.measure (store.inheritance.map (·.childRoleId)) [roleId] [(roleId, 0)] <
      bfsFuel store.inheritance 1 :=
    bfsFuel_gt_measure (by simp) _ _
  have hans : Bfs.Answer (depthSearch (childMap store.inheritance)) [roleId]
      (Bfs.loop (depthSearch (childMap store.inheritance)) (bfsFuel store.inheritance 1)
        [roleId] [(roleId, 0)] 0) :=
    Bfs.loop_complete (childMap_subset store.inheritance) (fun _ => rfl)
      (Bfs.inv_seeds (depthSearch (childMap store.inheritance)) [roleId] 0) hfuel
  unfold resolveAllRoleMembers
  revert hans
  cases Bfs.loop (depthSearch (childMap store.inheritance)) (bfsFuel store.inheritance 1)
      [roleId] [(roleId, 0)] 0 with
  | none =>
      rintro ⟨-, y, -, -, hstop⟩
      cases hstop
  | some r =>
      rintro ⟨hvis, -⟩
      simp only [List.mem_dedup, List.mem_map, List.mem_filter, decide_eq_true_eq]
      constructor
      · rintro ⟨m, ⟨hm, hrole⟩, rfl⟩
        obtain ⟨s, hs, hpath⟩ := (hvis m.roleId).mp hrole
        rw [List.mem_singleton.mp hs, hrel] at hpath
        exact ⟨m, hm, rfl, hpath⟩
      · rintro ⟨m, hm, rfl, hpath⟩
        exact ⟨m, ⟨hm, (hvis m.roleId).mpr ⟨roleId, List.mem_singleton_self _, hrel ▸ hpath⟩⟩, rfl⟩

/-- Invalidating the members of a role reaches every user who resolves it:
whoever holds a role, through any chain of inheritance, is a member of it or
of a role below it. So the role handlers' `invalidate_role_members` leaves
no session built on the role's old policies or access. -/
theorem resolvedRole_invalidated (store : RoleStore Nat) {u r : Nat}
    (h : r ∈ resolveUserRoles store u) : u ∈ resolveAllRoleMembers store r := by
  obtain ⟨d, hd, hup⟩ := aboveDirectRoles_of_mem h
  obtain ⟨m, hm, rfl⟩ := List.mem_map.mp hd
  obtain ⟨hm, hmu⟩ := List.mem_filter.mp hm
  -- the inheritance path from the member's role up to `r`, read downward
  exact mem_resolveAllRoleMembers.mpr ⟨m, hm, by simpa using hmu, hup.swap⟩

/-- Role `1` inherits from role `2`, and user `7` is a member of `1` only. -/
def inheritedRoleStore : RoleStore Nat :=
  ⟨[⟨1, "analyst", true⟩, ⟨2, "reader", true⟩], [⟨1, 7⟩], [⟨2, 1⟩]⟩

/-- User `7` resolves role `2` through role `1`, and a change to role `2`
invalidates user `7`. -/
theorem inheritedRoleRun :
    2 ∈ resolveUserRoles inheritedRoleStore 7 ∧ 7 ∈ resolveAllRoleMembers inheritedRoleStore 2 :=
  ⟨by decide, resolvedRole_invalidated inheritedRoleStore (by decide)⟩

end BetweenRows

import BetweenRows.Admin.RoleHandlers
import BetweenRows.Admin.Attributes
import BetweenRows.Proxy.Handler

/-!
# Role writes and whom they invalidate (`admin/role_handlers.rs`)

The handlers that write the role tables: `create_role`, `update_role`,
`delete_role`, `add_members`, `remove_member`, and `add_parent` /
`remove_parent` (`Admin.RoleHandlers`). Each runs its writes in one
transaction and calls `invalidate_user` on a list of users it computes
itself (`RoleWrite.invalidated`):

* `update_role`: the members of the role and of the roles below it, after
  the commit, and only when `is_active` changes;
* `delete_role`: the same, before its transaction;
* `add_members` / `remove_member`: the users named in the request;
* `add_parent`: the members of the child role and below it, after the commit;
* `remove_parent`: the same, collected before the edge is deleted;
* `create_role`: nobody.

`RoleWrite.resolveUserRoles_of_not_mem` shows that this is enough: every
other user resolves the same roles after the write as before. The argument
is locality (`resolveUserRoles_congr`): a user's roles depend only on their
own memberships and on the roles above them, and a user none of whose roles
lies below the written role sees nothing of the write. `create_role` needs
the foreign keys (`RoleStore.Refs`), so that its fresh id names no row yet;
every handler keeps them (`RoleWrite.apply_refs`).

Left out: `description` (nothing modelled reads it), the audit rows, the
response bodies and `delete_role`'s counts.
-/

namespace BetweenRows

open Relation

/-! ## The handlers -/

/-- `validate_role_name`: the checks of `validate_username`, with the role's
words. -/
def validateRoleName (name : String) : Except String Unit :=
  if utf8Len name < 3 || utf8Len name > 50 then .error "Role name must be between 3 and 50 characters"
  else if !(name.toList.head?.any Char.isAlpha) then .error "Role name must start with a letter"
  else if !(name.toList.drop 1).all (fun c => c.isAlphanum || c == '_' || c == '.' || c == '-') then
    .error "Role name may only contain letters, digits, underscores, dots, and hyphens"
  else .ok ()

structure UpdateRoleRequest where
  name : Option String
  isActive : Option Bool
  deriving DecidableEq, Repr

section Handlers

variable {ι : Type} [DecidableEq ι]

/-- `create_role`; `roleId` is the fresh `Uuid::now_v7()`. The insert fails
on the primary key or on the unique `name`, and the handler reports either
as a name conflict. -/
def createRole (db : RoleStore ι) (roleId : ι) (name : String) : Except ApiErr (RoleStore ι) := do
  (validateRoleName name).mapError ApiErr.unprocessable
  if db.roles.any (fun r => r.id = roleId ∨ r.name = name) then throw (.conflict "Role name already exists")
  pure { db with roles := db.roles ++ [⟨roleId, name, true⟩] }

/-- `is_activation_change`: the request sets `is_active` to a new value. -/
def isActivationChange (r : Role ι) (body : UpdateRoleRequest) : Bool :=
  body.isActive.any (· ≠ r.isActive)

/-- The `UPDATE role SET name, is_active WHERE id`. -/
def setRoleRow (roles : List (Role ι)) (id : ι) (name : String) (isActive : Bool) : List (Role ι) :=
  roles.map fun r =>
    if r.id = id then
      { r with
        name := name
        isActive := isActive }
    else r

/-- `update_role(id, body)`. The `UPDATE` sets `name` only when the request
has one, and only then can it hit the unique index. -/
def updateRole (db : RoleStore ι) (id : ι) (body : UpdateRoleRequest) : Except ApiErr (RoleStore ι) := do
  let r ← Except.require (db.roles.find? (·.id = id)) (.notFound "Role not found")
  match body.name with
  | some name => (validateRoleName name).mapError ApiErr.unprocessable
  | none => pure ()
  let isActive := if isActivationChange r body then body.isActive.getD r.isActive else r.isActive
  if body.name.any (fun name => db.roles.any fun r' => r'.id ≠ id ∧ r'.name = name) then
    throw (.conflict "Role name already exists")
  pure { db with roles := setRoleRow db.roles id (body.name.getD r.name) isActive }

/-- `remove_member(id, user_id)`: the membership row goes; the username it
reads is for the audit row only. -/
def removeMember (db : RoleStore ι) (id userId : ι) : Except ApiErr (RoleStore ι) := do
  if !roleExists db.roles id then throw (.notFound "Role not found")
  let membership ← Except.require (db.members.find? fun m => m.roleId = id ∧ m.userId = userId)
    (.notFound "User is not a member of this role")
  pure { db with members := db.members.erase membership }

end Handlers

/-- One pass of `add_members`' loop over `user_ids`, inside the transaction:
the user must exist, and the unique index `idx_role_member_unique` refuses a
second row for the pair. -/
def addMember (users : List ProxyUser) (id : Nat) (roleName : String) (members : List (RoleMember Nat))
    (userId : Nat) : Except ApiErr (List (RoleMember Nat)) := do
  let user ← Except.require (users.find? (·.id = userId))
    (.notFound ("User '" ++ toString userId ++ "' not found"))
  if members.any (fun m => m.roleId = id ∧ m.userId = userId) then
    throw (.conflict ("User '" ++ user.username ++ "' is already a member of role '" ++ roleName ++ "'"))
  pure (members ++ [⟨id, userId⟩])

/-- `add_members(id, body.user_ids)`: all or nothing. -/
def addMembers (users : List ProxyUser) (db : RoleStore Nat) (id : Nat) (userIds : List Nat) :
    Except ApiErr (RoleStore Nat) := do
  let r ← Except.require (db.roles.find? (·.id = id)) (.notFound "Role not found")
  let members ← userIds.foldlM (addMember users id r.name) db.members
  pure { db with members := members }

/-- `delete_role(id)`: the role row goes, and with it, by their foreign keys,
its members, its inheritance rows and its access rows. -/
def deleteRole (db : ProxyDb) (id : Nat) : Except ApiErr ProxyDb :=
  if !roleExists db.roles.roles id then .error (.notFound "Role not found")
  else .ok ((Mutation.deleteRole id).apply db)

/-- A request to one of the handlers that write the role tables. -/
inductive RoleWrite where
  | createRole (roleId : Nat) (name : String)
  | updateRole (id : Nat) (body : UpdateRoleRequest)
  | deleteRole (id : Nat)
  | addMembers (id : Nat) (userIds : List Nat)
  | removeMember (id userId : Nat)
  | addParent (id parentRoleId : Nat)
  | removeParent (id parentId : Nat)
  deriving DecidableEq, Repr

namespace RoleWrite

/-- The tables after the handler's commit, or its error. -/
def apply (db : ProxyDb) : RoleWrite → Except ApiErr ProxyDb
  | .createRole roleId name => (BetweenRows.createRole db.roles roleId name).map fun roles => { db with roles := roles }
  | .updateRole id body => (BetweenRows.updateRole db.roles id body).map fun roles => { db with roles := roles }
  | .deleteRole id => BetweenRows.deleteRole db id
  | .addMembers id userIds =>
      (BetweenRows.addMembers db.users db.roles id userIds).map fun roles => { db with roles := roles }
  | .removeMember id userId =>
      (BetweenRows.removeMember db.roles id userId).map fun roles => { db with roles := roles }
  | .addParent id p => (BetweenRows.addParent db.roles id p).map fun roles => { db with roles := roles }
  | .removeParent id p => (BetweenRows.removeParent db.roles id p).map fun roles => { db with roles := roles }

/-- The users the handler passes to `invalidate_user`, read from the tables
at the time the handler reads them: `db` before its transaction, `db'`
after its commit. -/
def invalidated (db db' : ProxyDb) : RoleWrite → List Nat
  | .createRole _ _ => []
  | .updateRole id body =>
      if (db.roles.roles.find? (·.id = id)).any (isActivationChange · body) then
        resolveAllRoleMembers db'.roles id
      else []
  | .deleteRole id => resolveAllRoleMembers db.roles id
  | .addMembers _ userIds => userIds
  | .removeMember _ userId => [userId]
  | .addParent id _ => resolveAllRoleMembers db'.roles id
  | .removeParent id _ => resolveAllRoleMembers db.roles id

/-- An `update_role` that sets the role's name. -/
def renames : RoleWrite → Bool
  | .updateRole _ body => body.name.isSome
  | _ => false

end RoleWrite

/-- The foreign keys of `role_member.role_id` and of both ends of
`role_inheritance`: every row names an existing role. -/
structure RoleStore.Refs {ι : Type} [DecidableEq ι] (db : RoleStore ι) : Prop where
  members : ∀ m ∈ db.members, roleExists db.roles m.roleId = true
  parents : ∀ e ∈ db.inheritance, roleExists db.roles e.parentRoleId = true
  children : ∀ e ∈ db.inheritance, roleExists db.roles e.childRoleId = true

/-! ## What an accepted write does -/

section Inversion

variable {ι : Type} [DecidableEq ι] {db db' : RoleStore ι}

theorem createRole_eq_ok {roleId : ι} {name : String} (h : createRole db roleId name = .ok db') :
    roleExists db.roles roleId = false ∧ (∀ r ∈ db.roles, r.name ≠ name) ∧
      db' = { db with roles := db.roles ++ [⟨roleId, name, true⟩] } := by
  unfold createRole at h
  simp only [Except.bind_eq_ok, Except.ite_throw_bind_eq_ok] at h
  obtain ⟨_, -, hfree, hpure⟩ := h
  simp only [List.any_eq_true, decide_eq_true_eq, not_exists, not_and, not_or] at hfree
  refine ⟨?_, fun r hr => (hfree r hr).2, (Except.pure_eq_ok.mp hpure).symm⟩
  simpa [roleExists] using fun r hr => (hfree r hr).1

theorem updateRole_eq_ok {id : ι} {body : UpdateRoleRequest} (h : updateRole db id body = .ok db') :
    ∃ r, db.roles.find? (·.id = id) = some r ∧
      (∀ name, body.name = some name → ∀ r' ∈ db.roles, r'.id ≠ id → r'.name ≠ name) ∧
      db' = { db with
        roles := setRoleRow db.roles id (body.name.getD r.name)
          (if isActivationChange r body then body.isActive.getD r.isActive else r.isActive) } := by
  unfold updateRole at h
  simp only [Except.bind_eq_ok, Except.require_eq_ok] at h
  obtain ⟨r, hr, h⟩ := h
  refine ⟨r, hr, ?_⟩
  cases hn : body.name with
  | none =>
      simp only [hn, Option.any_none, Bool.false_eq_true, if_false, Except.pure_eq_ok] at h
      exact ⟨fun _ hsome => (Option.some_ne_none _ hsome.symm).elim, h.symm⟩
  | some name =>
      simp only [hn, Option.any_some, Except.bind_eq_ok, Except.ite_throw_bind_eq_ok, Except.pure_eq_ok] at h
      obtain ⟨_, -, hfree, rfl⟩ := h
      simp only [List.any_eq_true, decide_eq_true_eq, not_exists, not_and] at hfree
      refine ⟨?_, rfl⟩
      rintro _ ⟨⟩ r' hr' hid
      exact hfree r' hr' hid

theorem removeMember_eq_ok {id userId : ι} (h : removeMember db id userId = .ok db') :
    roleExists db.roles id = true ∧ ∃ m, db.members.find? (fun m => m.roleId = id ∧ m.userId = userId) = some m ∧
      db' = { db with members := db.members.erase m } := by
  unfold removeMember at h
  simp only [Except.bind_eq_ok, Except.ite_throw_bind_eq_ok, Except.require_eq_ok, Except.pure_eq_ok] at h
  obtain ⟨hid, m, hm, rfl⟩ := h
  exact ⟨by simpa using hid, m, hm, rfl⟩

end Inversion

theorem addMember_eq_ok {users : List ProxyUser} {id : Nat} {roleName : String}
    {ms ms' : List (RoleMember Nat)} {userId : Nat} (h : addMember users id roleName ms userId = .ok ms') :
    (∀ m ∈ ms, ¬(m.roleId = id ∧ m.userId = userId)) ∧ ms' = ms ++ [⟨id, userId⟩] := by
  unfold addMember at h
  simp only [Except.bind_eq_ok, Except.ite_throw_bind_eq_ok, Except.require_eq_ok, Except.pure_eq_ok] at h
  obtain ⟨_, -, hfree, rfl⟩ := h
  simp only [List.any_eq_true, decide_eq_true_eq, not_exists, not_and] at hfree
  exact ⟨fun m hm hmatch => hfree m hm hmatch.1 hmatch.2, rfl⟩

theorem addMembers_eq_ok {users : List ProxyUser} {db db' : RoleStore Nat} {id : Nat} {userIds : List Nat}
    (h : addMembers users db id userIds = .ok db') :
    ∃ r, db.roles.find? (·.id = id) = some r ∧ ∃ members,
      userIds.foldlM (addMember users id r.name) db.members = .ok members ∧
        db' = { db with members := members } := by
  unfold addMembers at h
  simp only [Except.bind_eq_ok, Except.require_eq_ok, Except.pure_eq_ok] at h
  obtain ⟨r, hr, members, hfold, rfl⟩ := h
  exact ⟨r, hr, members, hfold, rfl⟩

theorem deleteRole_eq_ok {db db' : ProxyDb} {id : Nat} (h : deleteRole db id = .ok db') :
    roleExists db.roles.roles id = true ∧ db' = (Mutation.deleteRole id).apply db := by
  unfold deleteRole at h
  split_ifs at h with hid
  exact ⟨by simpa using hid, (Except.ok.inj h).symm⟩

/-- `add_parent` inserts only between existing roles. -/
theorem addParent_roleExists {db db' : RoleStore Nat} {id p : Nat} (h : addParent db id p = .ok db') :
    roleExists db.roles id = true ∧ roleExists db.roles p = true := by
  constructor
  · by_contra hne
    have hf : roleExists db.roles id = false := by simpa using hne
    simp [addParent, hf] at h
  · by_contra hne
    have hf : roleExists db.roles p = false := by simpa using hne
    simp only [addParent, hf, Bool.not_false, if_true] at h
    split at h <;> cases h

/-! ## The tables after a write -/

section Tables

variable {ι : Type} [DecidableEq ι]

theorem roleExists_iff {roles : List (Role ι)} {x : ι} : roleExists roles x = true ↔ ∃ r ∈ roles, r.id = x := by
  simp [roleExists]

theorem find?_setRoleRow (roles : List (Role ι)) (id : ι) (name : String) (a : Bool) (x : ι) :
    (setRoleRow roles id name a).find? (·.id = x) =
      (roles.find? (·.id = x)).map fun r =>
        if r.id = id then
          { r with
            name := name
            isActive := a }
        else r := by
  unfold setRoleRow
  rw [List.find?_map]
  congr 2
  funext r
  by_cases hr : r.id = id <;> simp [hr]

theorem roleActive_setRoleRow_ne {roles : List (Role ι)} {id x : ι} (hx : x ≠ id) (name : String) (a : Bool) :
    roleActive (setRoleRow roles id name a) x = roleActive roles x := by
  unfold roleActive
  rw [find?_setRoleRow]
  cases hfind : roles.find? (·.id = x) with
  | none => rfl
  | some r =>
      have hrx : r.id = x := by simpa using List.find?_some hfind
      simp [hrx, hx]

theorem roleActive_setRoleRow_self {roles : List (Role ι)} {id : ι} {r : Role ι}
    (hr : roles.find? (·.id = id) = some r) (name : String) (a : Bool) :
    roleActive (setRoleRow roles id name a) id = a := by
  have hrid : r.id = id := by simpa using List.find?_some hr
  simp [roleActive, find?_setRoleRow, hr, hrid]

theorem roleExists_setRoleRow (roles : List (Role ι)) (id : ι) (name : String) (a : Bool) (x : ι) :
    roleExists (setRoleRow roles id name a) x = roleExists roles x := by
  unfold roleExists setRoleRow
  rw [List.any_map]
  congr 1
  funext r
  by_cases hr : r.id = id <;> simp [hr]

theorem map_id_setRoleRow (roles : List (Role ι)) (id : ι) (name : String) (a : Bool) :
    (setRoleRow roles id name a).map (·.id) = roles.map (·.id) := by
  unfold setRoleRow
  rw [List.map_map]
  refine List.map_congr_left fun r _ => ?_
  by_cases hr : r.id = id <;> simp [hr]

/-- The names of the rows of a set of ids, after a write that keeps every
row's id and name. -/
theorem names_filter_map {l : List (Role ι)} {g : Role ι → Role ι} (ids : List ι)
    (hg : ∀ x ∈ l, (g x).id = x.id ∧ (g x).name = x.name) :
    ((l.map g).filter (·.id ∈ ids)).map (·.name) = (l.filter (·.id ∈ ids)).map (·.name) := by
  induction l with
  | nil => rfl
  | cons x l ih =>
      obtain ⟨hid, hname⟩ := hg x List.mem_cons_self
      have htail := ih fun y hy => hg y (List.mem_cons_of_mem x hy)
      by_cases hx : x.id ∈ ids
      · simp [hid, hname, hx, htail]
      · simp [hid, hx, htail]

/-- Under distinct ids, an `UPDATE` that writes a row's own name back keeps
the names of the rows of any set of ids. -/
theorem names_setRoleRow_self {roles : List (Role ι)} (hkeys : (roles.map (·.id)).Nodup) {id : ι}
    {r : Role ι} (hr : roles.find? (·.id = id) = some r) (a : Bool) (ids : List ι) :
    ((setRoleRow roles id r.name a).filter (·.id ∈ ids)).map (·.name) =
      (roles.filter (·.id ∈ ids)).map (·.name) := by
  have hrid : r.id = id := by simpa using List.find?_some hr
  have hrmem : r ∈ roles := List.mem_of_find?_eq_some hr
  unfold setRoleRow
  refine names_filter_map ids fun x hx => ?_
  by_cases hxid : x.id = id
  · -- the only row of that id is `r`
    have hxr : x = r := List.inj_on_of_nodup_map hkeys hx hrmem (hxid.trans hrid.symm)
    simp [hxr, hrid]
  · simp [hxid]

/-- An existing role keeps its activity when another row is appended. -/
theorem roleActive_append {roles : List (Role ι)} {x : ι} (hx : roleExists roles x = true) (r : Role ι) :
    roleActive (roles ++ [r]) x = roleActive roles x := by
  have hsome : (roles.find? fun r => decide (r.id = x)).isSome := by
    rw [List.find?_isSome]
    simpa [roleExists] using hx
  obtain ⟨r₀, hr₀⟩ := Option.isSome_iff_exists.mp hsome
  simp [roleActive, List.find?_append, hr₀]

theorem roleActive_filter_ne {roles : List (Role ι)} {r x : ι} (hx : x ≠ r) :
    roleActive (roles.filter (·.id ≠ r)) x = roleActive roles x := by
  have hpred : (fun a : Role ι => decide (decide (a.id ≠ r) = true ∧ decide (a.id = x) = true)) =
      fun a => decide (a.id = x) := by
    funext a
    by_cases hax : a.id = x
    · simp [hax, hx]
    · simp [hax]
  simp only [roleActive, List.find?_filter, hpred]

theorem roleExists_filter_ne {roles : List (Role ι)} {r x : ι} :
    roleExists (roles.filter (·.id ≠ r)) x = true ↔ roleExists roles x = true ∧ x ≠ r := by
  simp only [roleExists_iff, List.mem_filter, decide_eq_true_eq]
  constructor
  · rintro ⟨a, ⟨ha, har⟩, rfl⟩
    exact ⟨⟨a, ha, rfl⟩, har⟩
  · rintro ⟨⟨a, ha, rfl⟩, har⟩
    exact ⟨a, ⟨ha, har⟩, rfl⟩

theorem parentMap_append_ne {edges : List (RoleInheritance ι)} {p c x : ι} (hc : c ≠ x) :
    parentMap (edges ++ [⟨p, c⟩]) x = parentMap edges x := by
  simp [parentMap, List.filter_append, hc]

theorem filter_erase_of_false {α : Type} [DecidableEq α] {p : α → Bool} {l : List α} {a : α}
    (ha : p a = false) : (l.erase a).filter p = l.filter p := by
  rw [← List.erase_filter, List.erase_of_not_mem]
  simp [ha]

theorem parentMap_erase_ne {edges : List (RoleInheritance ι)} {e : RoleInheritance ι} {x : ι}
    (he : e.childRoleId ≠ x) : parentMap (edges.erase e) x = parentMap edges x := by
  unfold parentMap
  rw [filter_erase_of_false (p := fun y : RoleInheritance ι => decide (y.childRoleId = x)) (by simpa using he)]

theorem parentMap_filter {edges : List (RoleInheritance ι)} {q : RoleInheritance ι → Bool} {x : ι}
    (h : ∀ e ∈ edges, e.childRoleId = x → q e = true) : parentMap (edges.filter q) x = parentMap edges x := by
  simp only [parentMap, List.filter_filter]
  congr 1
  refine List.filter_congr fun e he => ?_
  by_cases hex : e.childRoleId = x
  · simp [hex, h e he hex]
  · simp [hex]

end Tables

/-! ## Whose roles a write can change -/

section Frame

variable {ι : Type} [DecidableEq ι]

theorem mem_direct_of_above {db : RoleStore ι} {u x : ι} (hx : AboveDirectRoles db u x) :
    (∃ m ∈ db.members, m.userId = u ∧ m.roleId = x) ∨ ∃ c, Inherits db.inheritance c x := by
  obtain ⟨d, hd, hdx⟩ := hx
  rcases ReflTransGen.cases_tail hdx with rfl | ⟨c, -, hcx⟩
  · obtain ⟨m, hm, rfl⟩ := List.mem_map.mp hd
    obtain ⟨hm, hmu⟩ := List.mem_filter.mp hm
    exact .inl ⟨m, hm, by simpa using hmu, rfl⟩
  · exact .inr ⟨c, hcx⟩

/-- Under the foreign keys, every role a search could look at exists. -/
theorem RoleStore.Refs.roleExists_of_above {db : RoleStore ι} (hrefs : db.Refs) {u x : ι}
    (hx : AboveDirectRoles db u x) : roleExists db.roles x = true := by
  rcases mem_direct_of_above hx with ⟨m, hm, -, rfl⟩ | ⟨c, hcx⟩
  · exact hrefs.members m hm
  · exact hrefs.parents _ hcx

theorem createRole_resolveUserRoles {db db' : RoleStore ι} {roleId : ι} {name : String} (hrefs : db.Refs)
    (h : createRole db roleId name = .ok db') (u : ι) : resolveUserRoles db' u = resolveUserRoles db u := by
  obtain ⟨-, -, rfl⟩ := createRole_eq_ok h
  exact resolveUserRoles_congr rfl (fun _ _ => rfl) fun x hx => roleActive_append (hrefs.roleExists_of_above hx) _

theorem removeMember_resolveUserRoles {db db' : RoleStore ι} {id userId : ι}
    (h : removeMember db id userId = .ok db') {u : ι} (hu : u ≠ userId) :
    resolveUserRoles db' u = resolveUserRoles db u := by
  obtain ⟨-, m, hm, rfl⟩ := removeMember_eq_ok h
  have hmu : m.userId = userId := by
    have hsat := List.find?_some hm
    simp only [decide_eq_true_eq] at hsat
    exact hsat.2
  have hfilter : (db.members.erase m).filter (·.userId = u) = db.members.filter (·.userId = u) :=
    filter_erase_of_false (by simpa [hmu] using hu.symm)
  exact resolveUserRoles_congr (by simp only [hfilter]) (fun _ _ => rfl) fun _ _ => rfl

end Frame

/-- A user outside `resolve_all_role_members(r)` has nothing at or below `r`
among their direct roles and the roles above them. -/
theorem not_inherits_of_not_mem {db : RoleStore Nat} {u r x : Nat}
    (hu : u ∉ resolveAllRoleMembers db r) (hx : AboveDirectRoles db u x) :
    ¬ ReflTransGen (Inherits db.inheritance) x r := by
  intro hxr
  obtain ⟨d, hd, hdx⟩ := hx
  obtain ⟨m, hm, rfl⟩ := List.mem_map.mp hd
  obtain ⟨hm, hmu⟩ := List.mem_filter.mp hm
  exact hu (mem_resolveAllRoleMembers.mpr ⟨m, hm, by simpa using hmu, (hdx.trans hxr).swap⟩)

@[simp] theorem resolveAllRoleMembers_roles (db : RoleStore Nat) (roles : List (Role Nat)) (r : Nat) :
    resolveAllRoleMembers { db with roles := roles } r = resolveAllRoleMembers db r := rfl

theorem updateRole_resolveUserRoles {db db' : RoleStore Nat} {id : Nat} {body : UpdateRoleRequest}
    (h : updateRole db id body = .ok db') {u : Nat}
    (hu : (db.roles.find? (·.id = id)).any (isActivationChange · body) = true →
      u ∉ resolveAllRoleMembers db id) :
    resolveUserRoles db' u = resolveUserRoles db u := by
  obtain ⟨r, hr, -, rfl⟩ := updateRole_eq_ok h
  refine resolveUserRoles_congr rfl (fun _ _ => rfl) fun x hx => ?_
  by_cases hxid : x = id
  · subst hxid
    rw [roleActive_setRoleRow_self hr]
    by_cases hch : isActivationChange r body = true
    · -- a changed role is below itself, so its holders were invalidated
      exact absurd .refl (not_inherits_of_not_mem (hu (by simp [hr, hch])) hx)
    · simp [roleActive, hr, hch]
  · exact roleActive_setRoleRow_ne hxid _ _

theorem deleteRole_resolveUserRoles {db db' : ProxyDb} {id : Nat} (h : deleteRole db id = .ok db') {u : Nat}
    (hu : u ∉ resolveAllRoleMembers db.roles id) :
    resolveUserRoles db'.roles u = resolveUserRoles db.roles u := by
  obtain ⟨-, rfl⟩ := deleteRole_eq_ok h
  have hbelow := fun x (hx : AboveDirectRoles db.roles u x) => not_inherits_of_not_mem hu hx
  refine resolveUserRoles_congr ?_ ?_ ?_
  · -- none of the user's memberships is of the deleted role
    simp only [Mutation.apply, List.filter_filter]
    congr 1
    refine List.filter_congr fun m hm => ?_
    by_cases hmu : m.userId = u
    · have hmid : m.roleId ≠ id := fun heq =>
        hbelow m.roleId ⟨m.roleId, List.mem_map_of_mem (List.mem_filter.mpr ⟨hm, by simpa using hmu⟩), .refl⟩
          (heq ▸ .refl)
      simp [hmu, hmid]
    · simp [hmu]
  · intro x hx
    refine parentMap_filter fun e he hex => ?_
    have hpar : e.parentRoleId ≠ id := fun heq =>
      hbelow x hx (.single (heq ▸ hex ▸ he : Inherits db.roles.inheritance x id))
    have hchild : e.childRoleId ≠ id := fun heq => hbelow x hx (hex ▸ heq ▸ .refl)
    simp [hpar, hchild]
  · intro x hx
    exact roleActive_filter_ne fun heq => hbelow x hx (heq ▸ .refl)

theorem addMembers_resolveUserRoles {users : List ProxyUser} {db db' : RoleStore Nat} {id : Nat}
    {userIds : List Nat} (h : addMembers users db id userIds = .ok db') {u : Nat} (hu : u ∉ userIds) :
    resolveUserRoles db' u = resolveUserRoles db u := by
  obtain ⟨r, -, members, hfold, rfl⟩ := addMembers_eq_ok h
  -- every pass appends a row of a user other than `u`
  have hfilter : members.filter (·.userId = u) = db.members.filter (·.userId = u) := by
    refine Except.foldlM_inv_of_mem (P := fun ms => ms.filter (·.userId = u) = db.members.filter (·.userId = u))
      userIds (fun ms a ha ms' hms hpass => ?_) rfl hfold
    obtain ⟨-, rfl⟩ := addMember_eq_ok hpass
    have hau : a ≠ u := fun heq => hu (heq ▸ ha)
    simp [List.filter_append, hau, hms]
  exact resolveUserRoles_congr (by simp only [hfilter]) (fun _ _ => rfl) fun _ _ => rfl

theorem addParent_resolveUserRoles {db db' : RoleStore Nat} {id p : Nat} (h : addParent db id p = .ok db')
    {u : Nat} (hu : u ∉ resolveAllRoleMembers db' id) : resolveUserRoles db' u = resolveUserRoles db u := by
  obtain ⟨-, rfl⟩ := addParent_eq_ok h
  refine resolveUserRoles_congr rfl (fun x hx => ?_) fun _ _ => rfl
  -- the search of the user, run on the new tables, still avoids `id`
  have hx' : AboveDirectRoles { db with inheritance := db.inheritance ++ [⟨p, id⟩] } u x := by
    obtain ⟨d, hd, hdx⟩ := hx
    exact ⟨d, hd, ReflTransGen.mono (fun _ _ hcy => List.mem_append_left _ hcy) d x hdx⟩
  exact parentMap_append_ne fun heq => not_inherits_of_not_mem hu hx' (heq ▸ .refl)

theorem removeParent_resolveUserRoles {db db' : RoleStore Nat} {id p : Nat}
    (h : removeParent db id p = .ok db') {u : Nat} (hu : u ∉ resolveAllRoleMembers db id) :
    resolveUserRoles db' u = resolveUserRoles db u := by
  rw [removeParent_eq_ok h]
  exact resolveUserRoles_congr rfl
    (fun x hx => parentMap_erase_ne fun heq => not_inherits_of_not_mem hu hx (heq ▸ .refl)) fun _ _ => rfl

/-! ## Every write, and the foreign keys -/

section Refs

variable {ι : Type} [DecidableEq ι] {db db' : RoleStore ι}

theorem RoleStore.Refs.of_roleExists (hrefs : db.Refs) {roles : List (Role ι)}
    (hex : ∀ x, roleExists db.roles x = true → roleExists roles x = true) :
    RoleStore.Refs { db with roles := roles } :=
  ⟨fun m hm => hex _ (hrefs.members m hm), fun e he => hex _ (hrefs.parents e he),
    fun e he => hex _ (hrefs.children e he)⟩

theorem createRole_refs {roleId : ι} {name : String} (hrefs : db.Refs) (h : createRole db roleId name = .ok db') :
    db'.Refs := by
  obtain ⟨-, -, rfl⟩ := createRole_eq_ok h
  refine hrefs.of_roleExists fun x hx => ?_
  rw [roleExists, List.any_append, Bool.or_eq_true]
  exact .inl hx

theorem updateRole_refs {id : ι} {body : UpdateRoleRequest} (hrefs : db.Refs)
    (h : updateRole db id body = .ok db') : db'.Refs := by
  obtain ⟨r, -, -, rfl⟩ := updateRole_eq_ok h
  exact hrefs.of_roleExists fun x hx => by rw [roleExists_setRoleRow]; exact hx

theorem removeMember_refs {id userId : ι} (hrefs : db.Refs) (h : removeMember db id userId = .ok db') :
    db'.Refs := by
  obtain ⟨-, m, -, rfl⟩ := removeMember_eq_ok h
  exact ⟨fun m' hm' => hrefs.members m' (List.mem_of_mem_erase hm'), hrefs.parents, hrefs.children⟩

end Refs

theorem addMembers_refs {users : List ProxyUser} {db db' : RoleStore Nat} {id : Nat} {userIds : List Nat}
    (hrefs : db.Refs) (h : addMembers users db id userIds = .ok db') : db'.Refs := by
  obtain ⟨r, hr, members, hfold, rfl⟩ := addMembers_eq_ok h
  have hid : roleExists db.roles id = true := roleExists_iff.mpr ⟨r, List.mem_of_find?_eq_some hr, by simpa using List.find?_some hr⟩
  -- every appended row is of the role found at the start
  have hmembers : ∀ m ∈ members, roleExists db.roles m.roleId = true := by
    refine Except.foldlM_inv_of_mem (P := fun ms => ∀ m ∈ ms, roleExists db.roles m.roleId = true)
      userIds (fun ms a _ ms' hms hpass => ?_) hrefs.members hfold
    obtain ⟨-, rfl⟩ := addMember_eq_ok hpass
    intro m hm
    rcases List.mem_append.mp hm with hm | hm
    · exact hms m hm
    · rw [List.mem_singleton.mp hm]
      exact hid
  exact ⟨hmembers, hrefs.parents, hrefs.children⟩

theorem deleteRole_refs {db db' : ProxyDb} {id : Nat} (hrefs : db.roles.Refs) (h : deleteRole db id = .ok db') :
    db'.roles.Refs := by
  obtain ⟨-, rfl⟩ := deleteRole_eq_ok h
  refine ⟨fun m hm => ?_, fun e he => ?_, fun e he => ?_⟩
  · obtain ⟨hm, hmid⟩ := List.mem_filter.mp hm
    exact roleExists_filter_ne.mpr ⟨hrefs.members m hm, by simpa using hmid⟩
  · obtain ⟨he, hend⟩ := List.mem_filter.mp he
    exact roleExists_filter_ne.mpr ⟨hrefs.parents e he, (by simpa using hend : _ ∧ _).1⟩
  · obtain ⟨he, hend⟩ := List.mem_filter.mp he
    exact roleExists_filter_ne.mpr ⟨hrefs.children e he, (by simpa using hend : _ ∧ _).2⟩

theorem addParent_refs {db db' : RoleStore Nat} {id p : Nat} (hrefs : db.Refs) (h : addParent db id p = .ok db') :
    db'.Refs := by
  obtain ⟨hid, hp⟩ := addParent_roleExists h
  obtain ⟨-, rfl⟩ := addParent_eq_ok h
  refine ⟨hrefs.members, fun e he => ?_, fun e he => ?_⟩
  · rcases List.mem_append.mp he with he | he
    · exact hrefs.parents e he
    · rw [List.mem_singleton.mp he]
      exact hp
  · rcases List.mem_append.mp he with he | he
    · exact hrefs.children e he
    · rw [List.mem_singleton.mp he]
      exact hid

theorem removeParent_refs {db db' : RoleStore Nat} {id p : Nat} (hrefs : db.Refs)
    (h : removeParent db id p = .ok db') : db'.Refs := by
  rw [removeParent_eq_ok h]
  exact ⟨hrefs.members, fun e he => hrefs.parents e (List.mem_of_mem_erase he),
    fun e he => hrefs.children e (List.mem_of_mem_erase he)⟩

/-! ## Every write, and whom it must invalidate -/

/-- Two databases that differ at most in the role tables and the access rows. -/
structure ProxyDb.SameOutsideRoles (db db' : ProxyDb) : Prop where
  users : db'.users = db.users
  dataSources : db'.dataSources = db.dataSources
  assignments : db'.assignments = db.assignments
  policies : db'.policies = db.policies
  decisionFunctions : db'.decisionFunctions = db.decisionFunctions

namespace RoleWrite

variable {db db' : ProxyDb}

theorem apply_sameOutsideRoles {w : RoleWrite} (h : w.apply db = .ok db') : db.SameOutsideRoles db' := by
  cases w
  case deleteRole id =>
    obtain ⟨-, rfl⟩ := deleteRole_eq_ok h
    exact ⟨rfl, rfl, rfl, rfl, rfl⟩
  all_goals
    obtain ⟨roles, -, rfl⟩ := Except.map_eq_ok.mp h
    exact ⟨rfl, rfl, rfl, rfl, rfl⟩

/-- Every handler keeps the foreign keys of the role tables. -/
theorem apply_refs {w : RoleWrite} (hrefs : db.roles.Refs) (h : w.apply db = .ok db') : db'.roles.Refs := by
  cases w with
  | deleteRole id => exact deleteRole_refs hrefs h
  | createRole roleId name =>
      obtain ⟨roles, hroles, rfl⟩ := Except.map_eq_ok.mp h
      exact createRole_refs hrefs hroles
  | updateRole id body =>
      obtain ⟨roles, hroles, rfl⟩ := Except.map_eq_ok.mp h
      exact updateRole_refs hrefs hroles
  | addMembers id userIds =>
      obtain ⟨roles, hroles, rfl⟩ := Except.map_eq_ok.mp h
      exact addMembers_refs hrefs hroles
  | removeMember id userId =>
      obtain ⟨roles, hroles, rfl⟩ := Except.map_eq_ok.mp h
      exact removeMember_refs hrefs hroles
  | addParent id p =>
      obtain ⟨roles, hroles, rfl⟩ := Except.map_eq_ok.mp h
      exact addParent_refs hrefs hroles
  | removeParent id p =>
      obtain ⟨roles, hroles, rfl⟩ := Except.map_eq_ok.mp h
      exact removeParent_refs hrefs hroles

/-- Every handler keeps the inheritance relation acyclic: `delete_role` and
`remove_parent` only drop edges, and `add_parent` adds one past the cycle
check. -/
theorem apply_acyclic {w : RoleWrite} (hacyc : Reach.Acyclic (Inherits db.roles.inheritance))
    (h : w.apply db = .ok db') : Reach.Acyclic (Inherits db'.roles.inheritance) := by
  cases w with
  | deleteRole id =>
      obtain ⟨-, rfl⟩ := deleteRole_eq_ok h
      exact hacyc.mono fun _ _ he => (List.mem_filter.mp he).1
  | addParent id p =>
      obtain ⟨roles, hroles, rfl⟩ := Except.map_eq_ok.mp h
      simpa [step, hroles] using step_acyclic hacyc (.addParent id p)
  | removeParent id p =>
      obtain ⟨roles, hroles, rfl⟩ := Except.map_eq_ok.mp h
      simpa [step, hroles] using step_acyclic hacyc (.removeParent id p)
  | createRole roleId name =>
      obtain ⟨roles, hroles, rfl⟩ := Except.map_eq_ok.mp h
      obtain ⟨-, -, rfl⟩ := createRole_eq_ok hroles
      exact hacyc
  | updateRole id body =>
      obtain ⟨roles, hroles, rfl⟩ := Except.map_eq_ok.mp h
      obtain ⟨r, -, -, rfl⟩ := updateRole_eq_ok hroles
      exact hacyc
  | addMembers id userIds =>
      obtain ⟨roles, hroles, rfl⟩ := Except.map_eq_ok.mp h
      obtain ⟨r, -, members, -, rfl⟩ := addMembers_eq_ok hroles
      exact hacyc
  | removeMember id userId =>
      obtain ⟨roles, hroles, rfl⟩ := Except.map_eq_ok.mp h
      obtain ⟨-, m, -, rfl⟩ := removeMember_eq_ok hroles
      exact hacyc

/-- A user the handler does not invalidate resolves the same roles after the
write as before. -/
theorem resolveUserRoles_of_not_mem {w : RoleWrite} (hrefs : db.roles.Refs) (h : w.apply db = .ok db')
    {u : Nat} (hu : u ∉ w.invalidated db db') : resolveUserRoles db'.roles u = resolveUserRoles db.roles u := by
  cases w with
  | deleteRole id => exact deleteRole_resolveUserRoles h hu
  | createRole roleId name =>
      obtain ⟨roles, hroles, rfl⟩ := Except.map_eq_ok.mp h
      exact createRole_resolveUserRoles hrefs hroles u
  | updateRole id body =>
      obtain ⟨roles, hroles, rfl⟩ := Except.map_eq_ok.mp h
      refine updateRole_resolveUserRoles hroles fun hch => ?_
      obtain ⟨r, -, -, rfl⟩ := updateRole_eq_ok hroles
      simpa [invalidated, hch] using hu
  | addMembers id userIds =>
      obtain ⟨roles, hroles, rfl⟩ := Except.map_eq_ok.mp h
      exact addMembers_resolveUserRoles hroles hu
  | removeMember id userId =>
      obtain ⟨roles, hroles, rfl⟩ := Except.map_eq_ok.mp h
      exact removeMember_resolveUserRoles hroles (by simpa [invalidated] using hu)
  | addParent id p =>
      obtain ⟨roles, hroles, rfl⟩ := Except.map_eq_ok.mp h
      exact addParent_resolveUserRoles hroles hu
  | removeParent id p =>
      obtain ⟨roles, hroles, rfl⟩ := Except.map_eq_ok.mp h
      exact removeParent_resolveUserRoles hroles hu

/-- Every handler keeps the role ids distinct, as the primary key does. -/
theorem apply_keys {w : RoleWrite} (hkeys : (db.roles.roles.map (·.id)).Nodup) (h : w.apply db = .ok db') :
    (db'.roles.roles.map (·.id)).Nodup := by
  cases w with
  | deleteRole id =>
      obtain ⟨-, rfl⟩ := deleteRole_eq_ok h
      exact hkeys.sublist (List.filter_sublist.map _)
  | createRole roleId name =>
      obtain ⟨roles, hroles, rfl⟩ := Except.map_eq_ok.mp h
      obtain ⟨hfresh, -, rfl⟩ := createRole_eq_ok hroles
      have hnew : roleId ∉ db.roles.roles.map (·.id) := fun hmem => by
        obtain ⟨r, hr, hrid⟩ := List.mem_map.mp hmem
        rw [roleExists_iff.mpr ⟨r, hr, hrid⟩] at hfresh
        cases hfresh
      rw [List.map_append, List.map_singleton, List.nodup_append]
      refine ⟨hkeys, List.nodup_singleton _, fun x hx y hy hxy => ?_⟩
      rw [List.mem_singleton.mp hy] at hxy
      have hx' : x = roleId := hxy
      exact hnew (hx' ▸ hx)
  | updateRole id body =>
      obtain ⟨roles, hroles, rfl⟩ := Except.map_eq_ok.mp h
      obtain ⟨r, -, -, rfl⟩ := updateRole_eq_ok hroles
      rwa [map_id_setRoleRow]
  | addMembers id userIds =>
      obtain ⟨roles, hroles, rfl⟩ := Except.map_eq_ok.mp h
      obtain ⟨r, -, members, -, rfl⟩ := addMembers_eq_ok hroles
      exact hkeys
  | removeMember id userId =>
      obtain ⟨roles, hroles, rfl⟩ := Except.map_eq_ok.mp h
      obtain ⟨-, m, -, rfl⟩ := removeMember_eq_ok hroles
      exact hkeys
  | addParent id p =>
      obtain ⟨roles, hroles, rfl⟩ := Except.map_eq_ok.mp h
      obtain ⟨-, rfl⟩ := addParent_eq_ok hroles
      exact hkeys
  | removeParent id p =>
      obtain ⟨roles, hroles, rfl⟩ := Except.map_eq_ok.mp h
      rw [removeParent_eq_ok hroles]
      exact hkeys

/-- A user the handler does not invalidate keeps the names of their roles,
unless the write renames a role. -/
theorem roleNames_of_not_mem {w : RoleWrite} (hrefs : db.roles.Refs) (hkeys : (db.roles.roles.map (·.id)).Nodup)
    (h : w.apply db = .ok db') (hw : w.renames = false) {u : Nat} (hu : u ∉ w.invalidated db db') :
    db'.roleNames u = db.roleNames u := by
  have hids := resolveUserRoles_of_not_mem hrefs h hu
  suffices hrows : (db'.roles.roles.filter (·.id ∈ resolveUserRoles db.roles u)).map (·.name) =
      (db.roles.roles.filter (·.id ∈ resolveUserRoles db.roles u)).map (·.name) by
    simp only [ProxyDb.roleNames, hids, hrows]
  cases w with
  | createRole roleId name =>
      obtain ⟨roles, hroles, rfl⟩ := Except.map_eq_ok.mp h
      obtain ⟨hfresh, -, rfl⟩ := createRole_eq_ok hroles
      -- the new role is nobody's yet
      have hnew : roleId ∉ resolveUserRoles db.roles u := fun hmem => by
        rw [hrefs.roleExists_of_above (aboveDirectRoles_of_mem hmem)] at hfresh
        cases hfresh
      simp [List.filter_append, hnew]
  | updateRole id body =>
      obtain ⟨roles, hroles, rfl⟩ := Except.map_eq_ok.mp h
      obtain ⟨r, hr, -, rfl⟩ := updateRole_eq_ok hroles
      have hname : body.name = none := by simpa [renames] using hw
      rw [hname, Option.getD_none]
      exact names_setRoleRow_self hkeys hr _ _
  | deleteRole id =>
      obtain ⟨-, rfl⟩ := deleteRole_eq_ok h
      simp only [Mutation.apply, List.filter_filter]
      congr 1
      refine List.filter_congr fun r _ => ?_
      by_cases hr : r.id ∈ resolveUserRoles db.roles u
      · -- a role the user holds is not below the deleted one
        have hne : r.id ≠ id := fun heq =>
          not_inherits_of_not_mem hu (aboveDirectRoles_of_mem hr) (heq ▸ .refl)
        simp [hr, hne]
      · simp [hr]
  | addMembers id userIds =>
      obtain ⟨roles, hroles, rfl⟩ := Except.map_eq_ok.mp h
      obtain ⟨r, -, members, -, rfl⟩ := addMembers_eq_ok hroles
      rfl
  | removeMember id userId =>
      obtain ⟨roles, hroles, rfl⟩ := Except.map_eq_ok.mp h
      obtain ⟨-, m, -, rfl⟩ := removeMember_eq_ok hroles
      rfl
  | addParent id p =>
      obtain ⟨roles, hroles, rfl⟩ := Except.map_eq_ok.mp h
      obtain ⟨-, rfl⟩ := addParent_eq_ok hroles
      rfl
  | removeParent id p =>
      obtain ⟨roles, hroles, rfl⟩ := Except.map_eq_ok.mp h
      rw [removeParent_eq_ok hroles]

end RoleWrite

end BetweenRows

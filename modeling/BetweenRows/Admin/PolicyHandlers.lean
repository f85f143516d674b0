import BetweenRows.Admin.Dto
import BetweenRows.Policy.Session
import BetweenRows.Control.Except

/-!
# Policy versioning handlers (`admin/policy_handlers.rs`)

`update_policy`, `assign_policy` and `remove_assignment` each bump the
policy's `version` and record a `policy_version` snapshot. Each runs in two
parts: reads and checks against the database *outside* any transaction, the
version check of `update_policy` among them, and then one transaction
(`AuditedTxn`) that writes. The model keeps the two parts apart: `…Read`
returns what the transaction needs (the policy row as read, which carries
the version), and `…Txn` is the transaction, applied to the database as it
is when it runs. `serve` runs both back to back, as a request does when no
other request runs beside it.

The writes follow SeaORM: `ActiveModel::update` is `UPDATE … WHERE id = ?`
of the columns set, and its result is the row as stored afterwards.
-/

namespace BetweenRows

/-- `UpdatePolicyRequest`, without `description`, which nothing modelled
reads. -/
structure UpdatePolicyRequest where
  name : Option String := none
  policyType : Option PolicyType := none
  isEnabled : Option Bool := none
  targets : Option (List TargetEntry) := none
  definition : Option Json.JsonValue := none
  /-- absent, `null` (detach) or an id (attach) -/
  decisionFunctionId : Option (Option Nat) := none
  version : Int
  deriving DecidableEq, Repr

structure AssignPolicyRequest where
  policyId : Nat
  userId : Option Nat := none
  roleId : Option Nat := none
  scope : Option String := none
  priority : Int := 100
  deriving DecidableEq, Repr

structure PolicyAssignmentRow where
  id : Nat
  policyId : Nat
  dataSourceId : Nat
  userId : Option Nat
  roleId : Option Nat
  assignmentScope : String
  priority : Int
  deriving DecidableEq, Repr

/-- The JSON snapshot `create_snapshot` stores. -/
structure PolicySnapshot where
  name : String
  policyType : PolicyType
  targets : List TargetEntry
  definition : Option Json.JsonValue
  decisionFunctionId : Option Nat
  assignments : List PolicyAssignmentRow
  deriving DecidableEq, Repr

structure PolicyVersionRow where
  policyId : Nat
  version : Int
  snapshot : PolicySnapshot
  changeType : String
  deriving DecidableEq, Repr

/-- The tables the three handlers read and write; `nextId` stands for the
fresh `Uuid::now_v7()` of a new row. -/
structure AdminDb where
  policies : List Policy
  assignments : List PolicyAssignmentRow
  versions : List PolicyVersionRow
  dataSources : List Nat
  roles : List Nat
  decisionFunctions : List Nat
  nextId : Nat
  deriving DecidableEq, Repr

namespace AdminDb

/-- `policy::Entity::find_by_id(id)` -/
def findPolicy (db : AdminDb) (id : Nat) : Option Policy :=
  db.policies.find? (·.id = id)

theorem findPolicy_id {db : AdminDb} {id : Nat} {p : Policy} (h : db.findPolicy id = some p) :
    p.id = id := by
  simpa using List.find?_some h

theorem findPolicy_mem {db : AdminDb} {id : Nat} {p : Policy} (h : db.findPolicy id = some p) :
    p ∈ db.policies :=
  List.mem_of_find?_eq_some h

theorem findPolicy_self {db : AdminDb} {id : Nat} {p : Policy} (h : db.findPolicy id = some p) :
    db.findPolicy p.id = some p := by
  rwa [findPolicy_id h]

/-- The assignments of a policy (`policy_assignment::Entity::find()` by
`policy_id`). -/
def assignmentsOf (db : AdminDb) (policyId : Nat) : List PolicyAssignmentRow :=
  db.assignments.filter (·.policyId = policyId)

def setPolicy (db : AdminDb) (p : Policy) : AdminDb :=
  { db with policies := db.policies.map fun q => if q.id = p.id then p else q }

@[simp] theorem setPolicy_policies (db : AdminDb) (p : Policy) :
    (db.setPolicy p).policies = db.policies.map fun q => if q.id = p.id then p else q := rfl

@[simp] theorem setPolicy_versions (db : AdminDb) (p : Policy) :
    (db.setPolicy p).versions = db.versions := rfl

/-- `create_snapshot(txn, policy_id, version, _, change_type, p, assignments)` -/
def createSnapshot (db : AdminDb) (policyId : Nat) (version : Int) (changeType : String)
    (p : Policy) (assignments : List PolicyAssignmentRow) : AdminDb :=
  { db with
    versions := db.versions ++
      [⟨policyId, version, ⟨p.name, p.policyType, p.targets, p.definition, p.decisionFunctionId,
        assignments⟩, changeType⟩] }

@[simp] theorem createSnapshot_policies (db : AdminDb) (i : Nat) (v : Int) (ct : String)
    (p : Policy) (as : List PolicyAssignmentRow) :
    (db.createSnapshot i v ct p as).policies = db.policies := rfl

@[simp] theorem createSnapshot_versions (db : AdminDb) (i : Nat) (v : Int) (ct : String)
    (p : Policy) (as : List PolicyAssignmentRow) :
    (db.createSnapshot i v ct p as).versions =
      db.versions ++ [⟨i, v, ⟨p.name, p.policyType, p.targets, p.definition, p.decisionFunctionId,
        as⟩, ct⟩] := rfl

end AdminDb

/-- SeaORM's `DbErr::RecordNotUpdated`: the `UPDATE … WHERE id = ?` found no
row. -/
def recordNotUpdated : ApiErr := .internal "None of the records are updated"

/-! ## `update_policy` -/

/-- What `update_policy` has read and checked when its transaction starts. -/
structure UpdatePlan where
  read : Policy
  body : UpdatePolicyRequest
  finalPolicyType : PolicyType
  deriving DecidableEq, Repr

def updatePolicyRead (validateExpression : String → Bool → Except String Unit) (db : AdminDb)
    (id : Nat) (body : UpdatePolicyRequest) : Except ApiErr UpdatePlan := do
  let p ← Except.require (db.findPolicy id) (.notFound "Policy not found")
  (body.name.elim (.ok ()) validatePolicyName).mapError ApiErr.unprocessable
  Except.ensure (p.version = body.version)
    (.conflict ("Policy version conflict: expected " ++ toString p.version ++ ", got " ++
      toString body.version))
  let finalPolicyType := body.policyType.getD p.policyType
  (validateTargets finalPolicyType (body.targets.getD p.targets)).mapError ApiErr.unprocessable
  (validateDefinition validateExpression finalPolicyType (body.definition.or p.definition)).mapError
    ApiErr.unprocessable
  Except.ensure (body.decisionFunctionId.all fun d => d.all (· ∈ db.decisionFunctions))
    (.unprocessable "decision_function_id references a non-existent decision function")
  pure ⟨p, body, finalPolicyType⟩

/-- The reads hand on the stored row, at the version the request carries. -/
theorem updatePolicyRead_ok {validateExpression : String → Bool → Except String Unit}
    {db : AdminDb} {id : Nat} {body : UpdatePolicyRequest} {plan : UpdatePlan}
    (h : updatePolicyRead validateExpression db id body = .ok plan) :
    db.findPolicy id = some plan.read ∧ plan.read.version = body.version := by
  simp only [updatePolicyRead, Except.bind_eq_ok, Except.require_eq_ok, Except.ensure_eq_ok,
    Except.pure_eq_ok, decide_eq_true_eq] at h
  obtain ⟨p, hp, -, -, -, hv, -, -, -, -, -, -, rfl⟩ := h
  exact ⟨hp, hv⟩

/-- A request carrying another version than the stored one, with a valid
name if any, is refused with 409. -/
theorem updatePolicyRead_stale {validateExpression : String → Bool → Except String Unit}
    {db : AdminDb} {id : Nat} {body : UpdatePolicyRequest} {p : Policy}
    (hp : db.findPolicy id = some p) (hname : body.name.elim (.ok ()) validatePolicyName = .ok ())
    (hv : p.version ≠ body.version) :
    updatePolicyRead validateExpression db id body =
      .error (.conflict ("Policy version conflict: expected " ++ toString p.version ++ ", got " ++
        toString body.version)) := by
  simp [updatePolicyRead, Except.require, hp, hname, Except.mapError, Except.ensure, hv]

/-- The row `update_policy` writes over the stored row `cur`: the fields the
body sets, the definition cleared for types without one, and the version
read before the transaction, plus one. -/
def UpdatePlan.apply (plan : UpdatePlan) (cur : Policy) : Policy :=
  { cur with
    name := plan.body.name.getD cur.name
    policyType := plan.body.policyType.getD cur.policyType
    isEnabled := plan.body.isEnabled.getD cur.isEnabled
    targets := plan.body.targets.getD cur.targets
    definition :=
      match plan.finalPolicyType with
      | .rowFilter | .columnMask => plan.body.definition.or cur.definition
      | .columnAllow | .columnDeny | .tableDeny => none
    decisionFunctionId := plan.body.decisionFunctionId.getD cur.decisionFunctionId
    version := plan.read.version + 1 }

def updatePolicyTxn (db : AdminDb) (plan : UpdatePlan) : Except ApiErr AdminDb :=
  match db.findPolicy plan.read.id with
  | none => .error recordNotUpdated
  | some cur =>
      -- the unique index on `policy.name`
      if plan.body.name.any fun n => db.policies.any fun q => q.id ≠ cur.id && q.name = n then
        .error (.conflict "Policy name already exists")
      else
        let db := db.setPolicy (plan.apply cur)
        .ok (db.createSnapshot cur.id (plan.read.version + 1) "update" (plan.apply cur)
          (db.assignmentsOf cur.id))

/-! ## `assign_policy` -/

structure AssignPlan where
  read : Policy
  dsId : Nat
  body : AssignPolicyRequest
  scope : String
  deriving DecidableEq, Repr

def checkScope (db : AdminDb) (body : AssignPolicyRequest) (scope : String) :
    Except ApiErr Unit :=
  if scope = "user" then
    if body.userId.isNone then .error (.badRequest "scope 'user' requires user_id")
    else if body.roleId.isSome then .error (.badRequest "scope 'user' must not have role_id")
    else .ok ()
  else if scope = "role" then
    if body.roleId.isNone then .error (.badRequest "scope 'role' requires role_id")
    else if body.userId.isSome then .error (.badRequest "scope 'role' must not have user_id")
    else if body.roleId.all (· ∉ db.roles) then .error (.notFound "Role not found")
    else .ok ()
  else if scope = "all" then
    if body.userId.isSome || body.roleId.isSome then
      .error (.badRequest "scope 'all' must not have user_id or role_id")
    else .ok ()
  else .error (.badRequest "scope must be 'user', 'role', or 'all'")

def assignPolicyRead (db : AdminDb) (dsId : Nat) (body : AssignPolicyRequest) :
    Except ApiErr AssignPlan := do
  Except.ensure (dsId ∈ db.dataSources) (.notFound "Data source not found")
  let p ← Except.require (db.findPolicy body.policyId) (.notFound "Policy not found")
  let scope := body.scope.getD
    (if body.roleId.isSome then "role" else if body.userId.isSome then "user" else "all")
  checkScope db body scope
  -- `NULL` user ids never collide in the unique index, so `all` is checked by hand
  Except.ensure (!(scope = "all" && db.assignments.any fun a =>
      a.policyId = body.policyId && a.dataSourceId = dsId && a.assignmentScope = "all"))
    (.conflict "This policy is already assigned to this datasource for all users")
  pure ⟨p, dsId, body, scope⟩

theorem assignPolicyRead_ok {db : AdminDb} {dsId : Nat} {body : AssignPolicyRequest}
    {plan : AssignPlan} (h : assignPolicyRead db dsId body = .ok plan) :
    db.findPolicy body.policyId = some plan.read := by
  simp only [assignPolicyRead, Except.bind_eq_ok, Except.require_eq_ok, Except.pure_eq_ok] at h
  obtain ⟨-, -, p, hp, -, -, -, -, rfl⟩ := h
  exact hp

/-- The transaction of `assign_policy`: insert the assignment, bump the
version read before the transaction, snapshot. -/
def assignPolicyTxn (db : AdminDb) (plan : AssignPlan) : Except ApiErr AdminDb :=
  let a : PolicyAssignmentRow :=
    ⟨db.nextId, plan.body.policyId, plan.dsId, plan.body.userId, plan.body.roleId, plan.scope,
      plan.body.priority⟩
  -- the unique index on `(policy_id, data_source_id, user_id)`; `NULL`s are distinct
  if a.userId.isSome && db.assignments.any fun b =>
      b.policyId = a.policyId && b.dataSourceId = a.dataSourceId && b.userId = a.userId then
    .error (.conflict "This policy assignment already exists")
  else
    match db.findPolicy plan.read.id with
    | none => .error recordNotUpdated
    | some cur =>
        let updated := { cur with version := plan.read.version + 1 }
        let db := { db with assignments := db.assignments ++ [a], nextId := db.nextId + 1 }
        let db := db.setPolicy updated
        .ok (db.createSnapshot cur.id (plan.read.version + 1) "assignment_change" updated
          (db.assignmentsOf cur.id))

/-! ## `remove_assignment` -/

structure RemovePlan where
  read : Policy
  assignment : PolicyAssignmentRow
  deriving DecidableEq, Repr

def removeAssignmentRead (db : AdminDb) (dsId assignmentId : Nat) : Except ApiErr RemovePlan := do
  Except.ensure (dsId ∈ db.dataSources) (.notFound "Data source not found")
  let a ← Except.require (db.assignments.find? (·.id = assignmentId))
    (.notFound "Assignment not found")
  let p ← Except.require (db.findPolicy a.policyId) (.notFound "Policy not found")
  pure ⟨p, a⟩

theorem removeAssignmentRead_ok {db : AdminDb} {dsId assignmentId : Nat} {plan : RemovePlan}
    (h : removeAssignmentRead db dsId assignmentId = .ok plan) :
    db.findPolicy plan.assignment.policyId = some plan.read := by
  simp only [removeAssignmentRead, Except.bind_eq_ok, Except.require_eq_ok,
    Except.pure_eq_ok] at h
  obtain ⟨-, -, a, -, p, hp, rfl⟩ := h
  exact hp

/-- The transaction of `remove_assignment`: delete the row (a delete of a
row already gone affects nothing and succeeds), bump the version read before
the transaction, snapshot. -/
def removeAssignmentTxn (db : AdminDb) (plan : RemovePlan) : Except ApiErr AdminDb :=
  match db.findPolicy plan.read.id with
  | none => .error recordNotUpdated
  | some cur =>
      let updated := { cur with version := plan.read.version + 1 }
      let db := { db with assignments := db.assignments.filter (·.id ≠ plan.assignment.id) }
      let db := db.setPolicy updated
      .ok (db.createSnapshot cur.id (plan.read.version + 1) "assignment_change" updated
        (db.assignmentsOf cur.id))

/-! ## Requests -/

inductive PolicyRequest where
  | updatePolicy (id : Nat) (body : UpdatePolicyRequest)
  | assignPolicy (dsId : Nat) (body : AssignPolicyRequest)
  | removeAssignment (dsId assignmentId : Nat)
  deriving DecidableEq, Repr

/-- What a request has read when its transaction starts. -/
inductive ReadState where
  | update (plan : UpdatePlan)
  | assign (plan : AssignPlan)
  | remove (plan : RemovePlan)
  deriving DecidableEq, Repr

def readPhase (validateExpression : String → Bool → Except String Unit) (db : AdminDb) :
    PolicyRequest → Except ApiErr ReadState
  | .updatePolicy id body => .update <$> updatePolicyRead validateExpression db id body
  | .assignPolicy dsId body => .assign <$> assignPolicyRead db dsId body
  | .removeAssignment dsId aid => .remove <$> removeAssignmentRead db dsId aid

def txnPhase (db : AdminDb) : ReadState → Except ApiErr AdminDb
  | .update plan => updatePolicyTxn db plan
  | .assign plan => assignPolicyTxn db plan
  | .remove plan => removeAssignmentTxn db plan

/-- A request served alone: its reads, then its transaction. -/
def serve (validateExpression : String → Bool → Except String Unit) (db : AdminDb)
    (req : PolicyRequest) : Except ApiErr AdminDb := do
  let r ← readPhase validateExpression db req
  txnPhase db r

/-! ## What a request commits -/

def ReadState.read : ReadState → Policy
  | .update plan => plan.read
  | .assign plan => plan.read
  | .remove plan => plan.read

/-- Reads that succeeded hold the stored row of their policy. -/
theorem readPhase_ok {validateExpression : String → Bool → Except String Unit} {db : AdminDb}
    {req : PolicyRequest} {r : ReadState} (h : readPhase validateExpression db req = .ok r) :
    db.findPolicy r.read.id = some r.read := by
  cases req with
  | updatePolicy id body =>
      obtain ⟨plan, hplan, rfl⟩ := Except.map_eq_ok.mp h
      exact AdminDb.findPolicy_self (updatePolicyRead_ok hplan).1
  | assignPolicy dsId body =>
      obtain ⟨plan, hplan, rfl⟩ := Except.map_eq_ok.mp h
      exact AdminDb.findPolicy_self (assignPolicyRead_ok hplan)
  | removeAssignment dsId aid =>
      obtain ⟨plan, hplan, rfl⟩ := Except.map_eq_ok.mp h
      exact AdminDb.findPolicy_self (removeAssignmentRead_ok hplan)

/-- What a committed transaction does to the policy and version tables: the
row `new` replaces the stored row `cur` of its id, and one version row
`(new.id, new.version)` is appended. -/
structure Commits (db db' : AdminDb) (cur new : Policy) : Prop where
  stored : db.findPolicy new.id = some cur
  policies : db'.policies = db.policies.map fun q => if q.id = new.id then new else q
  versions : ∃ snap ct, db'.versions = db.versions ++ [⟨new.id, new.version, snap, ct⟩]

/-- The write and snapshot every transaction ends with; `mid` is the
database after the writes to other tables. -/
theorem commits_createSnapshot {db mid : AdminDb} (cur new : Policy)
    (hs : db.findPolicy cur.id = some cur) (hid : new.id = cur.id)
    (hp : mid.policies = db.policies) (hv : mid.versions = db.versions) (ct : String)
    (as : List PolicyAssignmentRow) :
    Commits db ((mid.setPolicy new).createSnapshot new.id new.version ct new as) cur new where
  stored := hid ▸ hs
  policies := by simp [hp]
  versions :=
    ⟨⟨new.name, new.policyType, new.targets, new.definition, new.decisionFunctionId, as⟩, ct,
      by simp [hv]⟩

/-- The same, for a transaction that found the row `cur` it writes over. -/
theorem exists_commits {db mid : AdminDb} {id : Nat} {cur : Policy}
    (hcur : db.findPolicy id = some cur) (new : Policy) (hid : new.id = cur.id)
    (hp : mid.policies = db.policies) (hv : mid.versions = db.versions) (ct : String)
    (as : List PolicyAssignmentRow) :
    ∃ c n, Commits db ((mid.setPolicy new).createSnapshot new.id new.version ct new as) c n ∧
      n.id = id ∧ n.version = new.version :=
  ⟨cur, new, commits_createSnapshot cur new (AdminDb.findPolicy_self hcur) hid hp hv ct as,
    hid.trans (AdminDb.findPolicy_id hcur), rfl⟩

/-- A committed transaction writes the row it finds stored, at the version
its reads saw plus one. -/
theorem txnPhase_ok {db db' : AdminDb} {r : ReadState} (h : txnPhase db r = .ok db') :
    ∃ cur new, Commits db db' cur new ∧ new.id = r.read.id ∧ new.version = r.read.version + 1 := by
  cases r with
  | update plan =>
      simp only [txnPhase, updatePolicyTxn] at h
      split at h
      · cases h
      · rename_i cur hcur
        split_ifs at h
        cases h
        exact exists_commits hcur (plan.apply cur) rfl (by rfl) (by rfl) _ _
  | assign plan =>
      simp only [txnPhase, assignPolicyTxn] at h
      split_ifs at h
      split at h
      · cases h
      · rename_i cur hcur
        cases h
        exact exists_commits hcur { cur with version := plan.read.version + 1 } rfl (by rfl) (by rfl) _ _
  | remove plan =>
      simp only [txnPhase, removeAssignmentTxn] at h
      split at h
      · cases h
      · rename_i cur hcur
        cases h
        exact exists_commits hcur { cur with version := plan.read.version + 1 } rfl (by rfl) (by rfl) _ _

/-- Served alone, a request writes the stored version plus one. -/
theorem serve_ok {validateExpression : String → Bool → Except String Unit} {db db' : AdminDb}
    {req : PolicyRequest} (h : serve validateExpression db req = .ok db') :
    ∃ cur new, Commits db db' cur new ∧ new.version = cur.version + 1 := by
  obtain ⟨r, hr, ht⟩ := Except.bind_eq_ok.mp h
  obtain ⟨cur, new, hc, hid, hv⟩ := txnPhase_ok ht
  -- nothing ran between the reads and the transaction, so `cur` is the row read
  have hcur : cur = r.read := by
    have hs := hc.stored
    rw [hid, readPhase_ok hr] at hs
    exact Option.some.inj hs.symm
  exact ⟨cur, new, hc, hcur ▸ hv⟩

/-! ## The version history -/

/-- The version history is sound: policy ids are unique, no two version rows
share `(policy_id, version)`, and no version row is ahead of its policy. -/
structure HistoryOk (db : AdminDb) : Prop where
  ids_nodup : (db.policies.map (·.id)).Nodup
  versions_nodup : (db.versions.map fun r => (r.policyId, r.version)).Nodup
  versions_le : ∀ r ∈ db.versions, ∀ p ∈ db.policies, r.policyId = p.id → r.version ≤ p.version

theorem map_id_replace (l : List Policy) (new : Policy) :
    (l.map fun q => if q.id = new.id then new else q).map (·.id) = l.map (·.id) := by
  rw [List.map_map]
  refine List.map_congr_left fun q _ => ?_
  by_cases h : q.id = new.id <;> simp [h]

namespace Commits

variable {db db' : AdminDb} {cur new : Policy}

theorem cur_mem (hc : Commits db db' cur new) : cur ∈ db.policies :=
  AdminDb.findPolicy_mem hc.stored

theorem cur_id (hc : Commits db db' cur new) : cur.id = new.id :=
  AdminDb.findPolicy_id hc.stored

/-- After the commit a row is `new`, or a stored row of another id. -/
theorem mem_policies (hc : Commits db db' cur new) {p : Policy} (hp : p ∈ db'.policies) :
    p = new ∨ (p ∈ db.policies ∧ p.id ≠ new.id) := by
  rw [hc.policies, List.mem_map] at hp
  obtain ⟨q, hq, rfl⟩ := hp
  by_cases h : q.id = new.id <;> simp [h, hq]

/-- A commit that writes the stored version plus one keeps the history
sound. -/
theorem historyOk (hc : Commits db db' cur new) (hok : HistoryOk db)
    (hv : new.version = cur.version + 1) : HistoryOk db' := by
  obtain ⟨snap, ct, hvers⟩ := hc.versions
  -- the recorded versions of `new`'s id are all at most the stored one
  have hold : ∀ r ∈ db.versions, r.policyId = new.id → r.version ≤ cur.version :=
    fun r hr hid => hok.versions_le r hr cur hc.cur_mem (hid.trans hc.cur_id.symm)
  refine ⟨?_, ?_, ?_⟩
  · rw [hc.policies, map_id_replace]
    exact hok.ids_nodup
  · rw [hvers, List.map_append, List.map_singleton, List.nodup_append]
    refine ⟨hok.versions_nodup, List.nodup_singleton _, ?_⟩
    simp only [List.mem_map, List.mem_singleton]
    rintro _ ⟨r, hr, rfl⟩ _ rfl hrk
    simp only [Prod.mk.injEq] at hrk
    have := hold r hr hrk.1
    omega
  · intro r hr p hp hrp
    rw [hvers, List.mem_append, List.mem_singleton] at hr
    rcases hc.mem_policies hp with rfl | ⟨hp, hpid⟩
    · rcases hr with hr | rfl
      · have := hold r hr hrp
        omega
      · exact le_rfl
    · rcases hr with hr | rfl
      · exact hok.versions_le r hr p hp hrp
      · exact absurd hrp.symm hpid

end Commits

/-- A request served alone keeps the version history sound. -/
theorem serve_historyOk {validateExpression : String → Bool → Except String Unit}
    {db db' : AdminDb} {req : PolicyRequest} (hok : HistoryOk db)
    (h : serve validateExpression db req = .ok db') : HistoryOk db' := by
  obtain ⟨cur, new, hc, hv⟩ := serve_ok h
  exact hc.historyOk hok hv

end BetweenRows

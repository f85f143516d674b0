import BetweenRows.Rbac.Access
import BetweenRows.Engine.Visibility
import BetweenRows.Policy.Rewrite

/-!
# Connections, caches and rebuilds (`handler.rs`, `engine/mod.rs`, `hooks/policy.rs`)

The proxy keeps two things per user beyond the admin database:

* `connection_contexts`: per connection, the `SessionContext` that
  `build_user_context` built for the user at `on_startup`, where
  `check_access` admitted the connection;
* `PolicyHook.cache`: per `(user, datasource)`, the `SessionData` that
  `load_session` loaded on the first query.

An admin handler, after or before its transaction, calls `invalidate_user`:
it drops the user's cached sessions and spawns one rebuild per connection of
the user (`rebuild_contexts_for_user`). A rebuild first builds the context
from the database as it then is, and later stores it into the connection's
entry, or drops the entry if the build failed. Spawned tasks run in any
order.

The model is a state machine over `Proxy`: a step is a connection, the
session load of a query, one phase of a rebuild task, or one step of an
admin handler (its reads, then its actions one at a time). Any list of
steps is a run. What a query gets is `queryResult`: the connection's entry,
the session of `get_session`, and `apply_policies` on the plan DataFusion
built in the connection's context.

`check_access` is read in `on_startup` only: nothing a query or a rebuild
runs reads the access rows or `is_active` (`queryResult_db_eq`).
-/

namespace BetweenRows

open DataFusion

/-! ## The admin database -/

structure ProxyUser where
  id : Nat
  username : String
  isActive : Bool
  deriving DecidableEq, Repr

/-- A `data_source` row, with the catalog `get_catalog` builds from its
selected schemas. -/
structure DataSourceRow where
  id : Nat
  name : String
  isActive : Bool
  catalog : CachedCatalog

structure ProxyDb where
  users : List ProxyUser
  roles : RoleStore Nat
  accesses : List DataSourceAccess
  dataSources : List DataSourceRow
  assignments : List PolicyAssignmentRow
  policies : List Policy
  decisionFunctions : List DecisionFunction

namespace ProxyDb

/-- `data_source::Entity::find().filter(Name.eq(name)).one(..)` -/
def findDataSource (db : ProxyDb) (name : String) : Option DataSourceRow :=
  db.dataSources.find? (·.name = name)

def findActiveDataSource (db : ProxyDb) (name : String) : Option DataSourceRow :=
  db.dataSources.find? fun d => d.name = name && d.isActive

def effectiveAssignments (db : ProxyDb) (userId dsId : Nat) : List PolicyAssignment :=
  resolveEffectiveAssignments db.roles db.assignments userId dsId

/-- The names of the user's roles, as `load_session` reads them for the
decision functions' context: the `role` rows whose ids `resolve_user_roles`
returns, in the table's order. -/
def roleNames (db : ProxyDb) (userId : Nat) : List String :=
  let roleIds := resolveUserRoles db.roles userId
  if roleIds.isEmpty then [] else (db.roles.roles.filter (·.id ∈ roleIds)).map (·.name)

end ProxyDb

/-! ## Engine and policy hook -/

namespace EngineCache

def validateDataSource (db : ProxyDb) (name : String) : Except String Unit :=
  match db.findDataSource name with
  | some m => if m.isActive then .ok () else .error ("Data source '" ++ name ++ "' is inactive")
  | none => .error ("Data source '" ++ name ++ "' not found")

def checkAccess (db : ProxyDb) (userId : Nat) (name : String) : Bool :=
  match db.findActiveDataSource name with
  | some ds => resolveDatasourceAccess db.roles db.accesses userId ds.id
  | none => false

/-- `build_user_context(user_id, datasource_name)`: the catalog of the
active datasource, filtered by the user's effective assignments. -/
def buildUserContext (run : DecisionFunction → Option Bool) (db : ProxyDb) (userId : Nat)
    (name : String) : Except String UserContext :=
  match db.findActiveDataSource name with
  | some ds =>
      .ok (BetweenRows.buildUserContext run db.decisionFunctions (db.effectiveAssignments userId ds.id)
        db.policies ds.catalog)
  | none => .error ("Data source '" ++ name ++ "' not found or inactive")

/-- Without decision functions, the runner is never asked. -/
theorem buildUserContext_run (run run' : DecisionFunction → Option Bool) {db : ProxyDb}
    (h : db.decisionFunctions = []) : buildUserContext run db = buildUserContext run' db := by
  funext userId name
  simp only [buildUserContext, h, BetweenRows.buildUserContext_dfs_nil run run']

end EngineCache

def PolicyHook.loadSession (db : ProxyDb) (userId : Nat) (name : String) :
    Except String SessionData :=
  match db.findDataSource name with
  | some ds =>
      .ok (BetweenRows.loadSession ds.catalog.accessMode ds.catalog.dfToUpstream (db.roleNames userId)
        (db.effectiveAssignments userId ds.id) db.policies db.decisionFunctions)
  | none => .error ("Datasource '" ++ name ++ "' not found")

/-! ## Admin handlers -/

/-- The writes of the modelled admin handlers. -/
inductive Mutation where
  /-- `set_datasource_users`: the `user`-scoped access rows of the datasource
  are replaced. -/
  | setDatasourceUsers (dsId : Nat) (userIds : List Nat)
  | setUserActive (userId : Nat) (isActive : Bool)
  /-- `delete_role`: the role row and, by their foreign keys, its members,
  inheritance edges and access rows; `policy_assignment.role_id` has no
  foreign key, so its assignments stay. -/
  | deleteRole (roleId : Nat)
  deriving DecidableEq, Repr

def Mutation.apply : Mutation → ProxyDb → ProxyDb
  | .setDatasourceUsers dsId userIds, db =>
      { db with
        accesses := db.accesses.filter (fun a => !(a.dataSourceId = dsId && a.assignmentScope = "user")) ++
          userIds.map fun u => ⟨dsId, some u, none, "user"⟩ }
  | .setUserActive userId isActive, db =>
      { db with users := db.users.map fun u => if u.id = userId then { u with isActive := isActive } else u }
  | .deleteRole roleId, db =>
      { db with
        roles :=
          { roles := db.roles.roles.filter (·.id ≠ roleId)
            members := db.roles.members.filter (·.roleId ≠ roleId)
            inheritance := db.roles.inheritance.filter fun e =>
              e.parentRoleId ≠ roleId ∧ e.childRoleId ≠ roleId }
        accesses := db.accesses.filter (·.roleId ≠ some roleId) }

/-- A handler's steps after its reads: its transaction, and its calls of
`invalidate_user`. -/
inductive Action where
  | commit (m : Mutation)
  | invalidateUser (userId : Nat)
  deriving DecidableEq, Repr

inductive AdminRequest where
  | setDatasourceUsers (dsId : Nat) (userIds : List Nat)
  | updateUser (userId : Nat) (isActive : Option Bool)
  | deleteRole (roleId : Nat)
  deriving DecidableEq, Repr

/-- What a request's reads decide it will do, in order; nothing when they
fail (`404`). -/
def AdminRequest.actions (db : ProxyDb) : AdminRequest → List Action
  | .setDatasourceUsers dsId userIds =>
      if db.dataSources.any (·.id = dsId) then
        let old := (db.accesses.filter fun a => a.dataSourceId = dsId && a.assignmentScope = "user").filterMap
          (·.userId)
        -- after the commit, every old and new user
        .commit (.setDatasourceUsers dsId userIds) :: (old ++ userIds).dedup.map .invalidateUser
      else []
  | .updateUser userId isActive =>
      match db.users.find? (·.id = userId) with
      | some u =>
          .commit (.setUserActive userId (isActive.getD u.isActive)) ::
            if isActive.isSome then [.invalidateUser userId] else []
      | none => []
  | .deleteRole roleId =>
      if roleExists db.roles.roles roleId then
        -- `invalidate_role_members` runs before the transaction
        (resolveAllRoleMembers db.roles roleId).map .invalidateUser ++ [.commit (.deleteRole roleId)]
      else []

/-- An admin request in flight: before its reads, or with the actions its
reads decided still to run. -/
inductive AdminHandler where
  | pending (req : AdminRequest)
  | running (actions : List Action)
  deriving DecidableEq, Repr

/-! ## The proxy -/

structure ConnectionEntry where
  ctx : UserContext
  userId : Nat
  datasourceName : String

/-- A task of `rebuild_contexts_for_user` for one connection: spawned,
built and about to store its result, or finished. -/
inductive RebuildTask where
  | spawned (connId userId : Nat) (dsName : String)
  | built (connId : Nat) (result : Except String UserContext)
  | finished

structure ErrorInfo where
  severity : String
  code : String
  message : String
  deriving DecidableEq, Repr

inductive PgWireError where
  | invalidPassword (username : String)
  | userError (info : ErrorInfo)
  | apiError (msg : String)
  deriving DecidableEq, Repr

/-- `HashMap::retain`. -/
def AList.retain {α : Type} {β : α → Type} (p : α → Bool) (m : AList β) : AList β :=
  ⟨m.entries.filter (p ·.1), m.nodupKeys.sublist List.filter_sublist⟩

/-- The proxy: the admin database, `connection_contexts`, the policy hook's
session cache, the spawned rebuild tasks and the admin handlers in flight. -/
structure Proxy where
  db : ProxyDb
  contexts : AList fun _ : Nat => ConnectionEntry
  cache : AList fun _ : Nat × String => SessionData
  tasks : List RebuildTask
  admins : List AdminHandler

namespace Proxy

variable (run : DecisionFunction → Option Bool)

/-- `on_startup`, once the client sent its password (not modelled). -/
def onStartup (s : Proxy) (connId : Nat) (username dsName : String) : Except PgWireError Proxy := do
  let user ← Except.require (s.db.users.find? (·.username = username)) (.invalidPassword username)
  Except.ensure user.isActive (.invalidPassword username)
  Except.ensure (dsName ≠ "") (.userError ⟨"FATAL", "08006",
    "No database specified — use -d <datasource_name> in your connection string"⟩)
  (EngineCache.validateDataSource s.db dsName).mapError fun e => .userError ⟨"FATAL", "3D000", e⟩
  Except.ensure (EngineCache.checkAccess s.db user.id dsName)
    (.userError ⟨"FATAL", "42501", "Access denied to data source '" ++ dsName ++ "'"⟩)
  let ctx ← (EngineCache.buildUserContext run s.db user.id dsName).mapError .apiError
  pure { s with contexts := s.contexts.insert connId ⟨ctx, user.id, dsName⟩ }

/-- `invalidate_user`: the hook drops the user's sessions, then
`rebuild_contexts_for_user` spawns a task per connection of the user. -/
def invalidateUser (s : Proxy) (userId : Nat) : Proxy :=
  { s with
    cache := AList.retain (fun k => k.1 ≠ userId) s.cache
    tasks := s.tasks ++ (s.contexts.entries.filter (·.2.userId = userId)).map fun e =>
      .spawned e.1 userId e.2.datasourceName }

def runAction (s : Proxy) : Action → Proxy
  | .commit m => { s with db := m.apply s.db }
  | .invalidateUser userId => s.invalidateUser userId

def adminStep (s : Proxy) (i : Nat) : Proxy :=
  match s.admins[i]? with
  | some (.pending req) => { s with admins := s.admins.set i (.running (req.actions s.db)) }
  | some (.running (a :: as)) => { s.runAction a with admins := s.admins.set i (.running as) }
  | _ => s

/-- Rebuild task `i` takes its next phase: the build, or the store. -/
def taskStep (s : Proxy) (i : Nat) : Proxy :=
  match s.tasks[i]? with
  | some (.spawned connId userId dsName) =>
      { s with tasks := s.tasks.set i (.built connId (EngineCache.buildUserContext run s.db userId dsName)) }
  | some (.built connId result) =>
      let contexts :=
        match result with
        | .ok ctx =>
            match s.contexts.lookup connId with
            | some e => s.contexts.insert connId { e with ctx := ctx }
            | none => s.contexts
        -- the stale connection is removed
        | .error _ => s.contexts.erase connId
      { s with contexts := contexts, tasks := s.tasks.set i .finished }
  | _ => s

/-- `get_session`: the cached session (taken younger than `CACHE_TTL_SECS`),
else a fresh `load_session`. -/
def session (s : Proxy) (userId : Nat) (dsName : String) : Except String SessionData :=
  match s.cache.lookup (userId, dsName) with
  | some sd => .ok sd
  | none => PolicyHook.loadSession s.db userId dsName

/-- What `get_session` writes: a session it loaded goes into the cache. -/
def getSession (s : Proxy) (userId : Nat) (dsName : String) : Proxy :=
  match s.cache.lookup (userId, dsName) with
  | some _ => s
  | none =>
      match PolicyHook.loadSession s.db userId dsName with
      | .ok sd => { s with cache := s.cache.insert (userId, dsName) sd }
      | .error _ => s

inductive Event where
  | connect (connId : Nat) (username dsName : String)
  | query (connId : Nat)
  | task (i : Nat)
  | admin (i : Nat)
  deriving DecidableEq, Repr

/-- A step; a connection refused leaves the proxy as it was. -/
def step (s : Proxy) : Event → Proxy
  | .connect connId username dsName =>
      match s.onStartup run connId username dsName with
      | .ok s' => s'
      | .error _ => s
  | .query connId =>
      match s.contexts.lookup connId with
      | some e => s.getSession e.userId e.datasourceName
      | none => s
  | .task i => s.taskStep run i
  | .admin i => s.adminStep i

def runEvents (s : Proxy) (events : List Event) : Proxy :=
  events.foldl (step run) s

/-- Every spawned task has finished and every admin handler has returned. -/
def quiescent (s : Proxy) : Bool :=
  (s.tasks.all fun | .finished => true | _ => false) &&
    s.admins.all fun | .running [] => true | _ => false

inductive QueryError where
  | pgWire (e : PgWireError)
  | policy (e : PolicyError)
  deriving DecidableEq, Repr

/-- What a `Query` statement on connection `connId` gets through the policy
hook: `get_ctx`, `get_session`, then `apply_policies` on the plan DataFusion
built in the connection's context. -/
def queryResult (env : QueryEnv) (s : Proxy) (connId : Nat) (plan : LogicalPlan) :
    Except QueryError (LogicalPlan × Bool) := do
  let e ← Except.require (s.contexts.lookup connId)
    (.pgWire (.userError ⟨"ERROR", "08000", "Session context not found — please reconnect"⟩))
  let sd ← (s.session e.userId e.datasourceName).mapError (.pgWire ∘ .apiError)
  (applyPolicies env sd e.ctx.defaultSchema plan).mapError .policy

/-- A query on a live connection is the policy rewrite with the session
`get_session` serves. -/
theorem queryResult_of_lookup (env : QueryEnv) {s : Proxy} {connId : Nat} {e : ConnectionEntry}
    {sd : SessionData} (he : s.contexts.lookup connId = some e)
    (hs : s.session e.userId e.datasourceName = .ok sd) (plan : LogicalPlan) :
    s.queryResult env connId plan = (applyPolicies env sd e.ctx.defaultSchema plan).mapError .policy := by
  simp only [queryResult, he, Except.require, Except.ok_bind, hs]
  rfl

end Proxy

/-! ## Only a commit changes the database -/

namespace Proxy

variable {run : DecisionFunction → Option Bool}

@[simp] theorem Mutation.apply_decisionFunctions (m : Mutation) (db : ProxyDb) :
    (m.apply db).decisionFunctions = db.decisionFunctions := by
  cases m <;> rfl

theorem onStartup_db {s s' : Proxy} {connId : Nat} {username dsName : String}
    (h : s.onStartup run connId username dsName = .ok s') : s'.db = s.db := by
  simp only [onStartup, Except.bind_eq_ok, Except.pure_eq_ok] at h
  obtain ⟨-, -, -, -, -, -, -, -, -, -, ctx, -, rfl⟩ := h
  rfl

theorem getSession_db (s : Proxy) (userId : Nat) (dsName : String) :
    (s.getSession userId dsName).db = s.db := by
  unfold getSession
  split
  · rfl
  · split <;> rfl

/-- A step keeps the database, or commits a mutation to it. -/
theorem step_db (s : Proxy) (e : Event) :
    (s.step run e).db = s.db ∨ ∃ m : Mutation, (s.step run e).db = m.apply s.db := by
  cases e with
  | connect connId username dsName =>
      left
      simp only [step]
      split
      · exact onStartup_db ‹_›
      · rfl
  | query connId =>
      left
      simp only [step]
      split
      · exact getSession_db _ _ _
      · rfl
  | task i =>
      left
      simp only [step, taskStep]
      split <;> rfl
  | admin i =>
      simp only [step, adminStep]
      split
      · exact .inl rfl
      · rename_i a as _
        cases a with
        | commit m => exact .inr ⟨m, rfl⟩
        | invalidateUser u => exact .inl rfl
      · exact .inl rfl

theorem step_decisionFunctions (s : Proxy) (e : Event) :
    (s.step run e).db.decisionFunctions = s.db.decisionFunctions := by
  rcases @step_db run s e with h | ⟨m, h⟩ <;> simp [h]

/-- No run changes the decision function table. -/
theorem runEvents_decisionFunctions (s : Proxy) (events : List Event) :
    (s.runEvents run events).db.decisionFunctions = s.db.decisionFunctions := by
  induction events generalizing s with
  | nil => rfl
  | cons e events ih =>
      simp only [runEvents, List.foldl_cons] at ih ⊢
      rw [ih, step_decisionFunctions]

/-- Without decision functions, the runner of the decision functions never
matters to a run. -/
theorem runEvents_run_eq (run run' : DecisionFunction → Option Bool) {s : Proxy}
    (h : s.db.decisionFunctions = []) (events : List Event) :
    s.runEvents run events = s.runEvents run' events := by
  induction events generalizing s with
  | nil => rfl
  | cons e events ih =>
      have hstep : s.step run e = s.step run' e := by
        cases e with
        | connect connId username dsName =>
            simp only [step, onStartup, EngineCache.buildUserContext_run run run' h]
        | query connId => rfl
        | task i => simp only [step, taskStep, EngineCache.buildUserContext_run run run' h]
        | admin i => rfl
      simp only [runEvents, List.foldl_cons] at ih ⊢
      rw [hstep]
      exact ih ((step_decisionFunctions s e).trans h)

end Proxy

/-! ## What rebuilds and queries read -/

/-- Two databases that differ at most in their access rows and users. -/
structure ProxyDb.Agree (db db' : ProxyDb) : Prop where
  roles : db'.roles = db.roles
  dataSources : db'.dataSources = db.dataSources
  assignments : db'.assignments = db.assignments
  policies : db'.policies = db.policies
  decisionFunctions : db'.decisionFunctions = db.decisionFunctions

variable {db db' : ProxyDb}

theorem EngineCache.buildUserContext_agree (run : DecisionFunction → Option Bool)
    (h : db.Agree db') : EngineCache.buildUserContext run db' = EngineCache.buildUserContext run db := by
  funext userId name
  simp only [EngineCache.buildUserContext, ProxyDb.findActiveDataSource, ProxyDb.effectiveAssignments,
    h.roles, h.dataSources, h.assignments, h.policies, h.decisionFunctions]

theorem PolicyHook.loadSession_agree (h : db.Agree db') :
    PolicyHook.loadSession db' = PolicyHook.loadSession db := by
  funext userId name
  simp only [PolicyHook.loadSession, ProxyDb.findDataSource, ProxyDb.effectiveAssignments,
    ProxyDb.roleNames, h.roles, h.dataSources, h.assignments, h.policies, h.decisionFunctions]

/-- A rebuild reads neither the access rows nor `is_active`: over a
database that differs only there, it builds and stores the same context. -/
theorem Proxy.taskStep_agree (run : DecisionFunction → Option Bool) {s : Proxy}
    (h : s.db.Agree db') (i : Nat) :
    Proxy.taskStep run { s with db := db' } i = { Proxy.taskStep run s i with db := db' } := by
  simp only [Proxy.taskStep, EngineCache.buildUserContext_agree run h]
  split <;> rfl

/-- Nor does a query: whatever the access rows and `is_active` say, a query
gets the same answer. -/
theorem Proxy.queryResult_db_eq (env : QueryEnv) {s : Proxy} (h : s.db.Agree db') :
    Proxy.queryResult env { s with db := db' } = Proxy.queryResult env s := by
  funext connId plan
  simp only [Proxy.queryResult, Proxy.session, PolicyHook.loadSession_agree h]

/-! ## Revoked access on a live connection

`check_access` admits a connection once, in `on_startup`. When an admin then
takes the user's access away (`set_datasource_users` without the user), the
handler calls `invalidate_user`, whose rebuild builds the context again with
`build_user_context`, which does not ask `check_access`; and the policy hook
loads the session with `load_session`, which does not either. On an `open`
datasource without policies, the connection keeps the whole catalog and its
queries come back unrewritten, after the handler and its rebuild are done.
-/

section Revocation

open DataFusion

/-- An `open` datasource with one table `public.t` of columns `id`, `ssn`. -/
def mainCatalog : CachedCatalog where
  schemas := [("public", ⟨"public", [⟨"t", ["id", "ssn"]⟩], by decide⟩)]
  aliases_nodup := by decide
  defaultSchema := "public"
  accessMode := "open"

/-- `alice` has `user`-scoped access to datasource `main`, which has no
policies. -/
def revocationDb : ProxyDb where
  users := [⟨1, "alice", true⟩]
  roles := ⟨[], [], []⟩
  accesses := [⟨10, some 1, none, "user"⟩]
  dataSources := [⟨10, "main", true, mainCatalog⟩]
  assignments := []
  policies := []
  decisionFunctions := []

def revocationStart : Proxy :=
  ⟨revocationDb, ∅, ∅, [], [.pending (.setDatasourceUsers 10 [])]⟩

/-- `alice` connects as connection 7; the handler reads, commits and
invalidates `alice`; her rebuild builds and stores; she queries. -/
def revocationEvents : List Proxy.Event :=
  [.connect 7 "alice" "main", .admin 0, .admin 0, .admin 0, .task 0, .task 0, .query 7]

/-- Once the handler and the rebuild it spawned are done, `check_access`
refuses `alice`, yet her connection still holds `public.t` with both
columns, and every plan she runs there comes back as it was. -/
theorem accessRevokedRun (run : DecisionFunction → Option Bool) :
    (revocationStart.runEvents run revocationEvents).quiescent = true ∧
      EngineCache.checkAccess revocationDb 1 "main" = true ∧
      EngineCache.checkAccess (revocationStart.runEvents run revocationEvents).db 1 "main" = false ∧
      ((revocationStart.runEvents run revocationEvents).contexts.lookup 7).map
          (·.ctx.columnsOf "public" "t") = some (some ["id", "ssn"]) ∧
      ∀ (env : QueryEnv) (plan : LogicalPlan),
        (revocationStart.runEvents run revocationEvents).queryResult env 7 plan = .ok (plan, false) := by
  -- no decision functions: every runner gives the same run
  rw [@Proxy.runEvents_run_eq run (fun _ => none) revocationStart rfl revocationEvents]
  refine ⟨by decide +kernel, by decide +kernel, by decide +kernel, by decide +kernel,
    fun env plan => ?_⟩
  have hentry : ((revocationStart.runEvents (fun _ => none) revocationEvents).contexts.lookup 7).map
      (fun e => (e.userId, e.datasourceName, e.ctx.defaultSchema)) = some (1, "main", "public") := by
    decide +kernel
  obtain ⟨e, he, hfields⟩ := Option.map_eq_some_iff.mp hentry
  simp only [Prod.mk.injEq] at hfields
  obtain ⟨hu, hd, hdef⟩ := hfields
  have hs : (revocationStart.runEvents (fun _ => none) revocationEvents).session e.userId
      e.datasourceName = .ok ⟨[], [], "open", [("public", "public")], []⟩ := by
    rw [hu, hd]
    decide +kernel
  rw [Proxy.queryResult_of_lookup env he hs, hdef, applyPolicies_of_policies_nil env rfl rfl (by decide)]
  rfl

end Revocation

/-! ## Contexts and sessions after a role is deleted

`delete_role` calls `invalidate_role_members` before its transaction, so
the rebuild it spawns may build the member's context, and a query may load
the member's session, from the database in which the role still exists.
Nothing invalidates after the commit: once the handler has returned and its
rebuild has finished, the connection keeps the context and the policy hook
keeps the session of the role that is gone.
-/

def ssnDenyPolicy : Policy where
  id := 1
  name := "hide_ssn"
  policyType := .columnDeny
  targets := [⟨["public"], ["t"], some ["ssn"]⟩]
  definition := none
  decisionFunctionId := none
  isEnabled := true
  version := 1

/-- `alice` has access to `main` herself, and through role 5 the policy
`ssnDenyPolicy`. -/
def roleDb : ProxyDb where
  users := [⟨1, "alice", true⟩]
  roles := ⟨[⟨5, "analysts", true⟩], [⟨5, 1⟩], []⟩
  accesses := [⟨10, some 1, none, "user"⟩]
  dataSources := [⟨10, "main", true, mainCatalog⟩]
  assignments := [⟨1, 1, 10, none, some 5, "role", 0⟩]
  policies := [ssnDenyPolicy]
  decisionFunctions := []

def roleDeleteStart : Proxy :=
  ⟨roleDb, ∅, ∅, [], [.pending (.deleteRole 5)]⟩

/-- `alice` connects as connection 7; the handler reads and invalidates
`alice`; her rebuild builds and stores; she queries; the handler commits. -/
def roleDeleteEvents : List Proxy.Event :=
  [.connect 7 "alice" "main", .admin 0, .admin 0, .task 0, .task 0, .query 7, .admin 0]

/-- Once the handler and its rebuild are done, `alice`'s connection still
hides `ssn` and the hook still serves her the `column_deny` policy, while
`build_user_context` and `load_session` on the database as committed give
her `ssn` and no policy. -/
theorem staleRoleDeleteRun (run : DecisionFunction → Option Bool) :
    (roleDeleteStart.runEvents run roleDeleteEvents).quiescent = true ∧
      ((roleDeleteStart.runEvents run roleDeleteEvents).contexts.lookup 7).map
          (·.ctx.columnsOf "public" "t") = some (some ["id"]) ∧
      (EngineCache.buildUserContext run (roleDeleteStart.runEvents run roleDeleteEvents).db 1
          "main").toOption.map (·.columnsOf "public" "t") = some (some ["id", "ssn"]) ∧
      ((roleDeleteStart.runEvents run roleDeleteEvents).session 1 "main").toOption.map
          (·.denyPolicies.length) = some 1 ∧
      (PolicyHook.loadSession (roleDeleteStart.runEvents run roleDeleteEvents).db 1
          "main").toOption.map (·.denyPolicies.length) = some 0 := by
  -- no decision functions: every runner gives the same run and the same builds
  have hdfs : (roleDeleteStart.runEvents run roleDeleteEvents).db.decisionFunctions = [] :=
    Proxy.runEvents_decisionFunctions roleDeleteStart roleDeleteEvents
  rw [EngineCache.buildUserContext_run run (fun _ => none) hdfs,
    @Proxy.runEvents_run_eq run (fun _ => none) roleDeleteStart rfl roleDeleteEvents]
  exact ⟨by decide +kernel, by decide +kernel, by decide +kernel, by decide +kernel,
    by decide +kernel⟩

end BetweenRows

import BetweenRows.Admin.RoleWrites

/-!
# Sessions across role writes

The policy hook caches one session per user and datasource, and drops a
user's sessions when a handler calls `invalidate_user`. Here the proxy's
own steps (connections, queries, rebuild tasks) interleave with role writes
(`Admin.RoleWrites`), each served whole: its commit and the invalidations
its handler makes, with no other step in between (`Proxy.serveRoleWrite`).
`invalidate_user` does not read the tables, so whether a handler
invalidates before its transaction or after its commit makes no difference
to such a step.

A session holds the user's policies and the names of the user's roles. Along
every run whose writes rename no role, the cache stays current
(`SessionsCurrent`): each cached session is the one `load_session` would
load from the tables as they now are, so a query is served the session of
the current roles (`roleRun_sessionsCurrent`). What carries the invariant
across a write is `RoleWrite.resolveUserRoles_of_not_mem` and
`RoleWrite.roleNames_of_not_mem`: a user whose sessions survive resolves the
same roles, of the same names, so loads the same sessions. A rename is the
exception: `update_role` invalidates only on a change of `is_active`, so a
cached session keeps the old name of a renamed role. The same runs keep the
role tables' foreign keys and an acyclic inheritance relation
(`roleRun_tables`).

In the running system a handler's steps interleave with queries, and
`delete_role`, which invalidates first, can then leave a stale session
behind (`staleRoleDeleteRun`); these runs do not allow that interleaving.
-/

namespace BetweenRows

/-- A step of the proxy, or a role write served whole. -/
inductive RoleEvent where
  | connect (connId : Nat) (username dsName : String)
  | query (connId : Nat)
  | task (i : Nat)
  | write (w : RoleWrite)
  deriving DecidableEq, Repr

/-- A role write that renames a role. -/
def RoleEvent.renames : RoleEvent → Bool
  | .write w => w.renames
  | _ => false

namespace Proxy

variable (run : DecisionFunction → Option Bool)

/-- A role write: the commit, and `invalidate_user` for each user the handler
names; a rejected write changes nothing. -/
def serveRoleWrite (s : Proxy) (w : RoleWrite) : Proxy :=
  match w.apply s.db with
  | .ok db' => (w.invalidated s.db db').foldl invalidateUser { s with db := db' }
  | .error _ => s

def roleStep (s : Proxy) : RoleEvent → Proxy
  | .connect connId username dsName => s.step run (.connect connId username dsName)
  | .query connId => s.step run (.query connId)
  | .task i => s.step run (.task i)
  | .write w => s.serveRoleWrite w

def runRoleEvents (s : Proxy) (events : List RoleEvent) : Proxy :=
  events.foldl (roleStep run) s

/-- Every cached session is the one `load_session` loads now. -/
def SessionsCurrent (s : Proxy) : Prop :=
  ∀ k sd, s.cache.lookup k = some sd → PolicyHook.loadSession s.db k.1 k.2 = .ok sd

/-! ## What each step touches -/

theorem lookup_retain {α : Type} {β : α → Type} [DecidableEq α] {p : α → Bool} {m : AList β} {k : α}
    {v : β k} (h : (AList.retain p m).lookup k = some v) : m.lookup k = some v ∧ p k = true := by
  rw [← Option.mem_def, AList.mem_lookup_iff] at h
  obtain ⟨hmem, hp⟩ := List.mem_filter.mp h
  exact ⟨AList.mem_lookup_iff.mpr hmem, hp⟩

theorem invalidateUsers_db : ∀ (us : List Nat) (s : Proxy), (us.foldl invalidateUser s).db = s.db
  | [], _ => rfl
  | u :: us, s => invalidateUsers_db us (s.invalidateUser u)

/-- A session that survives the invalidations was cached before, and is not
of an invalidated user. -/
theorem lookup_invalidateUsers {k : Nat × String} {sd : SessionData} :
    ∀ (us : List Nat) (s : Proxy), (us.foldl invalidateUser s).cache.lookup k = some sd →
      s.cache.lookup k = some sd ∧ k.1 ∉ us
  | [], _, h => ⟨h, List.not_mem_nil⟩
  | u :: us, s, h => by
      obtain ⟨hk, hku⟩ := lookup_invalidateUsers us (s.invalidateUser u) h
      obtain ⟨hs, hne⟩ := lookup_retain hk
      refine ⟨hs, fun hmem => ?_⟩
      rcases List.mem_cons.mp hmem with heq | hmem
      · exact absurd heq (by simpa using hne)
      · exact hku hmem

theorem onStartup_cache {s s' : Proxy} {connId : Nat} {username dsName : String}
    (h : s.onStartup run connId username dsName = .ok s') : s'.cache = s.cache := by
  simp only [onStartup, Except.bind_eq_ok, Except.pure_eq_ok] at h
  obtain ⟨-, -, -, -, -, -, -, -, -, -, ctx, -, rfl⟩ := h
  rfl

theorem taskStep_cache (s : Proxy) (i : Nat) : (s.taskStep run i).cache = s.cache ∧ (s.taskStep run i).db = s.db := by
  unfold taskStep
  split <;> exact ⟨rfl, rfl⟩

/-- The roles a user resolves, and their names, are all a session load
reads of the role tables. -/
theorem loadSession_of_roles {db db' : ProxyDb} (h : db.SameOutsideRoles db') {userId : Nat}
    (hu : resolveUserRoles db'.roles userId = resolveUserRoles db.roles userId)
    (hn : db'.roleNames userId = db.roleNames userId) (dsName : String) :
    PolicyHook.loadSession db' userId dsName = PolicyHook.loadSession db userId dsName := by
  simp only [PolicyHook.loadSession, ProxyDb.findDataSource, ProxyDb.effectiveAssignments,
    resolveEffectiveAssignments, h.dataSources, h.assignments, h.policies, h.decisionFunctions, hu, hn]

/-! ## One step, then every run -/

theorem getSession_current {s : Proxy} (hcur : s.SessionsCurrent) (userId : Nat) (dsName : String) :
    (s.getSession userId dsName).SessionsCurrent := by
  unfold getSession
  split
  · exact hcur
  · split
    · -- the loaded session is the one cached
      rename_i sd hload
      intro k sd' hk
      by_cases hkey : k = (userId, dsName)
      · subst hkey
        rw [AList.lookup_insert] at hk
        cases hk
        exact hload
      · rw [AList.lookup_insert_ne hkey] at hk
        exact hcur k sd' hk
    · exact hcur

/-- Only a role write changes the tables, and then to what it commits. -/
theorem roleStep_db (s : Proxy) :
    ∀ e : RoleEvent, (s.roleStep run e).db = s.db ∨ ∃ w : RoleWrite, w.apply s.db = .ok (s.roleStep run e).db
  | .connect connId username dsName => by
      left
      simp only [roleStep, step]
      split
      · exact onStartup_db ‹_›
      · rfl
  | .query connId => by
      left
      simp only [roleStep, step]
      split
      · exact getSession_db _ _ _
      · rfl
  | .task i => .inl (taskStep_cache run s i).2
  | .write w => by
      simp only [roleStep, serveRoleWrite]
      split
      · rename_i db' h
        exact .inr ⟨w, by rw [invalidateUsers_db]; exact h⟩
      · exact .inl rfl

theorem serveRoleWrite_current {s : Proxy} (hrefs : s.db.roles.Refs)
    (hkeys : (s.db.roles.roles.map (·.id)).Nodup) (hcur : s.SessionsCurrent) (w : RoleWrite)
    (hw : w.renames = false) : (s.serveRoleWrite w).SessionsCurrent := by
  unfold serveRoleWrite
  split
  · rename_i db' h
    intro k sd hk
    -- a surviving session is of a user the write did not invalidate
    obtain ⟨hk, hku⟩ := lookup_invalidateUsers _ _ hk
    have hroles := RoleWrite.resolveUserRoles_of_not_mem hrefs h hku
    have hnames := RoleWrite.roleNames_of_not_mem hrefs hkeys h hw hku
    rw [invalidateUsers_db, loadSession_of_roles (RoleWrite.apply_sameOutsideRoles h) hroles hnames]
    exact hcur k sd hk
  · exact hcur

variable {s : Proxy}

theorem roleStep_refs (hrefs : s.db.roles.Refs) (e : RoleEvent) : (s.roleStep run e).db.roles.Refs := by
  rcases roleStep_db run s e with h | ⟨w, h⟩
  · exact h ▸ hrefs
  · exact RoleWrite.apply_refs hrefs h

theorem roleStep_keys (hkeys : (s.db.roles.roles.map (·.id)).Nodup) (e : RoleEvent) :
    ((s.roleStep run e).db.roles.roles.map (·.id)).Nodup := by
  rcases roleStep_db run s e with h | ⟨w, h⟩
  · exact h ▸ hkeys
  · exact RoleWrite.apply_keys hkeys h

theorem roleStep_acyclic (hacyc : Reach.Acyclic (Inherits s.db.roles.inheritance)) (e : RoleEvent) :
    Reach.Acyclic (Inherits (s.roleStep run e).db.roles.inheritance) := by
  rcases roleStep_db run s e with h | ⟨w, h⟩
  · exact h ▸ hacyc
  · exact RoleWrite.apply_acyclic hacyc h

theorem roleStep_current (hrefs : s.db.roles.Refs) (hkeys : (s.db.roles.roles.map (·.id)).Nodup)
    (hcur : s.SessionsCurrent) : ∀ e : RoleEvent, e.renames = false → (s.roleStep run e).SessionsCurrent
  | .connect connId username dsName, _ => by
      simp only [roleStep, step]
      split
      · rename_i s' h
        rw [SessionsCurrent, onStartup_db h, onStartup_cache run h]
        exact hcur
      · exact hcur
  | .query connId, _ => by
      simp only [roleStep, step]
      split
      · exact getSession_current hcur _ _
      · exact hcur
  | .task i, _ => by
      show (s.taskStep run i).SessionsCurrent
      rw [SessionsCurrent, (taskStep_cache run s i).1, (taskStep_cache run s i).2]
      exact hcur
  | .write w, hw => serveRoleWrite_current hrefs hkeys hcur w hw

theorem runRoleEvents_refs (hrefs : s.db.roles.Refs) (events : List RoleEvent) :
    (s.runRoleEvents run events).db.roles.Refs :=
  Fold.foldl_inv (P := fun s : Proxy => s.db.roles.Refs) (fun _ e hs => roleStep_refs run hs e) events s hrefs

theorem runRoleEvents_acyclic (hacyc : Reach.Acyclic (Inherits s.db.roles.inheritance)) (events : List RoleEvent) :
    Reach.Acyclic (Inherits (s.runRoleEvents run events).db.roles.inheritance) :=
  Fold.foldl_inv (P := fun s : Proxy => Reach.Acyclic (Inherits s.db.roles.inheritance))
    (fun _ e hs => roleStep_acyclic run hs e) events s hacyc

/-- The cache stays current along a run that renames no role; the foreign
keys and the distinct role ids, which `create_role` and `update_role` need,
come along. -/
theorem runRoleEvents_current (hrefs : s.db.roles.Refs) (hkeys : (s.db.roles.roles.map (·.id)).Nodup)
    (hcur : s.SessionsCurrent) (events : List RoleEvent) (hnames : ∀ e ∈ events, e.renames = false) :
    (s.runRoleEvents run events).SessionsCurrent := by
  induction events generalizing s with
  | nil => exact hcur
  | cons e events ih =>
      have he := hnames e List.mem_cons_self
      exact ih (roleStep_refs run hrefs e) (roleStep_keys run hkeys e) (roleStep_current run hrefs hkeys hcur e he)
        fun e' he' => hnames e' (List.mem_cons_of_mem e he')

end Proxy

/-! ## Every run -/

/-- Whatever role handlers a run serves, the role tables keep their foreign
keys and the inheritance relation stays acyclic. -/
theorem roleRun_tables (run : DecisionFunction → Option Bool) {s : Proxy} (hrefs : s.db.roles.Refs)
    (hacyc : Reach.Acyclic (Inherits s.db.roles.inheritance)) (events : List RoleEvent) :
    (s.runRoleEvents run events).db.roles.Refs ∧
      Reach.Acyclic (Inherits (s.runRoleEvents run events).db.roles.inheritance) :=
  ⟨Proxy.runRoleEvents_refs run hrefs events, Proxy.runRoleEvents_acyclic run hacyc events⟩

/-- `alice` (user 1) holds `analysts` (role 5); `readers` (role 6) has no
members yet, and no role inherits. -/
def roleRunDb : ProxyDb where
  users := [⟨1, "alice", true⟩, ⟨2, "bob", true⟩]
  roles := ⟨[⟨5, "analysts", true⟩, ⟨6, "readers", true⟩], [⟨5, 1⟩], []⟩
  accesses := []
  dataSources := []
  assignments := []
  policies := []
  decisionFunctions := []

def roleRunStart : Proxy :=
  ⟨roleRunDb, ∅, ∅, [], []⟩

/-- `analysts` inherits from `readers`; a new role `auditors` gets `bob` and
inherits from `analysts`; `readers` is deactivated and `analysts` deleted,
with `alice` and `bob` querying in between. -/
def roleRunEvents : List RoleEvent :=
  [.write (.addParent 5 6), .write (.createRole 7 "auditors"), .write (.addMembers 7 [2]),
    .write (.addParent 7 5), .query 0, .write (.updateRole 6 ⟨none, some false⟩), .query 1,
    .write (.deleteRole 5)]

theorem roleRunTables :
    (roleRunStart.runRoleEvents (fun _ => none) roleRunEvents).db.roles.Refs ∧
      Reach.Acyclic (Inherits (roleRunStart.runRoleEvents (fun _ => none) roleRunEvents).db.roles.inheritance) :=
  roleRun_tables (fun _ => none) ⟨by decide, by decide, by decide⟩ acyclic_nil roleRunEvents

/-- Across any interleaving of connections, queries, rebuild tasks and role
writes served whole that renames no role, the policy hook serves every user,
on every datasource, the session `load_session` would load from the tables
as they then are: the role handlers invalidate every user whose session a
write changes. -/
theorem roleRun_sessionsCurrent (run : DecisionFunction → Option Bool) {s : Proxy} (hrefs : s.db.roles.Refs)
    (hkeys : (s.db.roles.roles.map (·.id)).Nodup) (hcur : s.SessionsCurrent) (events : List RoleEvent)
    (hnames : ∀ e ∈ events, e.renames = false) (userId : Nat) (dsName : String) :
    (s.runRoleEvents run events).session userId dsName =
      PolicyHook.loadSession (s.runRoleEvents run events).db userId dsName := by
  have hend := Proxy.runRoleEvents_current run hrefs hkeys hcur events hnames
  unfold Proxy.session
  split
  · rename_i sd hsd
    exact (hend (userId, dsName) sd hsd).symm
  · rfl

/-- `alice` (user 1) holds `analysts` (role 5) and has access to datasource
`main`; `readers` (role 6) is assigned the `column_deny` policy on `ssn`,
and no role inherits yet. -/
def sessionRunDb : ProxyDb where
  users := [⟨1, "alice", true⟩, ⟨2, "bob", true⟩]
  roles := ⟨[⟨5, "analysts", true⟩, ⟨6, "readers", true⟩], [⟨5, 1⟩], []⟩
  accesses := [⟨10, some 1, none, "user"⟩]
  dataSources := [⟨10, "main", true, mainCatalog⟩]
  assignments := [⟨1, 1, 10, none, some 6, "role", 0⟩]
  policies := [ssnDenyPolicy]
  decisionFunctions := []

def sessionRunStart : Proxy :=
  ⟨sessionRunDb, ∅, ∅, [], []⟩

/-- `alice` connects and queries; `analysts` comes to inherit from `readers`
and she queries again; `readers` is deactivated and she queries once more. -/
def sessionRunEvents : List RoleEvent :=
  [.connect 7 "alice" "main", .query 7, .write (.addParent 5 6), .query 7,
    .write (.updateRole 6 ⟨none, some false⟩), .query 7]

theorem roleRunSessions :
    (sessionRunStart.runRoleEvents (fun _ => none) sessionRunEvents).session 1 "main" =
      PolicyHook.loadSession (sessionRunStart.runRoleEvents (fun _ => none) sessionRunEvents).db 1 "main" :=
  roleRun_sessionsCurrent (fun _ => none) ⟨by decide, by decide, by decide⟩ (by decide)
    (fun _ _ h => by simp [sessionRunStart] at h) sessionRunEvents (by decide) 1 "main"

/-- A rename is outside the runs above: `update_role` invalidates nobody, and
the session `alice` cached keeps the old name of her role. -/
example :
    ((sessionRunStart.runRoleEvents (fun _ => none)
        [.connect 7 "alice" "main", .query 7, .write (.updateRole 5 ⟨some "auditors", none⟩), .query 7]).session
          1 "main").toOption.map (·.roles) = some ["analysts"] ∧
      (PolicyHook.loadSession (sessionRunStart.runRoleEvents (fun _ => none)
        [.connect 7 "alice" "main", .query 7, .write (.updateRole 5 ⟨some "auditors", none⟩), .query 7]).db
          1 "main").toOption.map (·.roles) = some ["auditors"] := by
  decide +kernel

end BetweenRows
